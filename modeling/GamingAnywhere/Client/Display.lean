import GamingAnywhere.Client.Texture
import GamingAnywhere.Lib.Accounts
import GamingAnywhere.Pipeline.Holding

/-!
# From the decoder to the window

One channel of the player: the RTSP thread decodes in `play_video_priv` and asks the main thread, by events, to
create the window and to render what it has stored in the pipe. The window, the pipe and the scaler come into
being together, when the first frame has been decoded.
-/

namespace GamingAnywhere.Client
open Lib Pipeline

/-! ## The two threads -/

inductive Party
  | decoder
  | player
  deriving DecidableEq

structure Geometry where
  width : Int
  height : Int
  format : Int

/-- What `avcodec_decode_video2` leaves in `vframe[ch]`. -/
structure DecodedFrame where
  geometry : Geometry
  data : Fin 4 → Int → UInt8
  linesize : Fin 4 → Int

inductive Request
  | createOverlay
  | renderImage
  deriving DecidableEq

/-- Where `play_video_priv` is: at `copying` it has seen the window, and at `asking` and `stored` it is about to
push an event. -/
inductive DecoderPlace (α : Type*)
  | idle
  | decoded (vframe : DecodedFrame)
  | asking
  | copying (vframe : DecodedFrame)
  | allocated (vframe : DecodedFrame) (data : α)
  | scaled (data : α)
  | storing (data : α)
  | stored

/-- Where `ProcessEvent` is: in `create_overlay` at `asked` and `creating`, then in `render_image`. -/
inductive PlayerPlace (α : Type*)
  | idle
  | asked
  | creating (geometry : Geometry)
  | loading
  | loaded (data : α)
  | rendered (data : α)

/-- `surface` is the window with the size it was created for, as `swsctx` and the pictures of the pipe are, and
`geometry` what `width`, `height` and `format` say. At `crashed`, NULL is taken for a pipe. -/
structure Display (α : Type*) where
  surface : Option Geometry
  geometry : Geometry
  pipe : Option (PoolState Party α)
  pictures : α → AvPicture
  texture : Int → UInt8
  queue : List Request
  decoder : DecoderPlace α
  player : PlayerPlace α
  crashed : Bool
  exited : Bool

structure Drawing where
  geometry : Geometry
  pitch : Int
  picture : AvPicture

inductive DisplayEvent (α : Type*)
  | decode (vframe : DecodedFrame)
  | skip
  | look (vframe : DecodedFrame)
  | push (event : Request) (queued : Bool)
  | pool (event : PoolEvent Party α)
  | scale (data : α)
  | null
  | take (event : Request)
  | duplicate
  | check
  | window (geometry : Geometry)
  | fail
  | draw (drawing : Drawing)
  | unlocked (picture : AvPicture)

def videoPoolsize : Int := 16

def avPictureSize : Int := 96

section
variable {α : Type*}

def Display.pushed (s : Display α) (event : Request) (queued : Bool) : List Request :=
  if queued then s.queue ++ [event] else s.queue

def Request.place : Request → PlayerPlace α
  | createOverlay => .asked
  | renderImage => .loading

variable [DecidableEq α]

/-- `swsScale` gets what the scaler was created for, the frame, and the picture it writes to. `SDL_PushEvent` may
fail, `fail` is a failure in `create_overlay`, and at `unlocked` one of `SDL_LockTexture`. -/
inductive DisplayStep (swsScale : Geometry → DecodedFrame → AvPicture → AvPicture) (malloc : Nat → Option α) :
    Display α → DisplayEvent α → Display α → Prop
  | decode {s : Display α} {vframe : DecodedFrame} : s.decoder = .idle →
      DisplayStep swsScale malloc s (.decode vframe) { s with decoder := .decoded vframe }
  | skip {s : Display α} {vframe : DecodedFrame} : s.decoder = .decoded vframe → s.surface = none →
      DisplayStep swsScale malloc s .skip { s with geometry := vframe.geometry, decoder := .asking }
  | look {s : Display α} {vframe : DecodedFrame} : s.decoder = .decoded vframe → s.surface ≠ none →
      DisplayStep swsScale malloc s (.look vframe) { s with decoder := .copying vframe }
  | ask {s : Display α} {queued : Bool} : s.decoder = .asking →
      DisplayStep swsScale malloc s (.push .createOverlay queued)
        { s with decoder := .idle, queue := s.pushed .createOverlay queued }
  | copyNull {s : Display α} {vframe : DecodedFrame} : s.decoder = .copying vframe → s.pipe = none →
      DisplayStep swsScale malloc s .null { s with crashed := true }
  | allocate {s : Display α} {vframe : DecodedFrame} {data : α} {stolen : Bool} {pipe pipe' : PoolState Party α} :
      s.decoder = .copying vframe → s.pipe = some pipe →
      PoolStep pipe (.allocate .decoder data stolen) pipe' →
      DisplayStep swsScale malloc s (.pool (.allocate .decoder data stolen))
        { s with pipe := some pipe', decoder := .allocated vframe data }
  | abort {s : Display α} {vframe : DecodedFrame} {pipe pipe' : PoolState Party α} :
      s.decoder = .copying vframe → s.pipe = some pipe → PoolStep pipe (.abort .decoder) pipe' →
      DisplayStep swsScale malloc s (.pool (.abort .decoder)) { s with pipe := some pipe', exited := true }
  | scale {s : Display α} {vframe : DecodedFrame} {data : α} {geometry : Geometry} :
      s.decoder = .allocated vframe data → s.surface = some geometry →
      DisplayStep swsScale malloc s (.scale data)
        { s with decoder := .scaled data,
                 pictures := Function.update s.pictures data (swsScale geometry vframe (s.pictures data)) }
  | storing {s : Display α} {data : α} {pipe pipe' : PoolState Party α} :
      s.decoder = .scaled data → s.pipe = some pipe → PoolStep pipe (.storing .decoder data) pipe' →
      DisplayStep swsScale malloc s (.pool (.storing .decoder data))
        { s with pipe := some pipe', decoder := .storing data }
  | store {s : Display α} {data : α} {pipe pipe' : PoolState Party α} :
      s.decoder = .storing data → s.pipe = some pipe → PoolStep pipe (.store .decoder data) pipe' →
      DisplayStep swsScale malloc s (.pool (.store .decoder data))
        { s with pipe := some pipe', decoder := .stored }
  | request {s : Display α} {queued : Bool} : s.decoder = .stored →
      DisplayStep swsScale malloc s (.push .renderImage queued)
        { s with decoder := .idle, queue := s.pushed .renderImage queued }
  | take {s : Display α} {event : Request} {queue : List Request} :
      s.player = .idle → s.queue = event :: queue →
      DisplayStep swsScale malloc s (.take event) { s with queue := queue, player := event.place }
  | duplicate {s : Display α} : s.player = .asked → s.surface ≠ none →
      DisplayStep swsScale malloc s .duplicate { s with player := .idle }
  | check {s : Display α} : s.player = .asked → s.surface = none →
      DisplayStep swsScale malloc s .check { s with player := .creating s.geometry }
  | window {s : Display α} {geometry : Geometry} {pool : Pool α} : s.player = .creating geometry →
      datapoolInit malloc videoPoolsize avPictureSize .start = some pool →
      DisplayStep swsScale malloc s (.window geometry)
        { s with surface := some geometry, pipe := some ⟨pool, [], fun _ => .idle, false⟩, player := .idle }
  | fail {s : Display α} {geometry : Geometry} : s.player = .creating geometry →
      DisplayStep swsScale malloc s .fail { s with exited := true }
  | loadNull {s : Display α} : s.player = .loading → s.pipe = none →
      DisplayStep swsScale malloc s .null { s with crashed := true }
  | load {s : Display α} {found : Option α} {pipe pipe' : PoolState Party α} :
      s.player = .loading → s.pipe = some pipe → PoolStep pipe (.load .player found) pipe' →
      DisplayStep swsScale malloc s (.pool (.load .player found))
        { s with pipe := some pipe', player := found.elim .idle .loaded }
  | draw {s : Display α} {data : α} {pitch : Int} : s.player = .loaded data →
      DisplayStep swsScale malloc s (.draw ⟨s.geometry, pitch, s.pictures data⟩)
        { s with player := .rendered data,
                 texture := renderImage s.geometry.width s.geometry.height (some (s.pictures data)) (some pitch)
                   s.texture }
  | unlocked {s : Display α} {data : α} : s.player = .loaded data →
      DisplayStep swsScale malloc s (.unlocked (s.pictures data))
        { s with player := .rendered data,
                 texture := renderImage s.geometry.width s.geometry.height (some (s.pictures data)) none
                   s.texture }
  | release {s : Display α} {data : α} {pipe pipe' : PoolState Party α} :
      s.player = .rendered data → s.pipe = some pipe → PoolStep pipe (.release .player data) pipe' →
      DisplayStep swsScale malloc s (.pool (.release .player data)) { s with pipe := some pipe', player := .idle }

def Display.start (pictures : α → AvPicture) (texture : Int → UInt8) : Display α where
  surface := none
  geometry := ⟨0, 0, 0⟩
  pipe := none
  pictures := pictures
  texture := texture
  queue := []
  decoder := .idle
  player := .idle
  crashed := false
  exited := false

/-- Nothing runs behind a call of `exit` or a crash. -/
def display (swsScale : Geometry → DecodedFrame → AvPicture → AvPicture) (malloc : Nat → Option α) :
    System (Display α) (DisplayEvent α) where
  Init s := ∃ pictures texture, s = .start pictures texture
  Step s l t := s.crashed = false ∧ s.exited = false ∧ DisplayStep swsScale malloc s l t

/-! ## What holds of the two threads -/

def DecoderPlace.data : DecoderPlace α → List α
  | allocated _ data | scaled data | storing data => [data]
  | _ => []

def PlayerPlace.data : PlayerPlace α → List α
  | loaded data | rendered data => [data]
  | _ => []

def DecoderPlace.Early : DecoderPlace α → Prop
  | idle | decoded _ | asking => True
  | _ => False

def PlayerPlace.Early : PlayerPlace α → Prop
  | idle | asked | creating _ => True
  | _ => False

structure Display.Piped (s : Display α) (pipe : PoolState Party α) (a : Stock Party α) : Prop where
  related : Related pipe a
  decoder : pipe.heldBy .decoder = s.decoder.data.map (Party.decoder, ·)
  player : pipe.heldBy .player = s.player.data.map (Party.player, ·)

structure Display.Sound (s : Display α) (a : Stock Party α) : Prop where
  opened : s.surface.isSome = s.pipe.isSome
  piped : ∀ pipe, s.pipe = some pipe → s.Piped pipe a
  unpiped : s.pipe = none → a.data = [] ∧ s.decoder.Early ∧ s.player.Early ∧ Request.renderImage ∉ s.queue
  creating : ∀ geometry, s.player = .creating geometry → s.surface = none
  safe : s.crashed = false

variable {swsScale : Geometry → DecodedFrame → AvPicture → AvPicture} {malloc : Nat → Option α}
  {s t : Display α} {l : DisplayEvent α} {a : Stock Party α}

omit [DecidableEq α] in
theorem Display.Sound.unopened (sound : s.Sound a) (closed : s.surface = none) : s.pipe = none := by
  have same := sound.opened
  rw [closed] at same
  exact Option.not_isSome_iff_eq_none.mp (by simp [← same])

omit [DecidableEq α] in
theorem Display.Sound.copying_piped (sound : s.Sound a) (late : ¬ s.decoder.Early) : s.pipe ≠ none :=
  fun nothing => late (sound.unpiped nothing).2.1

omit [DecidableEq α] in
theorem Display.Sound.loading_piped (sound : s.Sound a) (late : ¬ s.player.Early) : s.pipe ≠ none :=
  fun nothing => late (sound.unpiped nothing).2.2.1

theorem Display.Sound.operated (sound : s.Sound a) {event : PoolEvent Party α} {pipe pipe' : PoolState Party α}
    (here : s.pipe = some pipe) (taken : PoolStep pipe event pipe') (decoder : DecoderPlace α)
    (player : PlayerPlace α) (exited : Bool)
    (left : pipe'.heldBy .decoder = decoder.data.map (Party.decoder, ·))
    (right : pipe'.heldBy .player = player.data.map (Party.player, ·))
    (creating : ∀ geometry, player = .creating geometry → s.player = .creating geometry) :
    ∃ b, StockStep a event b ∧
      Display.Sound { s with pipe := some pipe', decoder := decoder, player := player, exited := exited } b := by
  obtain ⟨b, step, related⟩ := (sound.piped pipe here).related.step taken
  have opened : s.surface.isSome = true := by rw [sound.opened, here]; rfl
  refine ⟨b, step, opened, ?_, nofun, fun geometry now => sound.creating geometry (creating geometry now),
    sound.safe⟩
  intro _ same
  obtain rfl := Option.some.inj same
  exact ⟨related, left, right⟩

omit [DecidableEq α] in
theorem Display.Sound.moved (sound : s.Sound a) {geometry : Geometry} {pictures : α → AvPicture}
    {texture : Int → UInt8} {queue : List Request} {decoder : DecoderPlace α} {player : PlayerPlace α}
    {exited : Bool} (left : decoder.data = s.decoder.data) (right : player.data = s.player.data)
    (early : s.pipe = none → decoder.Early ∧ player.Early ∧ Request.renderImage ∉ queue)
    (creating : ∀ geometry, player = .creating geometry → s.surface = none) :
    Display.Sound { s with geometry := geometry, pictures := pictures, texture := texture, queue := queue,
                           decoder := decoder, player := player, exited := exited } a := by
  refine ⟨sound.opened, fun pipe here => ?_, fun nothing => ⟨(sound.unpiped nothing).1, early nothing⟩, creating,
    sound.safe⟩
  obtain ⟨related, first, second⟩ := sound.piped pipe here
  exact ⟨related, by rw [first, ← left], by rw [second, ← right]⟩

/-! ## What is on its way -/

def PlayerPlace.undrawn : PlayerPlace α → List α
  | loaded data => [data]
  | _ => []

abbrev VideoItem := System.Passing DecodedFrame AvPicture

def Display.decoding (s : Display α) : List VideoItem :=
  match s.decoder with
  | .copying vframe | .allocated vframe _ => [.before vframe]
  | .scaled data | .storing data => [.after (s.pictures data)]
  | _ => []

def Display.items (s : Display α) (a : Stock Party α) : List VideoItem :=
  (s.player.undrawn ++ a.data).map (fun data => .after (s.pictures data)) ++ s.decoding

@[simp] def DisplayEvent.looked : DisplayEvent α → Option DecodedFrame
  | .look vframe => some vframe
  | _ => none

@[simp] def DisplayEvent.rendered : DisplayEvent α → Option AvPicture
  | .draw drawing => some drawing.picture
  | .unlocked picture => some picture
  | _ => none

def DisplayEvent.steals : DisplayEvent α → Bool
  | .pool (.allocate _ _ stolen) => stolen
  | _ => false

/-- The step goes on with what is on its way, which `C` relates to the frames it comes from. -/
def Display.Carries (C : DecodedFrame → AvPicture → Prop) (s : Display α) (a : Stock Party α) (l : DisplayEvent α)
    (t : Display α) : Prop :=
  ∃ b, t.Sound b ∧ System.Carried C l.steals ((l.rendered.map .after).toList ++ t.items b)
    (s.items a ++ (l.looked.map .before).toList)

variable {C : DecodedFrame → AvPicture → Prop} {vframe : DecodedFrame} {data : α}
  {pipe pipe' : PoolState Party α}

/-! ## The decoder goes on -/

omit [DecidableEq α] in
theorem Display.Sound.look (sound : s.Sound a) (place : s.decoder = .decoded vframe) (opened : s.surface ≠ none) :
    s.Carries C a (.look vframe) { s with decoder := .copying vframe } := by
  refine ⟨a, sound.moved (by rw [place]; rfl) rfl (fun nothing => ?_) sound.creating, .of_eq ?_⟩
  · have same := sound.opened
    rw [nothing] at same
    exact absurd (Option.not_isSome_iff_eq_none.mp (by simp [same])) opened
  · simp [Display.items, Display.decoding, place]

omit [DecidableEq α] in
theorem Display.Sound.ask {queued : Bool} (sound : s.Sound a) (place : s.decoder = .asking) :
    s.Carries C a (.push .createOverlay queued)
      { s with decoder := .idle, queue := s.pushed .createOverlay queued } := by
  refine ⟨a, sound.moved (by rw [place]; rfl) rfl (fun nothing => ?_) sound.creating, .of_eq ?_⟩
  · obtain ⟨-, -, early, fresh⟩ := sound.unpiped nothing
    refine ⟨trivial, early, ?_⟩
    cases queued <;> simp [Display.pushed, fresh]
  · simp [Display.items, Display.decoding, place]

theorem Display.Sound.allocate {stolen : Bool} (sound : s.Sound a) (place : s.decoder = .copying vframe)
    (here : s.pipe = some pipe) (taken : PoolStep pipe (.allocate .decoder data stolen) pipe') :
    s.Carries C a (.pool (.allocate .decoder data stolen))
      { s with pipe := some pipe', decoder := .allocated vframe data } := by
  obtain ⟨related, left, right⟩ := sound.piped pipe here
  obtain ⟨b, step, after⟩ := sound.operated here taken (.allocated vframe data) s.player s.exited
    (by rw [taken.allocate_heldBy, left, place]; rfl)
    ((taken.other (show Party.decoder ≠ .player by decide)).1.trans right) fun _ => id
  refine ⟨b, after, ?_⟩
  have order := step.order
  cases stolen with
  | false =>
      have data : a.data = b.data := by simpa [PoolEvent.stored, PoolEvent.taken] using order
      exact .of_eq (by simp [Display.items, Display.decoding, place, data])
  | true =>
      have data : a.data = data :: b.data := by simpa [PoolEvent.stored, PoolEvent.taken] using order
      refine .inr ⟨rfl, ?_⟩
      simp [Display.items, Display.decoding, place, data]

theorem Display.Sound.abort (sound : s.Sound a) (here : s.pipe = some pipe)
    (taken : PoolStep pipe (.abort .decoder) pipe') :
    s.Carries C a (.pool (.abort .decoder)) { s with pipe := some pipe', exited := true } := by
  obtain ⟨related, left, right⟩ := sound.piped pipe here
  obtain ⟨b, step, after⟩ := sound.operated here taken s.decoder s.player true
    (by rw [taken.abort_heldBy, left])
    ((taken.other (show Party.decoder ≠ .player by decide)).1.trans right) fun _ => id
  have data : a.data = b.data := by simpa [PoolEvent.stored, PoolEvent.taken] using step.order
  exact ⟨b, after, .of_eq (by simp [Display.items, Display.decoding, data])⟩

omit [DecidableEq α] in
theorem Display.Sound.alone (sound : s.Sound a) (place : s.decoder = .allocated vframe data) :
    (∀ q ∈ s.player.data, q ≠ data) ∧ ∀ q ∈ a.data, q ≠ data := by
  have late : ¬ s.decoder.Early := by rw [place]; exact id
  obtain ⟨pipe, here⟩ := Option.ne_none_iff_exists'.mp (sound.copying_piped late)
  obtain ⟨related, left, right⟩ := sound.piped pipe here
  have mine : (Party.decoder, data) ∈ pipe.held :=
    PoolState.mem_of_heldBy left (by rw [place]; exact List.mem_singleton_self data)
  constructor
  · exact fun q member => related.ne_of_held mine (PoolState.mem_of_heldBy right member) (by decide)
  · exact fun q waits => related.ne_of_data mine waits

theorem Display.Sound.scale {geometry : Geometry} (sound : s.Sound a) (place : s.decoder = .allocated vframe data)
    (scales : C vframe (swsScale geometry vframe (s.pictures data))) :
    s.Carries C a (.scale data) { s with
      decoder := .scaled data,
      pictures := Function.update s.pictures data (swsScale geometry vframe (s.pictures data)) } := by
  have late : ¬ s.decoder.Early := by rw [place]; exact id
  obtain ⟨theirs, waiting⟩ := sound.alone place
  have undrawn : ∀ q ∈ s.player.undrawn, q ∈ s.player.data := by
    cases s.player <;> simp [PlayerPlace.undrawn, PlayerPlace.data]
  have other : ∀ q ∈ s.player.undrawn ++ a.data, q ≠ data := fun q member =>
    (List.mem_append.mp member).elim (fun loaded => theirs q (undrawn q loaded)) (waiting q)
  refine ⟨a, sound.moved (by rw [place]; rfl) rfl (fun nothing => absurd nothing (sound.copying_piped late))
    sound.creating, .inl ?_⟩
  have ahead : (s.player.undrawn ++ a.data).map (fun q => (System.Passing.after
        (Function.update s.pictures data (swsScale geometry vframe (s.pictures data)) q) : VideoItem)) =
      (s.player.undrawn ++ a.data).map fun q => System.Passing.after (s.pictures q) :=
    List.map_congr_left fun q member => congrArg System.Passing.after (Function.update_of_ne (other q member) _ _)
  have before : s.decoding = [.before vframe] := by rw [Display.decoding, place]
  have now : Display.decoding { s with
      decoder := .scaled data,
      pictures := Function.update s.pictures data (swsScale geometry vframe (s.pictures data)) } =
      [.after (swsScale geometry vframe (s.pictures data))] := by simp [Display.decoding]
  simp only [DisplayEvent.rendered, DisplayEvent.looked, Option.map_none, Option.toList_none, List.nil_append,
    List.append_nil]
  unfold Display.items
  rw [ahead, before, now]
  exact List.rel_append (System.passes_same _) (.cons (.changed scales) .nil)

theorem Display.Sound.storing (sound : s.Sound a) (place : s.decoder = .scaled data) (here : s.pipe = some pipe)
    (taken : PoolStep pipe (.storing .decoder data) pipe') :
    s.Carries C a (.pool (.storing .decoder data)) { s with pipe := some pipe', decoder := .storing data } := by
  obtain ⟨related, left, right⟩ := sound.piped pipe here
  obtain ⟨b, step, after⟩ := sound.operated here taken (.storing data) s.player s.exited
    (by rw [taken.storing_heldBy, left, place]; rfl)
    ((taken.other (show Party.decoder ≠ .player by decide)).1.trans right) fun _ => id
  have data : a.data = b.data := by simpa [PoolEvent.stored, PoolEvent.taken] using step.order
  exact ⟨b, after, .of_eq (by simp [Display.items, Display.decoding, place, data])⟩

theorem Display.Sound.store (sound : s.Sound a) (place : s.decoder = .storing data) (here : s.pipe = some pipe)
    (taken : PoolStep pipe (.store .decoder data) pipe') :
    s.Carries C a (.pool (.store .decoder data)) { s with pipe := some pipe', decoder := .stored } := by
  obtain ⟨related, left, right⟩ := sound.piped pipe here
  have emptied := taken.store_heldBy
  rw [left, place, DecoderPlace.data, List.map_singleton, List.erase_cons_head] at emptied
  obtain ⟨b, step, after⟩ := sound.operated here taken .stored s.player s.exited
    emptied ((taken.other (show Party.decoder ≠ .player by decide)).1.trans right) fun _ => id
  have data : a.data ++ [data] = b.data := by simpa [PoolEvent.stored, PoolEvent.taken] using step.order
  exact ⟨b, after, .of_eq (by simp [Display.items, Display.decoding, place, ← data])⟩

omit [DecidableEq α] in
theorem Display.Sound.request {queued : Bool} (sound : s.Sound a) (place : s.decoder = .stored) :
    s.Carries C a (.push .renderImage queued)
      { s with decoder := .idle, queue := s.pushed .renderImage queued } := by
  have late : ¬ s.decoder.Early := by rw [place]; exact id
  refine ⟨a, sound.moved (by rw [place]; rfl) rfl (fun nothing => ?_) sound.creating, .of_eq ?_⟩
  · exact absurd nothing (sound.copying_piped late)
  · simp [Display.items, Display.decoding, place]

/-! ## The player goes on -/

omit [DecidableEq α] in
theorem Display.Sound.take {event : Request} {queue : List Request} (sound : s.Sound a) (place : s.player = .idle)
    (queued : s.queue = event :: queue) :
    s.Carries C a (.take event) { s with queue := queue, player := event.place } := by
  have nothing : (event.place (α := α)).data = s.player.data := by
    rw [place]
    cases event <;> rfl
  refine ⟨a, sound.moved rfl nothing (fun closed => ?_) (by cases event <;> rintro _ ⟨⟩), .of_eq ?_⟩
  · obtain ⟨-, early, -, fresh⟩ := sound.unpiped closed
    rw [queued, List.mem_cons, not_or] at fresh
    refine ⟨early, ?_, fresh.2⟩
    cases event with
    | createOverlay => trivial
    | renderImage => exact absurd rfl fresh.1
  · cases event <;> simp [Display.items, Display.decoding, place, Request.place, PlayerPlace.undrawn]

omit [DecidableEq α] in
theorem Display.Sound.overlay {l : DisplayEvent α} {player : PlayerPlace α} (sound : s.Sound a)
    (place : s.player = .asked) (empty : player.data = []) (undrawn : player.undrawn = []) (early : player.Early)
    (creating : ∀ geometry, player = .creating geometry → s.surface = none) (nothing : l.rendered = none)
    (unseen : l.looked = none) : s.Carries C a l { s with player := player } := by
  refine ⟨a, sound.moved rfl (by rw [place, empty]; rfl) (fun closed => ?_) creating, .of_eq ?_⟩
  · obtain ⟨-, first, -, fresh⟩ := sound.unpiped closed
    exact ⟨first, early, fresh⟩
  · have before : (PlayerPlace.asked (α := α)).undrawn = [] := rfl
    rw [nothing, unseen]
    simp [Display.items, Display.decoding, place, undrawn, before]

theorem Display.Sound.window (sound : s.Sound a) (distinct : Distinct malloc) {geometry : Geometry} {pool : Pool α}
    (place : s.player = .creating geometry)
    (init : datapoolInit malloc videoPoolsize avPictureSize .start = some pool) :
    ∃ b, b.data = [] ∧ a.data = [] ∧ Display.Sound { s with
      surface := some geometry, pipe := some ⟨pool, [], fun _ => .idle, false⟩, player := .idle } b := by
  have closed := sound.unopened (sound.creating geometry place)
  obtain ⟨empty, early, -, -⟩ := sound.unpiped closed
  obtain ⟨b, run, related, -⟩ := pipeline_related (ι := Party) distinct init (.nil _)
  cases run
  refine ⟨⟨(blocks malloc videoPoolsize.toNat).reverse, [], [], false⟩, rfl, empty, rfl,
    fun pipe here => ?_, nofun, nofun, sound.safe⟩
  obtain rfl := Option.some.inj here
  refine ⟨related, ?_, rfl⟩
  have nothing : s.decoder.data = [] := by
    cases place : s.decoder with
    | idle | decoded | asking | stored => rfl
    | copying | allocated | scaled | storing =>
        rw [place] at early
        exact early.elim
  rw [nothing]
  rfl

theorem Display.Sound.load {found : Option α} (sound : s.Sound a) (place : s.player = .loading)
    (here : s.pipe = some pipe) (taken : PoolStep pipe (.load .player found) pipe') :
    s.Carries C a (.pool (.load .player found))
      { s with pipe := some pipe', player := found.elim .idle .loaded } := by
  obtain ⟨related, left, right⟩ := sound.piped pipe here
  obtain ⟨b, step, after⟩ := sound.operated here taken s.decoder (found.elim .idle .loaded) s.exited
    ((taken.other (show Party.player ≠ .decoder by decide)).1.trans left)
    (by rw [taken.load_heldBy.1, right, place]; cases found <;> rfl) (by cases found <;> rintro _ ⟨⟩)
  have data : a.data = found.toList ++ b.data := by
    simpa [PoolEvent.stored, PoolEvent.taken] using step.order
  refine ⟨b, after, .of_eq ?_⟩
  cases found with
  | none => simp [Display.items, Display.decoding, place, PlayerPlace.undrawn, data]
  | some data => simp [Display.items, Display.decoding, place, PlayerPlace.undrawn, data]

omit [DecidableEq α] in
theorem Display.Sound.render {l : DisplayEvent α} {texture : Int → UInt8} (sound : s.Sound a)
    (place : s.player = .loaded data) (shown : l.rendered = some (s.pictures data)) (unseen : l.looked = none) :
    s.Carries C a l { s with player := .rendered data, texture := texture } := by
  have late : ¬ s.player.Early := by rw [place]; exact id
  refine ⟨a, sound.moved rfl (by rw [place]; rfl) (fun nothing => ?_) (by rintro _ ⟨⟩), .of_eq ?_⟩
  · exact absurd nothing (sound.loading_piped late)
  · rw [shown, unseen]
    simp [Display.items, Display.decoding, place, PlayerPlace.undrawn]

theorem Display.Sound.release (sound : s.Sound a) (place : s.player = .rendered data) (here : s.pipe = some pipe)
    (taken : PoolStep pipe (.release .player data) pipe') :
    s.Carries C a (.pool (.release .player data)) { s with pipe := some pipe', player := .idle } := by
  obtain ⟨related, left, right⟩ := sound.piped pipe here
  have emptied := taken.release_heldBy.1
  rw [right, place, PlayerPlace.data, List.map_singleton, List.erase_cons_head] at emptied
  obtain ⟨b, step, after⟩ := sound.operated here taken s.decoder .idle s.exited
    ((taken.other (show Party.player ≠ .decoder by decide)).1.trans left) emptied (by rintro _ ⟨⟩)
  have data : a.data = b.data := by simpa [PoolEvent.stored, PoolEvent.taken] using step.order
  exact ⟨b, after, .of_eq (by simp [Display.items, Display.decoding, place, PlayerPlace.undrawn, data])⟩

theorem DisplayStep.carries (sound : s.Sound a) (distinct : Distinct malloc)
    (scales : ∀ geometry, s.surface = some geometry → ∀ vframe old, C vframe (swsScale geometry vframe old))
    (step : DisplayStep swsScale malloc s l t) : s.Carries C a l t := by
  cases step with
  | decode place | skip place closed =>
      refine ⟨a, sound.moved (by rw [place]; rfl) rfl (fun nothing => ⟨trivial, (sound.unpiped nothing).2.2⟩)
        sound.creating, .of_eq ?_⟩
      simp [Display.items, Display.decoding, place]
  | look place opened => exact sound.look place opened
  | ask place => exact sound.ask place
  | copyNull place nothing =>
      have late : ¬ s.decoder.Early := by rw [place]; exact id
      exact absurd nothing (sound.copying_piped late)
  | loadNull place nothing =>
      have late : ¬ s.player.Early := by rw [place]; exact id
      exact absurd nothing (sound.loading_piped late)
  | allocate place here taken => exact sound.allocate place here taken
  | abort place here taken => exact sound.abort here taken
  | scale place opened => exact sound.scale place (scales _ opened _ _)
  | storing place here taken => exact sound.storing place here taken
  | store place here taken => exact sound.store place here taken
  | request place => exact sound.request place
  | take place queued => exact sound.take place queued
  | duplicate place opened => exact sound.overlay place rfl rfl trivial (by rintro _ ⟨⟩) rfl rfl
  | check place closed => exact sound.overlay place rfl rfl trivial (fun _ _ => closed) rfl rfl
  | window place init =>
      obtain ⟨b, filled, empty, after⟩ := sound.window distinct place init
      exact ⟨b, after, .of_eq (by
        simp [Display.items, Display.decoding, place, PlayerPlace.undrawn, filled, empty])⟩
  | fail place =>
      exact ⟨a, sound.moved rfl rfl (fun nothing => (sound.unpiped nothing).2) sound.creating,
        .of_eq (by simp [Display.items, Display.decoding])⟩
  | load place here taken => exact sound.load place here taken
  | draw place | unlocked place => exact sound.render place rfl rfl
  | release place here taken => exact sound.release place here taken

/-! ## Requests -/

def Display.waiting (s : Display α) : Int := s.pipe.elim 0 fun pipe => pipe.pool.datacount

def DecoderPlace.requests : DecoderPlace α → Nat
  | stored => 1
  | _ => 0

def PlayerPlace.requests : PlayerPlace α → Nat
  | loading => 1
  | _ => 0

/-- The requests to render that wait, are about to be made, or are about to be met. -/
def Display.requests (s : Display α) : Nat :=
  s.queue.count .renderImage + s.decoder.requests + s.player.requests

def DisplayEvent.refused : DisplayEvent α → Bool
  | .push .renderImage queued => !queued
  | _ => false

def DisplayEvent.decoded : DisplayEvent α → Option DecodedFrame
  | .decode vframe => some vframe
  | _ => none

def DecoderPlace.unseen : DecoderPlace α → List DecodedFrame
  | decoded vframe => [vframe]
  | _ => []

theorem DisplayStep.seen (step : DisplayStep swsScale malloc s l t) :
    (l.looked.toList ++ t.decoder.unseen).Sublist (s.decoder.unseen ++ l.decoded.toList) := by
  cases step with
  | decode place | skip place closed | look place opened | ask place | allocate place here taken
  | scale place opened | storing place here taken | store place here taken | request place =>
      simp [DisplayEvent.decoded, place, DecoderPlace.unseen]
  | copyNull | abort | take | duplicate | check | window | fail | loadNull | load | draw | unlocked | release =>
      simp [DisplayEvent.decoded]

def DisplayEvent.opens : DisplayEvent α → Option Geometry
  | .window geometry => some geometry
  | _ => none

theorem DisplayStep.unwritten (sound : s.Sound a) (step : DisplayStep swsScale malloc s l t) :
    ∀ data ∈ s.player.data, t.pictures data = s.pictures data := by
  cases step with
  | scale place opened => exact fun q drawn => Function.update_of_ne ((sound.alone place).1 q drawn) _ _
  | _ => exact fun _ _ => rfl

/-! ## The texture -/

def DisplayEvent.drawn : DisplayEvent α → Option Drawing
  | .draw drawing => some drawing
  | _ => none

def Drawing.Left (drawing : Drawing) (texture : Int → UInt8) : Prop :=
  ∃ pixels, texture = renderImage drawing.geometry.width drawing.geometry.height (some drawing.picture)
    (some drawing.pitch) pixels

def Drawing.Holds (drawing : Drawing) (texture : Int → UInt8) : Prop :=
  HoldsFrame drawing.geometry.width drawing.geometry.height drawing.pitch drawing.picture texture

theorem Drawing.Left.holds {drawing : Drawing} {texture : Int → UInt8} (left : drawing.Left texture)
    (renders : Renders drawing.geometry.width drawing.geometry.height drawing.pitch) : drawing.Holds texture := by
  obtain ⟨pixels, rfl⟩ := left
  exact renders drawing.picture pixels

structure Display.Unasked (s : Display α) : Prop where
  decoder : s.decoder ≠ .asking
  queue : Request.createOverlay ∉ s.queue
  player : s.player = .idle
  closed : s.surface = none

theorem Display.Unasked.early (unasked : s.Unasked) (sound : s.Sound a)
    (step : DisplayStep swsScale malloc s l t) : (∃ vframe, l = .decode vframe) ∨ l = .skip := by
  obtain ⟨-, early, -, fresh⟩ := sound.unpiped (sound.unopened unasked.closed)
  cases step with
  | decode place => exact .inl ⟨_, rfl⟩
  | skip place closed => exact .inr rfl
  | look place opened => exact absurd unasked.closed opened
  | ask place => exact absurd place unasked.decoder
  | copyNull place | allocate place | abort place | scale place | storing place | store place | request place =>
      rw [place] at early
      exact early.elim
  | @take event queue place queued =>
      cases event with
      | createOverlay => exact absurd (queued ▸ List.mem_cons_self) unasked.queue
      | renderImage => exact absurd (queued ▸ List.mem_cons_self) fresh
  | duplicate place | check place | window place | fail place | loadNull place | load place | draw place
  | unlocked place | release place =>
      rw [unasked.player] at place
      cases place

structure Display.Uniform (geometry : Geometry) (s : Display α) : Prop where
  decoder : ∀ vframe ∈ s.decoder.unseen, vframe.geometry = geometry
  asked : s.geometry = geometry ∨ s.Unasked
  creating : ∀ g, s.player = .creating g → g = geometry
  surface : ∀ g, s.surface = some g → g = geometry

variable {geometry : Geometry}

theorem DisplayStep.known (sound : s.Sound a) (uniform : s.Uniform geometry)
    (step : DisplayStep swsScale malloc s l t) (first : ∀ vframe, l ≠ .decode vframe) (seen : l ≠ .skip) :
    s.geometry = geometry := by
  rcases uniform.asked with known | unasked
  · exact known
  · rcases unasked.early sound step with ⟨vframe, rfl⟩ | rfl
    · exact absurd rfl (first vframe)
    · exact absurd rfl seen

theorem DisplayStep.uniform (sound : s.Sound a) (uniform : s.Uniform geometry)
    (same : ∀ vframe, l.decoded = some vframe → vframe.geometry = geometry)
    (step : DisplayStep swsScale malloc s l t) : t.Uniform geometry := by
  have decoder : ∀ vframe ∈ t.decoder.unseen, vframe.geometry = geometry := by
    intro vframe unseen
    rcases List.mem_append.mp (step.seen.subset (List.mem_append_right _ unseen)) with before | now
    · exact uniform.decoder vframe before
    · exact same vframe (Option.mem_toList.mp now)
  have known := step.known sound uniform
  cases step with
  | @decode vframe place =>
      have asked : s.geometry = geometry ∨ Display.Unasked { s with decoder := .decoded vframe } :=
        uniform.asked.imp_right fun unasked => ⟨nofun, unasked.queue, unasked.player, unasked.closed⟩
      exact ⟨decoder, asked, uniform.creating, uniform.surface⟩
  | skip place closed =>
      have first := uniform.decoder _ (by rw [place]; exact List.mem_singleton_self _)
      exact ⟨decoder, .inl first, uniform.creating, uniform.surface⟩
  | check place closed =>
      exact ⟨decoder, .inl (known nofun nofun), by rintro _ ⟨⟩; exact known nofun nofun, uniform.surface⟩
  | window place init =>
      exact ⟨decoder, .inl (known nofun nofun), by rintro _ ⟨⟩, by rintro _ ⟨⟩; exact uniform.creating _ place⟩
  | @take event queue place queued =>
      exact ⟨decoder, .inl (known nofun nofun), by cases event <;> rintro _ ⟨⟩, uniform.surface⟩
  | @load found pipe pipe' place here taken =>
      exact ⟨decoder, .inl (known nofun nofun), by cases found <;> rintro _ ⟨⟩, uniform.surface⟩
  | duplicate place | draw place | unlocked place | release place =>
      exact ⟨decoder, .inl (known nofun nofun), by rintro _ ⟨⟩, uniform.surface⟩
  | look | ask | copyNull | allocate | abort | scale | storing | store | request | fail | loadNull =>
      exact ⟨decoder, .inl (known nofun nofun), uniform.creating, uniform.surface⟩

omit [DecidableEq α] in
theorem Display.sound_start (pictures : α → AvPicture) (texture : Int → UInt8) :
    (Display.start pictures texture).Sound ⟨[], [], [], false⟩ :=
  ⟨rfl, nofun, fun _ => ⟨rfl, trivial, trivial, List.not_mem_nil⟩, nofun, rfl⟩

section
variable {pictures : α → AvPicture} {texture : Int → UInt8} {ls : List (DisplayEvent α)}
  (distinct : Distinct malloc) (run : (display swsScale malloc).Run (.start pictures texture) ls s)
include distinct run

end

end

end GamingAnywhere.Client
