import GamingAnywhere.Lib.Accounts
import GamingAnywhere.Video.Encoding
import GamingAnywhere.Video.Filtering

namespace GamingAnywhere.Video
open Lib Pipeline

/-! ## Pictures -/

/-- What a buffer holds: the fields of the frame, and the bytes at its `imgbuf`. -/
structure Picture where
  frame : VsourceFrame
  image : List UInt8

/-- `sws_scale` gets the stride and the bytes of the source, and the bytes it writes to. -/
structure Conversion where
  iwidth : Int
  iheight : Int
  swsScale : Int → List UInt8 → List UInt8 → List UInt8

def Conversion.picSize (c : Conversion) : Int :=
  let area := int32 (c.iwidth * c.iheight)
  area + area / 4 + area / 4

theorem maxStride_pos : 0 < maxStride := by decide

def Picture.capture (imgpts : Int) (image : List UInt8) (p : Picture) : Picture where
  frame := { p.frame with imgtype := .rgba, imgpts := imgpts,
                          linesize := Function.update p.frame.linesize ⟨0, maxStride_pos⟩ p.frame.stride }
  image := image

def Conversion.convert (c : Conversion) (src dst : Picture) : Picture where
  frame := filterFrame c.iwidth src.frame dst.frame
  image :=
    match src.frame.imgtype with
    | .rgba => c.swsScale src.frame.stride src.image dst.image
    | .yuv420p => src.image.take c.picSize.toNat ++ dst.image.drop c.picSize.toNat

/-! ## The three threads -/

inductive Stage
  | filter
  | encoder
  deriving DecidableEq

/-- The buffer that the filter has taken for its result. -/
inductive Filling (α : Type*)
  | none
  | allocated (data : α)
  | written (data : α)

def Filling.data {α : Type*} : Filling α → List α
  | none => []
  | allocated data | written data => [data]

/-- `drawn` tells whether the source has captured into the buffer it holds. -/
structure VideoPath (α : Type*) where
  upstream : FilterState α
  drawn : Bool
  captured : α → Picture
  filling : Filling α
  converted : α → Picture
  downstream : EncoderState Stage α

/-- At `use` the encoder reads `picture` from its buffer; at `restart` it is launched again. -/
inductive VideoEvent (α : Type*)
  | upstream (event : FilterEvent α)
  | capture (picture : Picture)
  | convert (src dst : α)
  | downstream (event : EncoderEvent Stage α)
  | use (data : α) (picture : Picture) (ret : Option Int)
  | restart

section
variable {α : Type*}

/-- The source stores what it has drawn, and the filter loads when it has stored its result, which it has
written when it releases. -/
def VideoPath.Ready (s : VideoPath α) : FilterEvent α → Prop
  | .pool (.storing _ _) => s.drawn = true
  | .pool (.load _ _) => s.filling = .none
  | .pool (.release _ _) => ∃ data, s.filling = .written data
  | _ => True

def drawnAfter (drawn : Bool) : FilterEvent α → Bool
  | .pool (.allocate _ _ _) => false
  | _ => drawn

def EncoderEvent.Plain {ι : Type*} : EncoderEvent ι α → Prop
  | .other _ | .use _ _ _ => False
  | _ => True

variable [DecidableEq α]

inductive VideoStep (c : Conversion) (picture : Fin maxStride → Int) :
    VideoPath α → VideoEvent α → VideoPath α → Prop
  | upstream {s : VideoPath α} {event : FilterEvent α} {u : FilterState α} :
      s.Ready event → FilterStep s.upstream event u →
      VideoStep c picture s (.upstream event) { s with upstream := u, drawn := drawnAfter s.drawn event }
  | capture {s : VideoPath α} {data : α} {imgpts : Int} {image : List UInt8} :
      s.upstream.source = .capturing data → s.drawn = false →
      VideoStep c picture s (.capture ((s.captured data).capture imgpts image))
        { s with drawn := true,
                 captured := Function.update s.captured data ((s.captured data).capture imgpts image) }
  | allocate {s : VideoPath α} {src dst : α} {stolen : Bool} {d : EncoderState Stage α} :
      s.upstream.filter = .filtering src → s.filling = .none →
      EncoderStep .encoder picture s.downstream (.other (.allocate .filter dst stolen)) d →
      VideoStep c picture s (.downstream (.other (.allocate .filter dst stolen)))
        { s with filling := .allocated dst, downstream := d }
  | abort {s : VideoPath α} {src : α} {d : EncoderState Stage α} :
      s.upstream.filter = .filtering src → s.filling = .none →
      EncoderStep .encoder picture s.downstream (.other (.abort .filter)) d →
      VideoStep c picture s (.downstream (.other (.abort .filter))) { s with downstream := d }
  | convert {s : VideoPath α} {src dst : α} :
      s.upstream.filter = .filtering src → s.filling = .allocated dst →
      VideoStep c picture s (.convert src dst)
        { s with filling := .written dst,
                 converted := Function.update s.converted dst
                   (c.convert (s.captured src) (s.converted dst)) }
  | storing {s : VideoPath α} {dst : α} {d : EncoderState Stage α} :
      s.upstream.filter = .top → s.filling = .written dst →
      EncoderStep .encoder picture s.downstream (.other (.storing .filter dst)) d →
      VideoStep c picture s (.downstream (.other (.storing .filter dst))) { s with downstream := d }
  | store {s : VideoPath α} {dst : α} {d : EncoderState Stage α} :
      s.upstream.filter = .top → s.filling = .written dst →
      EncoderStep .encoder picture s.downstream (.other (.store .filter dst)) d →
      VideoStep c picture s (.downstream (.other (.store .filter dst)))
        { s with filling := .none, downstream := d }
  | encoder {s : VideoPath α} {event : EncoderEvent Stage α} {d : EncoderState Stage α} :
      event.Plain → EncoderStep .encoder picture s.downstream event d →
      VideoStep c picture s (.downstream event) { s with downstream := d }
  | use {s : VideoPath α} {data : α} {ret : Option Int} {d : EncoderState Stage α} :
      EncoderStep .encoder picture s.downstream (.use data (s.converted data).frame ret) d →
      VideoStep c picture s (.use data (s.converted data) ret) { s with downstream := d }
  | restart {s : VideoPath α} : s.downstream.place = .ended →
      VideoStep c picture s .restart
        { s with downstream := { s.downstream with place := .top, times := .start } }

def VideoPath.start (source filter : Pool α) (captured converted : α → Picture) : VideoPath α where
  upstream := ⟨⟨source, [], fun _ => .idle, false⟩, .top, .top⟩
  drawn := false
  captured := captured
  filling := .none
  converted := converted
  downstream := ⟨⟨filter, [], fun _ => .idle, false⟩, .top, .start⟩

/-- The buffers hold anything at first, and nothing runs behind a call of `exit`. -/
def videoPath (c : Conversion) (picture : Fin maxStride → Int) (source filter : Pool α) :
    System (VideoPath α) (VideoEvent α) where
  Init s := ∃ captured converted, s = .start source filter captured converted
  Step s l t := s.upstream.filter ≠ .unexpected ∧ s.upstream.pool.exited = false ∧
    s.downstream.pool.exited = false ∧ VideoStep c picture s l t

/-! ## What the threads hold -/

structure FilterState.Holds (s : FilterState α) : Prop where
  source : s.pool.heldBy .source = s.source.data.map (Role.source, ·)
  filter : s.pool.heldBy .filter = s.filter.data.map (Role.filter, ·)

omit [DecidableEq α] in
theorem FilterPlace.signalled_data (place : FilterPlace α) : place.signalled.data = place.data := by
  cases place <;> rfl

theorem FilterStep.holds {s t : FilterState α} {l : FilterEvent α} (step : FilterStep s l t) (holds : s.Holds) :
    t.Holds := by
  have foreign : Role.source ≠ Role.filter := by decide
  obtain ⟨source, filter⟩ := holds
  cases step with
  | allocate place taken =>
      refine ⟨?_, (taken.other foreign).1.trans filter⟩
      rw [taken.allocate_heldBy, source, place]
      rfl
  | abort place taken => exact ⟨taken.abort_heldBy.trans source, (taken.other foreign).1.trans filter⟩
  | storing place taken =>
      refine ⟨?_, (taken.other foreign).1.trans filter⟩
      rw [taken.storing_heldBy, source, place]
      rfl
  | store place taken =>
      refine ⟨?_, (taken.other foreign).1.trans filter⟩
      rw [taken.store_heldBy, source, place]
      exact List.erase_cons_head ..
  | notify place =>
      refine ⟨?_, ?_⟩
      · rw [source, place]
        rfl
      · rw [filter]
        dsimp only
        rw [FilterPlace.signalled_data]
  | @load found pool place taken | @reload found pool place taken =>
      refine ⟨(taken.other foreign.symm).1.trans source, ?_⟩
      rw [taken.load_heldBy.1, filter, place]
      cases found <;> rfl
  | enter place | wake place =>
      refine ⟨source, ?_⟩
      rw [filter, place]
      rfl
  | release place taken =>
      refine ⟨(taken.other foreign.symm).1.trans source, ?_⟩
      rw [taken.release_heldBy.1, filter, place]
      exact List.erase_cons_head ..

structure VideoPath.Sound (s : VideoPath α) (a : Stock Role α) (b : Stock Stage α) : Prop where
  source : Related s.upstream.pool a
  filter : Related s.downstream.pool b
  upstream : s.upstream.Holds
  filling : s.downstream.pool.heldBy .filter = s.filling.data.map (Stage.filter, ·)
  downstream : s.downstream.Sound .encoder
  drawn : ∀ data, s.upstream.source = .storing data → s.drawn = true

/-! ## What is on its way -/

def Conversion.Converts (c : Conversion) (src used : Picture) : Prop := ∃ dst, used = c.convert src dst

abbrev Item := System.Passing Picture Picture

def EncoderPlace.unused : EncoderPlace α → List α
  | loaded data => [data]
  | _ => []

def VideoPath.ahead (s : VideoPath α) (b : Stock Stage α) : List Item :=
  (s.downstream.place.unused ++ b.data).map fun data => .after (s.converted data)

def VideoPath.within (s : VideoPath α) : List Item :=
  match s.filling with
  | .written dst => [.after (s.converted dst)]
  | _ => s.upstream.filter.data.map fun data => .before (s.captured data)

def SourcePlace.drawn (place : SourcePlace α) (drawn : Bool) : List α := if drawn then place.data else []

omit [DecidableEq α] in
theorem SourcePlace.drawn_of_nil {place : SourcePlace α} (empty : place.data = []) (drawn : Bool) :
    place.drawn drawn = [] := by
  rw [SourcePlace.drawn, empty, ite_self]

def VideoPath.behind (s : VideoPath α) (a : Stock Role α) : List Item :=
  (a.data ++ s.upstream.source.drawn s.drawn).map fun data => .before (s.captured data)

def FilterEvent.steals : FilterEvent α → Bool
  | .pool (.allocate _ _ stolen) => stolen
  | _ => false

variable {s t : VideoPath α} {a : Stock Role α} {b : Stock Stage α}

theorem VideoPath.Sound.behind {event : FilterEvent α} {u : FilterState α} (sound : s.Sound a b)
    (ready : s.Ready event) (step : FilterStep s.upstream event u)
    (after : t = { s with upstream := u, drawn := drawnAfter s.drawn event }) :
    ∃ a', Related u.pool a' ∧ (t.within ++ t.behind a' = s.within ++ s.behind a ∨
      event.steals = true ∧ (t.within ++ t.behind a').Sublist (s.within ++ s.behind a)) := by
  subst after
  unfold VideoPath.within VideoPath.behind
  cases step with
  | @allocate data stolen pool place taken =>
      obtain ⟨a', step, related⟩ := sound.source.step taken
      have order := step.order
      refine ⟨a', related, ?_⟩
      cases stolen with
      | false =>
          left
          have same : a.data = a'.data := by simpa [PoolEvent.stored, PoolEvent.taken] using order
          simp [drawnAfter, place, SourcePlace.drawn, SourcePlace.data, same]
      | true =>
          right
          have gone : a.data = data :: a'.data := by simpa [PoolEvent.stored, PoolEvent.taken] using order
          refine ⟨rfl, ?_⟩
          simp [drawnAfter, place, SourcePlace.drawn, SourcePlace.data, gone]
  | abort place taken =>
      obtain ⟨a', step, related⟩ := sound.source.step taken
      have same : a.data = a'.data := by simpa [PoolEvent.stored, PoolEvent.taken] using step.order
      exact ⟨a', related, .inl (by simp [drawnAfter, same])⟩
  | @storing data pool place taken =>
      obtain ⟨a', step, related⟩ := sound.source.step taken
      have same : a.data = a'.data := by simpa [PoolEvent.stored, PoolEvent.taken] using step.order
      have still : (SourcePlace.storing data).drawn s.drawn = (SourcePlace.capturing data).drawn s.drawn := rfl
      exact ⟨a', related, .inl (by simp [drawnAfter, place, still, same])⟩
  | @store data pool place taken =>
      obtain ⟨a', step, related⟩ := sound.source.step taken
      have more : a.data ++ [data] = a'.data := by simpa [PoolEvent.stored, PoolEvent.taken] using step.order
      have drawn := sound.drawn data place
      exact ⟨a', related, .inl (by simp [drawnAfter, place, SourcePlace.drawn, SourcePlace.data, drawn, ← more])⟩
  | notify place =>
      refine ⟨a, sound.source, .inl ?_⟩
      have before : (SourcePlace.stored (α := α)).drawn s.drawn = [] := SourcePlace.drawn_of_nil rfl _
      have after : (SourcePlace.top (α := α)).drawn s.drawn = [] := SourcePlace.drawn_of_nil rfl _
      simp [drawnAfter, place, before, after, FilterPlace.signalled_data]
  | @load found pool place taken | @reload found pool place taken =>
      obtain ⟨a', step, related⟩ := sound.source.step taken
      have order : a.data = found.toList ++ a'.data := by
        simpa [PoolEvent.stored, PoolEvent.taken] using step.order
      have empty : s.filling = .none := ready
      refine ⟨a', related, .inl ?_⟩
      cases found with
      | none => simp [drawnAfter, place, FilterPlace.data, empty, order]
      | some data => simp [drawnAfter, place, FilterPlace.data, empty, order]
  | enter place | wake place =>
      refine ⟨a, sound.source, .inl ?_⟩
      simp [drawnAfter, place, FilterPlace.data]
  | release place taken =>
      obtain ⟨a', step, related⟩ := sound.source.step taken
      have same : a.data = a'.data := by simpa [PoolEvent.stored, PoolEvent.taken] using step.order
      obtain ⟨dst, written⟩ := ready
      exact ⟨a', related, .inl (by simp [drawnAfter, written, same])⟩

theorem EncoderStep.of_other {i : Stage} {picture : Fin maxStride → Int} {d d' : EncoderState Stage α}
    {event : PoolEvent Stage α} (step : EncoderStep i picture d (.other event) d') :
    event.actor ≠ i ∧ PoolStep d.pool event d'.pool ∧ d'.place = d.place := by
  cases step with
  | other foreign taken => exact ⟨foreign, taken, rfl⟩

def EncoderEvent.usedData {ι : Type*} : EncoderEvent ι α → Option α
  | .use data _ _ => some data
  | _ => none

theorem EncoderStep.ahead {i : Stage} {picture : Fin maxStride → Int} {d d' : EncoderState Stage α}
    {event : EncoderEvent Stage α} (step : EncoderStep i picture d event d')
    (own : ∀ foreign, event ≠ .other foreign) (related : Related d.pool b) :
    ∃ b', Related d'.pool b' ∧ (∀ j, j ≠ i → d'.pool.heldBy j = d.pool.heldBy j) ∧
      event.usedData.toList ++ (d'.place.unused ++ b'.data) = d.place.unused ++ b.data := by
  cases step with
  | @other event pool foreign taken => exact absurd rfl (own event)
  | stop running place | timeout running place | wake running place | use running place =>
      refine ⟨b, related, fun _ _ => rfl, ?_⟩
      rw [place]
      rfl
  | @load found pool place taken | @reload found pool place taken =>
      obtain ⟨b', step, after⟩ := related.step taken
      have order : b.data = found.toList ++ b'.data := by
        simpa [PoolEvent.stored, PoolEvent.taken] using step.order
      refine ⟨b', after, fun j other => (taken.other other.symm).1, ?_⟩
      rw [place, order]
      cases found <;> rfl
  | @release data imgpts copied pool place taken =>
      obtain ⟨b', step, after⟩ := related.step taken
      have same : b.data = b'.data := by simpa [PoolEvent.stored, PoolEvent.taken] using step.order
      refine ⟨b', after, fun j other => (taken.other other.symm).1, ?_⟩
      rw [place, same]
      cases copied <;> rfl
  | @encode imgpts got running place =>
      refine ⟨b, related, fun _ _ => rfl, ?_⟩
      rw [place]
      rcases got with _ | _ | _ <;> rfl
  | @send sent running place =>
      refine ⟨b, related, fun _ _ => rfl, ?_⟩
      rw [place]
      cases sent <;> rfl

/-! ## What a step carries -/

def VideoEvent.captured : VideoEvent α → Option Picture
  | .capture picture => some picture
  | _ => none

def VideoEvent.used : VideoEvent α → Option Picture
  | .use _ picture _ => some picture
  | _ => none

def VideoEvent.stamp : VideoEvent α → Option Int
  | .downstream event => event.encoded.map Prod.fst
  | _ => none

def VideoEvent.steals : VideoEvent α → Bool
  | .upstream event => event.steals
  | .downstream (.other (.allocate _ _ stolen)) => stolen
  | _ => false

def VideoPath.items (s : VideoPath α) (a : Stock Role α) (b : Stock Stage α) : List Item :=
  s.ahead b ++ (s.within ++ s.behind a)

variable {c : Conversion} {picture : Fin maxStride → Int}

theorem VideoPath.Sound.capture {data : α} (sound : s.Sound a b) (place : s.upstream.source = .capturing data)
    (drawn : s.drawn = false) (imgpts : Int) (image : List UInt8)
    (after : t = { s with
      drawn := true,
      captured := Function.update s.captured data ((s.captured data).capture imgpts image) }) :
    t.Sound a b ∧ t.items a b = s.items a b ++ [.before ((s.captured data).capture imgpts image)] := by
  have mine : (Role.source, data) ∈ s.upstream.pool.held :=
    PoolState.mem_of_heldBy sound.upstream.source (by rw [place]; exact List.mem_singleton_self data)
  have waiting : ∀ q ∈ a.data, t.captured q = s.captured q := by
    subst after
    exact fun q waits => Function.update_of_ne (sound.source.ne_of_data mine waits) _ _
  have theirs : ∀ q ∈ s.upstream.filter.data, t.captured q = s.captured q := by
    subst after
    intro q member
    have held := PoolState.mem_of_heldBy sound.upstream.filter member
    exact Function.update_of_ne (sound.source.ne_of_held mine held (by decide)) _ _
  have own : t.captured data = (s.captured data).capture imgpts image := by
    subst after
    exact Function.update_self ..
  have behind : t.behind a = s.behind a ++ [.before ((s.captured data).capture imgpts image)] := by
    rw [← own]
    have same : (a.data.map (fun q => System.Passing.before (t.captured q)) : List Item) =
        a.data.map fun q => System.Passing.before (s.captured q) :=
      List.map_congr_left fun q waits => congrArg System.Passing.before (waiting q waits)
    subst after
    simp [VideoPath.behind, SourcePlace.drawn, SourcePlace.data, place, drawn, same]
  have within : t.within = s.within := by
    have same : (s.upstream.filter.data.map (fun q => System.Passing.before (t.captured q)) : List Item) =
        s.upstream.filter.data.map fun q => System.Passing.before (s.captured q) :=
      List.map_congr_left fun q member => congrArg System.Passing.before (theirs q member)
    subst after
    unfold VideoPath.within
    rw [← same]
  have ahead : t.ahead b = s.ahead b := by rw [after]; rfl
  refine ⟨?_, by simp only [VideoPath.items, behind, within, ahead, List.append_assoc]⟩
  subst after
  exact ⟨sound.source, sound.filter, sound.upstream, sound.filling, sound.downstream, fun _ _ => rfl⟩

omit [DecidableEq α] in
theorem EncoderPlace.unused_subset (place : EncoderPlace α) : place.unused ⊆ place.data := by
  cases place <;> simp [EncoderPlace.unused, EncoderPlace.data]

theorem VideoPath.Sound.convert {src dst : α} (sound : s.Sound a b)
    (place : s.upstream.filter = .filtering src) (filling : s.filling = .allocated dst)
    (after : t = { s with
      filling := .written dst,
      converted := Function.update s.converted dst (c.convert (s.captured src) (s.converted dst)) }) :
    t.Sound a b ∧ List.Forall₂ (System.Passes c.Converts) (t.items a b) (s.items a b) := by
  have mine : (Stage.filter, dst) ∈ s.downstream.pool.held :=
    PoolState.mem_of_heldBy sound.filling (by rw [filling]; exact List.mem_singleton_self dst)
  have others : ∀ q ∈ s.downstream.place.unused ++ b.data, t.converted q = s.converted q := by
    subst after
    intro q member
    apply Function.update_of_ne
    rcases List.mem_append.mp member with unused | waits
    · have held := PoolState.mem_of_heldBy sound.downstream.held (EncoderPlace.unused_subset _ unused)
      exact sound.filter.ne_of_held mine held (by decide)
    · exact sound.filter.ne_of_data mine waits
  have ahead : t.ahead b = s.ahead b := by
    have same :
        ((s.downstream.place.unused ++ b.data).map (fun q => System.Passing.after (t.converted q)) : List Item) =
        (s.downstream.place.unused ++ b.data).map fun q => System.Passing.after (s.converted q) :=
      List.map_congr_left fun q member => congrArg System.Passing.after (others q member)
    subst after
    exact same
  have before : s.within = [.before (s.captured src)] := by
    simp [VideoPath.within, filling, place, FilterPlace.data]
  have now : t.within = [.after (c.convert (s.captured src) (s.converted dst))] := by
    subst after
    simp [VideoPath.within]
  have behind : t.behind a = s.behind a := by rw [after]; rfl
  constructor
  · subst after
    refine ⟨sound.source, sound.filter, sound.upstream, ?_, sound.downstream, sound.drawn⟩
    rw [sound.filling, filling]
    rfl
  · unfold VideoPath.items
    rw [ahead, before, now, behind]
    refine List.rel_append (System.passes_same _) (List.rel_append ?_ (System.passes_same _))
    exact .cons (.changed ⟨_, rfl⟩) .nil

theorem VideoPath.Sound.filled {event : PoolEvent Stage α} {d : EncoderState Stage α}
    (filling : Filling α) (sound : s.Sound a b) (step : EncoderStep .encoder picture s.downstream (.other event) d)
    (held : d.pool.heldBy .filter = filling.data.map (Stage.filter, ·)) :
    ∃ b', StockStep b event b' ∧
      VideoPath.Sound { s with filling := filling, downstream := d } a b' ∧ d.place = s.downstream.place := by
  obtain ⟨-, taken, place⟩ := step.of_other
  obtain ⟨b', stepped, related⟩ := sound.filter.step taken
  exact ⟨b', stepped, ⟨sound.source, related, sound.upstream, held, step.sound sound.downstream, sound.drawn⟩,
    place⟩

theorem VideoPath.Sound.drawnAfter {event : FilterEvent α} {u : FilterState α} (sound : s.Sound a b)
    (ready : s.Ready event) (step : FilterStep s.upstream event u) :
    ∀ data, u.source = .storing data → drawnAfter s.drawn event = true := by
  intro data stores
  cases step with
  | storing place taken => exact ready
  | allocate | store | notify => cases stores
  | abort place taken | load place taken | reload place taken | release place taken | enter place | wake place =>
      exact sound.drawn data stores

def VideoPath.Advances (c : Conversion) (s : VideoPath α) (a : Stock Role α) (b : Stock Stage α) (l : VideoEvent α)
    (t : VideoPath α) : Prop :=
  ∃ a' b', t.Sound a' b' ∧ System.Carried c.Converts l.steals ((l.used.map .after).toList ++ t.items a' b')
    (s.items a b ++ (l.captured.map .before).toList)

theorem VideoPath.Sound.advance {event : FilterEvent α} {u : FilterState α} (sound : s.Sound a b)
    (ready : s.Ready event) (taken : FilterStep s.upstream event u) :
    s.Advances c a b (.upstream event) { s with upstream := u, drawn := Video.drawnAfter s.drawn event } := by
  obtain ⟨a', related, carried⟩ := sound.behind ready taken rfl
  refine ⟨a', b, ⟨related, sound.filter, taken.holds sound.upstream, sound.filling, sound.downstream,
    sound.drawnAfter ready taken⟩, ?_⟩
  simp only [VideoEvent.used, VideoEvent.captured, Option.map_none, Option.toList_none, List.nil_append,
    List.append_nil, VideoPath.items]
  rcases carried with same | ⟨stolen, part⟩
  · exact .of_eq (congrArg (s.ahead b ++ ·) same)
  · exact .inr ⟨stolen, part.append_left _⟩

theorem VideoPath.Sound.allocate {dst : α} {stolen : Bool} {d : EncoderState Stage α} (sound : s.Sound a b)
    (filling : s.filling = .none)
    (taken : EncoderStep .encoder picture s.downstream (.other (.allocate .filter dst stolen)) d) :
    s.Advances c a b (.downstream (.other (.allocate .filter dst stolen)))
      { s with filling := .allocated dst, downstream := d } := by
  have held := taken.of_other.2.1.allocate_heldBy
  rw [sound.filling, filling] at held
  obtain ⟨b', step, after, same⟩ := sound.filled (.allocated dst) taken held
  have order := step.order
  refine ⟨a, b', after, ?_⟩
  cases stolen with
  | false =>
      have data : b.data = b'.data := by simpa [PoolEvent.stored, PoolEvent.taken] using order
      exact .of_eq (by simp [VideoEvent.used, VideoEvent.captured, VideoPath.items, VideoPath.ahead,
        VideoPath.within, VideoPath.behind, filling, same, data])
  | true =>
      have data : b.data = dst :: b'.data := by simpa [PoolEvent.stored, PoolEvent.taken] using order
      refine .inr ⟨rfl, ?_⟩
      simp [VideoEvent.used, VideoEvent.captured, VideoPath.items, VideoPath.ahead,
        VideoPath.within, VideoPath.behind, filling, same, data]

theorem VideoPath.Sound.kept {event : PoolEvent Stage α} {d : EncoderState Stage α} (sound : s.Sound a b)
    (taken : EncoderStep .encoder picture s.downstream (.other event) d)
    (held : d.pool.heldBy .filter = s.downstream.pool.heldBy .filter)
    (stored : event.stored = none) (unread : event.taken = none) :
    s.Advances c a b (.downstream (.other event)) { s with downstream := d } := by
  rw [sound.filling] at held
  obtain ⟨b', step, after, same⟩ := sound.filled _ taken held
  have data : b.data = b'.data := by simpa [stored, unread] using step.order
  exact ⟨a, b', after, .of_eq (by simp [VideoEvent.used, VideoEvent.captured, VideoPath.items,
    VideoPath.ahead, VideoPath.within, VideoPath.behind, same, data])⟩

theorem VideoPath.Sound.store {dst : α} {d : EncoderState Stage α} (sound : s.Sound a b)
    (place : s.upstream.filter = .top) (filling : s.filling = .written dst)
    (taken : EncoderStep .encoder picture s.downstream (.other (.store .filter dst)) d) :
    s.Advances c a b (.downstream (.other (.store .filter dst))) { s with filling := .none, downstream := d } := by
  have held := taken.of_other.2.1.store_heldBy
  rw [sound.filling, filling, Filling.data, List.map_singleton, List.erase_cons_head] at held
  obtain ⟨b', step, after, same⟩ := sound.filled .none taken held
  have data : b.data ++ [dst] = b'.data := by simpa [PoolEvent.stored, PoolEvent.taken] using step.order
  exact ⟨a, b', after, .of_eq (by simp [VideoEvent.used, VideoEvent.captured, VideoPath.items,
    VideoPath.ahead, VideoPath.within, VideoPath.behind, FilterPlace.data, place, filling, same, ← data])⟩

theorem VideoPath.Sound.encoder {event : EncoderEvent Stage α} {d : EncoderState Stage α} (sound : s.Sound a b)
    (own : ∀ foreign, event ≠ .other foreign)
    (taken : EncoderStep .encoder picture s.downstream event d) :
    ∃ b', VideoPath.Sound { s with downstream := d } a b' ∧
      event.usedData.toList ++ (d.place.unused ++ b'.data) = s.downstream.place.unused ++ b.data := by
  obtain ⟨b', related, others, data⟩ := taken.ahead own sound.filter
  exact ⟨b', ⟨sound.source, related, sound.upstream, (others .filter (by decide)).trans sound.filling,
    taken.sound sound.downstream, sound.drawn⟩, data⟩

omit [DecidableEq α] in
theorem VideoPath.Sound.restart (sound : s.Sound a b) (place : s.downstream.place = .ended) :
    s.Advances c a b .restart { s with downstream := { s.downstream with place := .top, times := .start } } := by
  have held := sound.downstream.held
  rw [place] at held
  have restarted : EncoderState.Sound .encoder
      { s.downstream with place := .top, times := .start } := ⟨held, sound.downstream.idle, by rintro _ ⟨⟩⟩
  refine ⟨a, b, ⟨sound.source, sound.filter, sound.upstream, sound.filling, restarted, sound.drawn⟩, ?_⟩
  exact .of_eq (by simp [VideoEvent.used, VideoEvent.captured, VideoPath.items, VideoPath.ahead,
    VideoPath.within, VideoPath.behind, EncoderPlace.unused, place])

theorem VideoStep.carries {l : VideoEvent α} (sound : s.Sound a b) (step : VideoStep c picture s l t) :
    s.Advances c a b l t := by
  cases step with
  | upstream ready taken => exact sound.advance ready taken
  | capture place drawn =>
      obtain ⟨after, items⟩ := sound.capture place drawn _ _ rfl
      exact ⟨a, b, after, .of_eq items⟩
  | convert place filling =>
      obtain ⟨after, items⟩ := sound.convert place filling rfl
      refine ⟨a, b, after, .inl ?_⟩
      simpa [VideoEvent.used, VideoEvent.captured] using items
  | allocate _ filling taken => exact sound.allocate filling taken
  | abort _ _ taken => exact sound.kept taken taken.of_other.2.1.abort_heldBy rfl rfl
  | storing _ _ taken => exact sound.kept taken taken.of_other.2.1.storing_heldBy rfl rfl
  | store place filling taken => exact sound.store place filling taken
  | @encoder event d plain taken =>
      have own : ∀ foreign, event ≠ .other foreign := by
        rintro foreign rfl
        exact plain
      obtain ⟨b', after, data⟩ := sound.encoder own taken
      have unread : event.usedData = none := by
        cases event with
        | use => exact plain.elim
        | _ => rfl
      rw [unread, Option.toList_none, List.nil_append] at data
      refine ⟨a, b', after, .of_eq ?_⟩
      simp only [VideoEvent.used, VideoEvent.captured, Option.map_none, Option.toList_none,
        List.nil_append, List.append_nil, VideoPath.items, VideoPath.ahead, data]
      rfl
  | use taken =>
      obtain ⟨b', after, order⟩ := sound.encoder (by rintro _ ⟨⟩) taken
      refine ⟨a, b', after, .of_eq ?_⟩
      simp only [VideoEvent.used, VideoEvent.captured, Option.map_none, Option.toList_none, List.append_nil,
        VideoPath.items, VideoPath.ahead, ← order]
      rfl
  | restart place => exact sound.restart place

theorem VideoStep.unwritten {l : VideoEvent α} (sound : s.Sound a b) (step : VideoStep c picture s l t) :
    (∀ data ∈ s.upstream.filter.data, t.captured data = s.captured data) ∧
      ∀ data ∈ s.downstream.place.data, t.converted data = s.converted data := by
  cases step with
  | @capture data imgpts image place drawn =>
      have mine : (Role.source, data) ∈ s.upstream.pool.held :=
        PoolState.mem_of_heldBy sound.upstream.source (by rw [place]; exact List.mem_singleton_self data)
      refine ⟨fun q member => ?_, fun _ _ => rfl⟩
      have held := PoolState.mem_of_heldBy sound.upstream.filter member
      exact Function.update_of_ne (sound.source.ne_of_held mine held (by decide)) _ _
  | @convert src dst place filling =>
      have mine : (Stage.filter, dst) ∈ s.downstream.pool.held :=
        PoolState.mem_of_heldBy sound.filling (by rw [filling]; exact List.mem_singleton_self dst)
      refine ⟨fun _ _ => rfl, fun q member => ?_⟩
      have held := PoolState.mem_of_heldBy sound.downstream.held member
      exact Function.update_of_ne (sound.filter.ne_of_held mine held (by decide)) _ _
  | upstream | allocate | abort | storing | store | encoder | use | restart =>
      exact ⟨fun _ _ => rfl, fun _ _ => rfl⟩

/-! ## Whole runs -/

variable {source filter : Pool α}

theorem VideoPath.sound_start {malloc malloc' : Nat → Option α} (distinct : Distinct malloc)
    (distinct' : Distinct malloc') {n n' datasize datasize' : Int}
    (init : datapoolInit malloc n datasize .start = some source)
    (init' : datapoolInit malloc' n' datasize' .start = some filter) (captured converted : α → Picture) :
    ∃ a b, (VideoPath.start source filter captured converted).Sound a b ∧
      (VideoPath.start source filter captured converted).items a b = [] := by
  obtain ⟨a, run, related, -⟩ := pipeline_related (ι := Role) distinct init (.nil _)
  obtain ⟨b, run', related', -⟩ := pipeline_related (ι := Stage) distinct' init' (.nil _)
  cases run
  cases run'
  exact ⟨_, _, ⟨related, related', ⟨rfl, rfl⟩, rfl, ⟨rfl, rfl, nofun⟩, nofun⟩, rfl⟩

structure VideoPath.Carries (c : Conversion) (s : VideoPath α) (ls : List (VideoEvent α))
    (step : VideoEvent α → VideoPath α → Prop) : Prop where
  passed : System.Passed c.Converts VideoEvent.captured VideoEvent.used VideoEvent.steals ls
  unwritten : ∀ l t, step l t →
    (∀ data ∈ s.upstream.filter.data, t.captured data = s.captured data) ∧
      ∀ data ∈ s.downstream.place.data, t.converted data = s.converted data

theorem videoPath_passed {malloc malloc' : Nat → Option α} (distinct : Distinct malloc)
    (distinct' : Distinct malloc') {n n' datasize datasize' : Int}
    (init : datapoolInit malloc n datasize .start = some source)
    (init' : datapoolInit malloc' n' datasize' .start = some filter) {captured converted : α → Picture}
    {ls : List (VideoEvent α)}
    (run : (videoPath c picture source filter).Run (.start source filter captured converted) ls s) :
    (∃ a b, s.Sound a b) ∧ System.Passed c.Converts VideoEvent.captured VideoEvent.used VideoEvent.steals ls := by
  have step (s : VideoPath α) (l : VideoEvent α) (t : VideoPath α) (xs : List Item)
      (carrying : ∃ a b, s.Sound a b ∧ xs = s.items a b) (taken : (videoPath c picture source filter).Step s l t) :
      ∃ ys, (∃ a b, t.Sound a b ∧ ys = t.items a b) ∧
        System.Carried c.Converts l.steals ((l.used.map .after).toList ++ ys)
          (xs ++ (l.captured.map .before).toList) := by
    obtain ⟨a, b, sound, rfl⟩ := carrying
    obtain ⟨a', b', after, carried⟩ := taken.2.2.2.carries sound
    exact ⟨_, ⟨a', b', after, rfl⟩, carried⟩
  obtain ⟨a, b, sound, empty⟩ := VideoPath.sound_start distinct distinct' init init' captured converted
  obtain ⟨⟨ys, a', b', after, -⟩, passed⟩ := run.passed step ⟨a, b, sound, empty.symm⟩
  exact ⟨⟨a', b', after⟩, passed⟩

/-- In every run the encoder uses converted captures, each once and in the order they were captured; where no
buffer is stolen it leaves none out; and a buffer is not written while it is read. -/
theorem videoPath_carries (c : Conversion) (picture : Fin maxStride → Int) (malloc malloc' : Nat → Option α)
    (distinct : Distinct malloc) (distinct' : Distinct malloc') (n n' datasize datasize' : Int)
    (source filter : Pool α) (init : datapoolInit malloc n datasize .start = some source)
    (init' : datapoolInit malloc' n' datasize' .start = some filter) (captured converted : α → Picture)
    (s : VideoPath α) (ls : List (VideoEvent α))
    (run : (videoPath c picture source filter).Run (.start source filter captured converted) ls s) :
    s.Carries c ls ((videoPath c picture source filter).Step s) := by
  obtain ⟨⟨a, b, sound⟩, passed⟩ := videoPath_passed distinct distinct' init init' run
  exact ⟨passed, fun l t taken => taken.2.2.2.unwritten sound⟩

end

def copying : Conversion := ⟨2, 2, fun _ src _ => src⟩

def blank : Picture := ⟨.zero, []⟩

def oneFrame : List (VideoEvent Nat) :=
  [.upstream (.pool (.storing .source 0)), .upstream (.pool (.store .source 0)), .upstream .notify,
    .upstream (.pool (.load .filter (some 0))), .downstream (.other (.allocate .filter 0 false)), .convert 0 0,
    .upstream (.pool (.release .filter 0)), .downstream (.other (.storing .filter 0)),
    .downstream (.other (.store .filter 0)), .downstream (.load (some 0)),
    .use 0 (copying.convert (blank.capture 3 [7]) blank) (some 5)]

theorem videoPath_carries_frame :
    ∃ (pool : Pool Nat) (s : VideoPath Nat), datapoolInit some 1 1 .start = some pool ∧
      (videoPath copying (pictureLinesize 2) pool pool).Run (.start pool pool (fun _ => blank) fun _ => blank)
        (.upstream (.pool (.allocate .source 0 false)) :: .capture (blank.capture 3 [7]) :: oneFrame) s ∧
      s.Carries copying
        (.upstream (.pool (.allocate .source 0 false)) :: .capture (blank.capture 3 [7]) :: oneFrame)
        ((videoPath copying (pictureLinesize 2) pool pool).Step s) := by
  obtain ⟨pool, init⟩ : ∃ pool, datapoolInit some 1 1 .start = some pool := ⟨_, rfl⟩
  have run : ∃ s, (videoPath copying (pictureLinesize 2) pool pool).Run
      (.start pool pool (fun _ => blank) fun _ => blank)
      (.upstream (.pool (.allocate .source 0 false)) :: .capture (blank.capture 3 [7]) :: oneFrame) s := by
    obtain rfl := Option.some.inj init
    refine ⟨_, .cons ⟨nofun, rfl, rfl, .upstream trivial (.allocate rfl (.allocate rfl rfl rfl))⟩ (.cons
      ⟨nofun, rfl, rfl, .capture rfl rfl⟩ (.cons
      ⟨nofun, rfl, rfl, .upstream rfl (.storing rfl (.storing rfl rfl (by decide)))⟩ (.cons
      ⟨nofun, rfl, rfl, .upstream trivial (.store rfl (.store rfl rfl))⟩ (.cons
      ⟨nofun, rfl, rfl, .upstream trivial (.notify rfl)⟩ (.cons
      ⟨nofun, rfl, rfl, .upstream rfl (.load rfl (.load rfl rfl rfl))⟩ (.cons
      ⟨nofun, rfl, rfl, .allocate rfl rfl (.other (by decide) (.allocate rfl rfl rfl))⟩ (.cons
      ⟨nofun, rfl, rfl, .convert rfl rfl⟩ (.cons
      ⟨nofun, rfl, rfl, .upstream ⟨0, rfl⟩ (.release rfl (.release rfl rfl (by decide)))⟩ (.cons
      ⟨nofun, rfl, rfl, .storing rfl rfl (.other (by decide) (.storing rfl rfl (by decide)))⟩ (.cons
      ⟨nofun, rfl, rfl, .store rfl rfl (.other (by decide) (.store rfl rfl))⟩ (.cons
      ⟨nofun, rfl, rfl, .encoder trivial (.load rfl (.load rfl rfl rfl))⟩ (.cons
      ⟨nofun, rfl, rfl, .use (.use rfl rfl)⟩ (.nil _)))))))))))))⟩
  obtain ⟨s, run⟩ := run
  exact ⟨pool, s, init, run, videoPath_carries copying (pictureLinesize 2) some some distinct_some distinct_some
    1 1 1 1 pool pool init init (fun _ => blank) (fun _ => blank) s _ run⟩

end GamingAnywhere.Video
