import GamingAnywhere.Encoder.Sync
import GamingAnywhere.Pipeline.Holding
import GamingAnywhere.Video.Planes

namespace GamingAnywhere.Video
open Lib Encoder Pipeline

/-! ## Timestamps -/

/-- The values are `long long`: capture times, which count frame intervals, and small sums of them stay far inside
their range. -/
structure Timestamps where
  basePts : Int
  newpts : Int
  pts : Int
  ptsSync : Int

def Timestamps.start : Timestamps := ⟨-1, 0, -1, 0⟩

/-- `sync` is what `encoder_pts_sync` returns. -/
def Timestamps.handle (sync imgpts : Int) (v : Timestamps) : Timestamps :=
  if v.basePts = -1 then { v with basePts := imgpts, ptsSync := sync, newpts := sync }
  else { v with newpts := v.ptsSync + imgpts - v.basePts }

def Timestamps.advance (v : Timestamps) : Timestamps :=
  { v with pts := if v.pts < v.newpts then v.newpts else v.pts + 1 }

def Timestamps.synced (imgpts : Int) (v : Timestamps) : Int := v.ptsSync + imgpts - v.basePts

theorem Timestamps.handle_newpts (sync imgpts : Int) (v : Timestamps) :
    (v.handle sync imgpts).newpts = (v.handle sync imgpts).synced imgpts := by
  unfold Timestamps.handle Timestamps.synced
  split
  · dsimp only
    omega
  · rfl

theorem Timestamps.handle_pts (sync imgpts : Int) (v : Timestamps) : (v.handle sync imgpts).pts = v.pts := by
  unfold Timestamps.handle
  split <;> rfl

theorem Timestamps.advance_pts (v : Timestamps) :
    v.pts < v.advance.pts ∧ (v.pts < v.newpts → v.advance.pts = v.newpts) := by
  unfold Timestamps.advance
  dsimp only
  split
  · next later => exact ⟨later, fun _ => rfl⟩
  · next earlier => exact ⟨by omega, fun later => absurd later earlier⟩

/-! ## The thread -/

inductive EncoderPlace (α : Type*)
  | top
  | waiting
  | woken
  | loaded (data : α)
  | used (data : α) (imgpts : Int) (copied : Bool)
  | released (imgpts : Int)
  | sending
  | ended

def EncoderPlace.data {α : Type*} : EncoderPlace α → List α
  | loaded data | used data _ _ => [data]
  | _ => []

/-- `encode` is the call with timestamp `pts`, where `synced` was asked for; `got` tells of a packet and is
`none` where the call fails. -/
inductive EncoderEvent (ι α : Type*)
  | other (event : PoolEvent ι α)
  | stop
  | load (found : Option α)
  | timeout
  | wake
  | use (data : α) (frame : VsourceFrame) (ret : Option Int)
  | release (data : α)
  | encode (pts synced : Int) (got : Option Bool)
  | send (sent : Bool)

structure EncoderState (ι α : Type*) where
  pool : PoolState ι α
  place : EncoderPlace α
  times : Timestamps

def pictureTaken (picture : Fin maxStride → Int) (frame : VsourceFrame) : Bool :=
  match frame.imgtype with
  | .rgba => true
  | .yuv420p => linesizesMatch picture frame.linesize

section
variable {ι α : Type*} [DecidableEq ι] [DecidableEq α]

/-- The thread `i` loads from the pool that the other threads work on. The fields of a loaded frame are
whatever its producer wrote. -/
inductive EncoderStep (i : ι) (picture : Fin maxStride → Int) :
    EncoderState ι α → EncoderEvent ι α → EncoderState ι α → Prop
  | other {s : EncoderState ι α} {event : PoolEvent ι α} {pool : PoolState ι α} :
      event.actor ≠ i → PoolStep s.pool event pool →
      EncoderStep i picture s (.other event) { s with pool := pool }
  | stop {s : EncoderState ι α} : s.pool.exited = false → s.place = .top →
      EncoderStep i picture s .stop { s with place := .ended }
  | load {s : EncoderState ι α} {found : Option α} {pool : PoolState ι α} :
      s.place = .top → PoolStep s.pool (.load i found) pool →
      EncoderStep i picture s (.load found)
        { s with pool := pool, place := found.elim .waiting .loaded }
  | timeout {s : EncoderState ι α} : s.pool.exited = false → s.place = .waiting →
      EncoderStep i picture s .timeout { s with place := .top }
  | wake {s : EncoderState ι α} : s.pool.exited = false → s.place = .waiting →
      EncoderStep i picture s .wake { s with place := .woken }
  | reload {s : EncoderState ι α} {found : Option α} {pool : PoolState ι α} :
      s.place = .woken → PoolStep s.pool (.load i found) pool →
      EncoderStep i picture s (.load found)
        { s with pool := pool, place := found.elim .top .loaded }
  | use {s : EncoderState ι α} {data : α} {frame : VsourceFrame} {ret : Option Int} :
      s.pool.exited = false → s.place = .loaded data →
      EncoderStep i picture s (.use data frame ret)
        { s with place := .used data frame.imgpts (pictureTaken picture frame),
                 times := s.times.handle (encoderPtsSync ret) frame.imgpts }
  | release {s : EncoderState ι α} {data : α} {imgpts : Int} {taken : Bool} {pool : PoolState ι α} :
      s.place = .used data imgpts taken → PoolStep s.pool (.release i data) pool →
      EncoderStep i picture s (.release data)
        { s with pool := pool, place := if taken then .released imgpts else .ended }
  | encode {s : EncoderState ι α} {imgpts : Int} {got : Option Bool} :
      s.pool.exited = false → s.place = .released imgpts →
      EncoderStep i picture s (.encode s.times.advance.pts (s.times.synced imgpts) got)
        { s with times := s.times.advance,
                 place := match got with
                   | none => .ended
                   | some false => .top
                   | some true => .sending }
  | send {s : EncoderState ι α} {sent : Bool} : s.pool.exited = false → s.place = .sending →
      EncoderStep i picture s (.send sent) { s with place := if sent then .top else .ended }

def vencoderThreadproc (i : ι) (picture : Fin maxStride → Int) (pool : PoolState ι α) :
    System (EncoderState ι α) (EncoderEvent ι α) where
  Init s := s = ⟨pool, .top, .start⟩
  Step := EncoderStep i picture

/-! ## What a step keeps -/

def EncoderPlace.imgpts : EncoderPlace α → Option Int
  | used _ imgpts _ | released imgpts => some imgpts
  | _ => none

structure EncoderState.Sound (i : ι) (s : EncoderState ι α) : Prop where
  held : s.pool.heldBy i = s.place.data.map (i, ·)
  idle : s.pool.place i = .idle
  synced : ∀ imgpts, s.place.imgpts = some imgpts → s.times.newpts = s.times.synced imgpts

variable {i : ι} {picture : Fin maxStride → Int} {s t : EncoderState ι α} {l : EncoderEvent ι α}

omit [DecidableEq α] in
theorem EncoderState.Sound.moved {place : EncoderPlace α} {times : Timestamps} (sound : s.Sound i)
    (same : place.data = s.place.data)
    (synced : ∀ imgpts, place.imgpts = some imgpts → times.newpts = times.synced imgpts) :
    EncoderState.Sound i { s with place := place, times := times } := by
  refine ⟨?_, sound.idle, synced⟩
  rw [same]
  exact sound.held

theorem EncoderState.Sound.load {found : Option α} {pool : PoolState ι α} {place : EncoderPlace α}
    (sound : s.Sound i) (empty : s.place.data = []) (taken : PoolStep s.pool (.load i found) pool)
    (nothing : place.data = []) (unknown : place.imgpts = none) :
    EncoderState.Sound i { s with pool := pool, place := found.elim place .loaded } := by
  obtain ⟨held, same⟩ := taken.load_heldBy
  rw [sound.held, empty, List.map_nil, List.append_nil] at held
  refine ⟨?_, same.trans sound.idle, ?_⟩
  · cases found with
    | none =>
        dsimp only [Option.elim_none]
        rw [held, nothing]
        rfl
    | some data => exact held
  · intro imgpts here
    cases found with
    | none =>
        have known : place.imgpts = some imgpts := here
        rw [unknown] at known
        cases known
    | some data => cases here

theorem EncoderStep.sound (step : EncoderStep i picture s l t) (sound : s.Sound i) : t.Sound i := by
  cases step with
  | other foreign taken =>
      obtain ⟨held, place⟩ := taken.other foreign
      exact ⟨held.trans sound.held, place.trans sound.idle, sound.synced⟩
  | stop running place => exact sound.moved (by rw [place]; rfl) nofun
  | load place taken => exact sound.load (by rw [place]; rfl) taken rfl rfl
  | timeout running place => exact sound.moved (by rw [place]; rfl) nofun
  | wake running place => exact sound.moved (by rw [place]; rfl) nofun
  | reload place taken => exact sound.load (by rw [place]; rfl) taken rfl rfl
  | @use data frame ret running place =>
      refine sound.moved (by rw [place]; rfl) fun imgpts here => ?_
      cases here
      exact s.times.handle_newpts (encoderPtsSync ret) frame.imgpts
  | @release data imgpts copied pool place taken =>
      obtain ⟨held, same⟩ := taken.release_heldBy
      have before := sound.held
      rw [place] at before
      have nothing : pool.heldBy i = [] := by
        rw [held, before]
        exact List.erase_cons_head ..
      refine ⟨?_, same.trans sound.idle, fun imgpts' here => ?_⟩
      · rw [nothing]
        cases copied <;> rfl
      · cases copied with
        | false => cases here
        | true =>
            cases here
            exact sound.synced imgpts (by rw [place]; rfl)
  | @encode imgpts got running place =>
      rcases got with _ | _ | _
      · exact sound.moved (by rw [place]; rfl) nofun
      · exact sound.moved (by rw [place]; rfl) nofun
      · exact sound.moved (by rw [place]; rfl) nofun
  | @send sent running place =>
      cases sent with
      | false => exact sound.moved (by rw [place]; rfl) nofun
      | true => exact sound.moved (by rw [place]; rfl) nofun

/-! ## What a run shows -/

def EncoderEvent.loaded : EncoderEvent ι α → Option α
  | load found => found
  | _ => none

def EncoderEvent.released : EncoderEvent ι α → Option α
  | release data => some data
  | _ => none

def EncoderEvent.encoded : EncoderEvent ι α → Option (Int × Int)
  | encode pts synced _ => some (pts, synced)
  | _ => none

theorem EncoderStep.balance (step : EncoderStep i picture s l t) :
    s.place.data ++ l.loaded.toList = l.released.toList ++ t.place.data := by
  cases step with
  | other foreign taken => simp [EncoderEvent.loaded, EncoderEvent.released]
  | stop running place | timeout running place | wake running place =>
      rw [place]
      rfl
  | @load found pool place taken =>
      rw [place]
      cases found <;> rfl
  | @reload found pool place taken =>
      rw [place]
      cases found <;> rfl
  | use running place =>
      rw [place]
      rfl
  | @release data imgpts copied pool place taken =>
      rw [place]
      cases copied <;> rfl
  | @encode imgpts got running place =>
      rw [place]
      rcases got with _ | _ | _ <;> rfl
  | @send sent running place =>
      rw [place]
      cases sent <;> rfl

/-- A timestamp is later than the one before it, and is the one asked for if that is later too. -/
def Later (before after : Int × Int) : Prop :=
  before.1 < after.1 ∧ (before.1 < after.2 → after.1 = after.2)

theorem EncoderStep.pts (step : EncoderStep i picture s l t) {stamp : Option Int}
    (shown : l.encoded.map Prod.fst = stamp) :
    t.times.pts = stamp.getD s.times.pts ∧ ∀ pts ∈ stamp, s.times.pts < pts := by
  subst shown
  cases step with
  | use running place => exact ⟨s.times.handle_pts _ _, nofun⟩
  | encode running place =>
      refine ⟨rfl, ?_⟩
      rintro pts ⟨⟩
      exact s.times.advance_pts.1
  | other | stop | load | timeout | wake | reload | release | send => exact ⟨rfl, nofun⟩

theorem EncoderStep.silent (step : EncoderStep i picture s l t) (shown : l.encoded = none) :
    t.times.pts = s.times.pts :=
  (step.pts (congrArg (Option.map Prod.fst) shown)).1

theorem EncoderStep.later (step : EncoderStep i picture s l t) (sound : s.Sound i) {e : Int × Int}
    (shown : l.encoded = some e) :
    s.times.pts < e.1 ∧ (s.times.pts < e.2 → e.1 = e.2) ∧ e.1 = t.times.pts := by
  cases step with
  | @encode imgpts got running place =>
      cases shown
      obtain ⟨grows, exact'⟩ := s.times.advance_pts
      rw [sound.synced imgpts (by rw [place]; rfl)] at exact'
      exact ⟨grows, exact', rfl⟩
  | other | stop | load | timeout | wake | reload | use | release | send => cases shown

theorem vencoderThreadproc_conserves (i : ι) (picture : Fin maxStride → Int) (pool : PoolState ι α)
    (unheld : pool.heldBy i = []) (idle : pool.place i = .idle) (s : EncoderState ι α)
    (ls : List (EncoderEvent ι α))
    (run : (vencoderThreadproc i picture pool).Run ⟨pool, .top, .start⟩ ls s) :
    ls.filterMap EncoderEvent.loaded = ls.filterMap EncoderEvent.released ++ s.place.data ∧
    s.pool.heldBy i = s.place.data.map (i, ·) ∧
    (s.place = .ended →
      ls.filterMap EncoderEvent.loaded = ls.filterMap EncoderEvent.released ∧ s.pool.heldBy i = []) ∧
    (∀ before behind data frame ret, ls = before ++ .use data frame ret :: behind →
      before.filterMap EncoderEvent.loaded = before.filterMap EncoderEvent.released ++ [data]) ∧
    ((-1, -1) :: ls.filterMap EncoderEvent.encoded).IsChain Later := by
  have start : EncoderState.Sound i (⟨pool, .top, .start⟩ : EncoderState ι α) := ⟨unheld, idle, nofun⟩
  have balanced {ls : List (EncoderEvent ι α)} {s : EncoderState ι α}
      (run : (vencoderThreadproc i picture pool).Run ⟨pool, .top, .start⟩ ls s) :
      ls.filterMap EncoderEvent.loaded = ls.filterMap EncoderEvent.released ++ s.place.data :=
    run.balance_option (I := fun _ => True) (fun s => s.place.data) (fun _ _ _ _ _ => trivial)
      (fun _ _ _ _ step => EncoderStep.balance step) trivial
  have sound : s.Sound i :=
    run.invariant (I := EncoderState.Sound i) (fun _ _ _ before step => EncoderStep.sound step before) start
  refine ⟨balanced run, sound.held, ?_, ?_, ?_⟩
  · intro ended
    have all := balanced run
    have held := sound.held
    rw [ended] at all held
    exact ⟨all.trans (List.append_nil _), held⟩
  · rintro before behind data frame ret rfl
    obtain ⟨u, first, rest⟩ := run.of_append
    obtain _ | ⟨step, -⟩ := rest
    have all := balanced first
    cases step with
    | use running place =>
        rw [place] at all
        exact all
  · refine run.isChain (I := EncoderState.Sound i) (fun s b => s.times.pts = b.1)
      (fun _ _ _ before step => EncoderStep.sound step before) ?_ ?_ start rfl
    · intro s l t b sound step silent last
      exact (EncoderStep.silent step silent).trans last
    · intro s l t b e sound step shown last
      obtain ⟨grows, follows, same⟩ := EncoderStep.later step sound shown
      rw [last] at grows follows
      exact ⟨⟨grows, follows⟩, same.symm⟩

end

/-- Two frames, of which the codec keeps the first one back. -/
theorem vencoderThreadproc_conserves_two_frames :
    ∃ (pool : Pool Nat) (s : EncoderState Bool Nat) (ls : List (EncoderEvent Bool Nat)),
      datapoolInit some 2 1 .start = some pool ∧
      (vencoderThreadproc false (pictureLinesize 2) ⟨pool, [], fun _ => .idle, false⟩).Run
        ⟨⟨pool, [], fun _ => .idle, false⟩, .top, .start⟩ ls s ∧
      ls.filterMap EncoderEvent.loaded = [1, 0] ∧ ls.filterMap EncoderEvent.encoded = [(5, 5), (6, 6)] ∧
      ls.filterMap EncoderEvent.loaded = ls.filterMap EncoderEvent.released ++ s.place.data := by
  obtain ⟨pool, init⟩ : ∃ pool, datapoolInit some 2 1 .start = some pool := ⟨_, rfl⟩
  let frame (imgpts : Int) : VsourceFrame := { VsourceFrame.zero with imgtype := .rgba, imgpts := imgpts }
  have run : ∃ s, (vencoderThreadproc false (pictureLinesize 2) ⟨pool, [], fun _ => .idle, false⟩).Run
      ⟨⟨pool, [], fun _ => .idle, false⟩, .top, .start⟩
      [.other (.allocate true 1 false), .other (.storing true 1), .other (.store true 1),
        .other (.allocate true 0 false), .other (.storing true 0), .other (.store true 0),
        .load (some 1), .use 1 (frame 3) (some 5), .release 1, .encode 5 5 (some false),
        .load (some 0), .use 0 (frame 4) none, .release 0, .encode 6 6 (some true), .send true] s := by
    obtain rfl := Option.some.inj init
    exact ⟨_, .cons (.other (by decide) (.allocate rfl rfl rfl))
      (.cons (.other (by decide) (.storing rfl rfl (by decide)))
      (.cons (.other (by decide) (.store rfl rfl))
      (.cons (.other (by decide) (.allocate rfl rfl rfl))
      (.cons (.other (by decide) (.storing rfl rfl (by decide)))
      (.cons (.other (by decide) (.store rfl rfl))
      (.cons (.load rfl (.load rfl rfl rfl))
      (.cons (@EncoderStep.use _ _ _ _ _ _ _ _ (frame 3) (some 5) rfl rfl)
      (.cons (.release rfl (.release rfl rfl (by decide)))
      (.cons (@EncoderStep.encode _ _ _ _ _ _ _ 3 (some false) rfl rfl)
      (.cons (.load rfl (.load rfl rfl rfl))
      (.cons (@EncoderStep.use _ _ _ _ _ _ _ _ (frame 4) none rfl rfl)
      (.cons (.release rfl (.release rfl rfl (by decide)))
      (.cons (@EncoderStep.encode _ _ _ _ _ _ _ 4 (some true) rfl rfl)
      (.cons (@EncoderStep.send _ _ _ _ _ _ _ true rfl rfl) (.nil _)))))))))))))))⟩
  obtain ⟨s, run⟩ := run
  have all := vencoderThreadproc_conserves false (pictureLinesize 2) ⟨pool, [], fun _ => .idle, false⟩ rfl rfl s _ run
  exact ⟨pool, s, _, init, run, rfl, rfl, all.1⟩

end GamingAnywhere.Video
