import GamingAnywhere.Audio.Buffer
import GamingAnywhere.Lib.Stream

namespace GamingAnywhere.Audio
open Lib

inductive Call
  | fill (data : Option (Mem UInt8)) (frames : Int)
  | read (frames : Int)

inductive Reply
  | filled (outcome : Outcome) (jumps : Nat)
  | read (copyframe : Int) (buf : Bytes)

def perform (jumps : Nat) (ab : AudioBuffer) : Call → Option (Reply × AudioBuffer)
  | .fill data frames =>
      (audioSourceBufferFillOne jumps ab data frames).map fun r => (.filled r.outcome r.jumps, r.ab)
  | .read frames => (audioSourceBufferRead ab frames).map fun r => (.read r.copyframe r.buf, r.ab)

def audioBuffer : System AudioBuffer (Call × Reply) where
  Init ab := ∃ malloc gChunksize gChannels gBitspersample,
    audioSourceBufferInit malloc gChunksize gChannels gBitspersample = some ab
  Step ab l ab' := ∃ jumps, perform jumps ab l.1 = some (l.2, ab')

/-- What the calls reply, when each fill may jump back once. -/
def replay (ab : AudioBuffer) : List Call → Option (List Reply × AudioBuffer)
  | [] => some ([], ab)
  | call :: calls => do
      let (reply, ab) ← perform 1 ab call
      let (replies, ab) ← replay ab calls
      some (reply :: replies, ab)

/-! ## What a run does -/

def Reply.frames : Reply → Int
  | .filled _ _ => 0
  | .read copyframe _ => copyframe

def Reply.bytes : Reply → Bytes
  | .filled _ _ => []
  | .read _ buf => buf

def framesRead : List (Call × Reply) → Int
  | [] => 0
  | l :: ls => l.2.frames + framesRead ls

def acceptedBytes (unit : Int) : Call × Reply → Bytes
  | (.fill data frames, .filled .accepted _) => payload data (frames * unit).toNat
  | _ => []

def FillFits (ab : AudioBuffer) (l : Call × Reply) (_ : AudioBuffer) : Prop :=
  match l.1 with
  | .fill _ frames => ab.Fits frames
  | .read _ => True

structure Lossless (first : AudioBuffer) (ls : List (Call × Reply)) (ab : AudioBuffer) : Prop where
  inStep : ab.InStep
  fill : ∀ data frames, ab.Fits frames → ∃ outcome jumps after,
    audioSourceBufferFillOne 1 ab data frames = some ⟨outcome, jumps, after⟩ ∧ jumps ≤ 1 ∧
    (outcome = .dropped ↔
      0 < frames ∧ ab.bufsize - (ab.buftail - ab.bufhead) < frames * ab.unit) ∧
    (outcome ≠ .accepted → after = ab)
  order : (ls.flatMap fun l => l.2.bytes) <+: ls.flatMap (acceptedBytes first.unit)
  pts : ab.bufPts = int64 (framesRead ls)
  alone : replay first (ls.map Prod.fst) = some (ls.map Prod.snd, ab)

/-! ## The refinement -/

def asStream (unit : Int) : Call × Reply → Option (Stream.Event UInt8)
  | (.fill data frames, .filled .accepted _) => some (.write (payload data (frames * unit).toNat) true)
  | (.fill data frames, .filled .dropped _) => some (.write (payload data (frames * unit).toNat) false)
  | (_, .read _ buf) => some (.read buf)
  | _ => none

structure Implements (first ab : AudioBuffer) (stored : Bytes) : Prop where
  holds : ab.Holds stored
  shape : ab.shape = first.shape

section
variable {first ab after : AudioBuffer} {stored : Bytes} {call : Call} {reply : Reply} {jumps : Nat}
  {ls : List (Call × Reply)}

theorem perform_one {x : Reply × AudioBuffer} (ran : perform jumps ab call = some x) :
    perform 1 ab call = some x := by
  cases call with
  | fill data frames =>
      obtain ⟨r, filled, rfl⟩ := Option.map_eq_some_iff.mp ran
      rw [perform, (audioSourceBufferFillOne_one filled).1, Option.map_some]
  | read frames => exact ran

theorem Implements.unit_eq (implements : Implements first ab stored) : ab.unit = first.unit := by
  obtain ⟨channels, bits⟩ := Prod.mk.inj implements.shape
  rw [AudioBuffer.unit, channels, (Prod.mk.inj bits).1, AudioBuffer.unit]

theorem Implements.bufsize_eq (implements : Implements first ab stored) :
    ab.bufsize = first.bufsize := by
  obtain ⟨channels, bits⟩ := Prod.mk.inj implements.shape
  exact (Prod.mk.inj bits).2

inductive Implements.Moves (first after : AudioBuffer) (stored : Bytes) (l : Call × Reply) : Prop
  | shown (e : Stream.Event UInt8) (rest : Bytes) : asStream first.unit l = some e →
      Stream.Step first.bufsize.toNat stored e rest → Implements first after rest → Moves first after stored l
  | hidden : asStream first.unit l = none → Implements first after stored → Moves first after stored l

theorem Implements.step (implements : Implements first ab stored)
    (fits : FillFits ab (call, reply) after) (ran : perform jumps ab call = some (reply, after)) :
    Moves first after stored (call, reply) ∧
      ∀ n, ab.bufPts = int64 n → after.bufPts = int64 (n + reply.frames) := by
  have once := perform_one ran
  have holds := implements.holds
  have unit := implements.unit_eq
  have bufsize := implements.bufsize_eq
  cases call with
  | fill data frames =>
      obtain ⟨r, filled, fills⟩ := holds.fills data fits
      rw [perform, filled] at once
      obtain ⟨rfl, rfl⟩ := Prod.mk.inj (Option.some.inj once)
      have counted : ∀ n, int64 (n + (Reply.filled r.outcome r.jumps).frames) = int64 n := by
        intro n
        exact congrArg int64 (Int.add_zero n)
      have capacity := holds.bufsize_nonneg
      cases fills with
      | ignored nothing =>
          refine ⟨.hidden rfl implements, ?_⟩
          intro n same
          rw [counted, same]
      | dropped positive full =>
          have size := Int.mul_nonneg (Int.le_of_lt positive) (Int.le_of_lt holds.unit)
          constructor
          · apply Moves.shown _ _ rfl (.drop _) implements
            rw [length_payload, ← unit, ← bufsize]
            omega
          · intro n same
            rw [counted, same]
      | accepted positive room next shape pts =>
          have size := Int.mul_nonneg (Int.le_of_lt positive) (Int.le_of_lt holds.unit)
          constructor
          · apply Moves.shown _ _ rfl (.accept _) ⟨_, shape.trans implements.shape⟩
            · rw [length_payload, ← unit, ← bufsize]
              omega
            · rw [← unit]
              exact next
          · intro n same
            rw [counted, pts, same]
  | read frames =>
      obtain ⟨copyframe, buf, later, rest, copied, rfl, next, shape, pts⟩ := holds.read frames
      rw [perform, copied] at once
      obtain ⟨rfl, rfl⟩ := Prod.mk.inj (Option.some.inj once)
      exact ⟨.shown _ _ rfl .read ⟨next, shape.trans implements.shape⟩, pts⟩

theorem Implements.run (run : (audioBuffer.restrict FillFits).Run ab ls after)
    (implements : Implements first ab stored) :
    ∃ rest, (Stream.system first.bufsize.toNat).Run stored (ls.filterMap (asStream first.unit)) rest ∧
      Implements first after rest := by
  apply run.projected _ _ implements
  · rintro ab stored ⟨call, reply⟩ after e implements ⟨fits, jumps, ran⟩ image
    cases (implements.step fits ran).1 with
    | shown e' rest image' step next =>
        obtain rfl := Option.some.inj (image.symm.trans image')
        exact ⟨rest, step, next⟩
    | hidden image' next =>
        rw [image] at image'
        cases image'
  · rintro ab stored ⟨call, reply⟩ after implements ⟨fits, jumps, ran⟩ image
    cases (implements.step fits ran).1 with
    | shown e' rest image' step next =>
        rw [image] at image'
        cases image'
    | hidden image' next => exact next

theorem Implements.pts (run : (audioBuffer.restrict FillFits).Run ab ls after)
    (implements : Implements first ab stored) (n : Int) (same : ab.bufPts = int64 n) :
    after.bufPts = int64 (n + framesRead ls) := by
  induction run generalizing stored n with
  | nil => rw [framesRead, Int.add_zero, same]
  | @cons ab next after l ls step _ ih =>
      obtain ⟨fits, jumps, ran⟩ := step
      obtain ⟨moves, counts⟩ := implements.step fits ran
      rw [framesRead, ← Int.add_assoc]
      cases moves with
      | shown e rest image step next => exact ih next _ (counts n same)
      | hidden image next => exact ih next _ (counts n same)

theorem replay_of_run (run : audioBuffer.Run ab ls after) :
    replay ab (ls.map Prod.fst) = some (ls.map Prod.snd, after) := by
  induction run with
  | nil => rfl
  | @cons ab next after l ls step _ ih =>
      obtain ⟨jumps, ran⟩ := step
      rw [List.map_cons, List.map_cons, replay, perform_one ran]
      exact congrArg (· >>= _) ih

theorem flatMap_asStream {unit : Int} {g : Stream.Event UInt8 → Bytes} {h : Call × Reply → Bytes}
    (same : ∀ l, ((asStream unit l).map g).getD [] = h l) (ls : List (Call × Reply)) :
    (ls.filterMap (asStream unit)).flatMap g = ls.flatMap h := by
  induction ls with
  | nil => rfl
  | cons l ls ih =>
      have first := same l
      rw [List.flatMap_cons, ← first, ← ih]
      cases image : asStream unit l with
      | none =>
          rw [List.filterMap_cons_none image]
          rfl
      | some e =>
          rw [List.filterMap_cons_some image]
          rfl

theorem accepted_asStream (unit : Int) (l : Call × Reply) :
    ((asStream unit l).map Stream.Event.accepted).getD [] = acceptedBytes unit l := by
  obtain ⟨call, reply⟩ := l
  cases call with
  | fill data frames =>
      cases reply with
      | filled outcome jumps => cases outcome <;> rfl
      | read copyframe buf => rfl
  | read frames => cases reply <;> rfl

theorem delivered_asStream (unit : Int) (l : Call × Reply) :
    ((asStream unit l).map Stream.Event.delivered).getD [] = l.2.bytes := by
  obtain ⟨call, reply⟩ := l
  cases call with
  | fill data frames =>
      cases reply with
      | filled outcome jumps => cases outcome <;> rfl
      | read copyframe buf => rfl
  | read frames => cases reply <;> rfl

theorem AudioBuffer.Holds.fill (holds : ab.Holds stored) (data : Option (Mem UInt8)) (frames : Int)
    (fits : ab.Fits frames) : ∃ outcome jumps after,
      audioSourceBufferFillOne 1 ab data frames = some ⟨outcome, jumps, after⟩ ∧ jumps ≤ 1 ∧
      (outcome = .dropped ↔
        0 < frames ∧ ab.bufsize - (ab.buftail - ab.bufhead) < frames * ab.unit) ∧
      (outcome ≠ .accepted → after = ab) := by
  have tail := holds.tail
  obtain ⟨r, filled, fills⟩ := holds.fills data fits
  refine ⟨r.outcome, r.jumps, r.ab, filled, (audioSourceBufferFillOne_one filled).2, ?_⟩
  cases fills with
  | ignored nothing =>
      refine ⟨⟨nofun, ?_⟩, fun _ => rfl⟩
      rintro ⟨positive, -⟩
      omega
  | dropped positive full =>
      refine ⟨⟨?_, fun _ => rfl⟩, fun _ => rfl⟩
      intro _
      exact ⟨positive, by omega⟩
  | accepted positive room next shape pts =>
      refine ⟨⟨nofun, ?_⟩, nofun⟩
      rintro ⟨-, full⟩
      omega

theorem audioBuffer_lossless (sized : first.Sized) (init : audioBuffer.Init first)
    (run : (audioBuffer.restrict FillFits).Run first ls ab) : Lossless first ls ab := by
  obtain ⟨malloc, gChunksize, gChannels, gBitspersample, init⟩ := init
  obtain ⟨holds, zero⟩ := AudioBuffer.holds_init sized init
  have start : Implements first first [] := ⟨holds, rfl⟩
  obtain ⟨stored, ran, implements⟩ := start.run run
  constructor
  · exact implements.holds.inStep
  · exact implements.holds.fill
  · rw [← flatMap_asStream (accepted_asStream first.unit),
      ← flatMap_asStream (delivered_asStream first.unit)]
    exact Stream.delivered_prefix_accepted ran
  · have counted := start.pts run 0 zero
    rwa [Int.zero_add] at counted
  · exact replay_of_run run.of_restrict

end

end GamingAnywhere.Audio
