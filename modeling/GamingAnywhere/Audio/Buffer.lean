import GamingAnywhere.Lib.Bytes
import GamingAnywhere.Lib.Memory

/-!
# The audio buffer

The stored frames are the bytes between `bufhead` and `buftail`. A fill appends behind them, and moves
them to the front first where the room behind them does not suffice; a read takes from the front. Both
work under `bufmutex`, so that each is one step, a read from the end of its wait on.
-/

namespace GamingAnywhere.Audio
open Lib

/-! ## The functions -/

structure AudioBuffer where
  bufPts : Int
  frames : Int
  channels : Int
  bitspersample : Int
  bufsize : Int
  bufhead : Int
  buftail : Int
  bframes : Int
  buffer : Mem UInt8

def framesize (frames channels bitspersample : Int) : Int :=
  (int32 (int32 (frames * channels) * bitspersample)).tdiv 8

def audioSourceBufferInit (malloc : Option (Mem UInt8)) (gChunksize gChannels gBitspersample : Int) :
    Option AudioBuffer :=
  let frames := int32 (gChunksize * 4)
  if frames = 0 ∨ gChannels = 0 ∨ gBitspersample = 0 then none
  else
    malloc.map fun buffer =>
      { bufPts := 0, frames, channels := gChannels, bitspersample := gBitspersample,
        bufsize := framesize frames gChannels gBitspersample, bufhead := 0, buftail := 0, bframes := 0,
        buffer }

def payload (data : Option (Mem UInt8)) (n : Nat) : Bytes :=
  match data with
  | none => List.replicate n 0
  | some data => data.slice 0 n

/-- Case #1. -/
def AudioBuffer.append (ab : AudioBuffer) (data : Option (Mem UInt8)) (framesize frames : Int) :
    AudioBuffer :=
  { ab with buffer := ab.buffer.store ab.buftail.toNat (payload data framesize.toNat),
            buftail := ab.buftail + framesize,
            bframes := int32 (ab.bframes + frames) }

/-- Case #2. -/
def AudioBuffer.compact (ab : AudioBuffer) : AudioBuffer :=
  { ab with buffer := ab.buffer.bcopy ab.bufhead.toNat 0 (ab.buftail - ab.bufhead).toNat,
            buftail := ab.buftail - ab.bufhead,
            bufhead := 0 }

inductive Outcome
  | ignored
  | dropped
  | accepted
  deriving DecidableEq

inductive Pass
  | returned (outcome : Outcome) (ab : AudioBuffer)
  | retry (ab : AudioBuffer)

/-- From the label `retry` on, `none` where `bcopy` or `bzero` gets a negative length. -/
def fillPass (data : Option (Mem UInt8)) (framesize frames : Int) (ab : AudioBuffer) : Option Pass :=
  let headspace := ab.bufhead
  let tailspace := ab.bufsize - ab.buftail
  if headspace + tailspace < framesize then some (.returned .dropped ab)
  else if framesize ≤ tailspace then
    if framesize < 0 then none else some (.returned .accepted (ab.append data framesize frames))
  else if ab.buftail < ab.bufhead then none
  else some (.retry ab.compact)

structure Filled where
  outcome : Outcome
  jumps : Nat
  ab : AudioBuffer

/-- `none` also where more than so many jumps are taken. -/
def fillLoop (data : Option (Mem UInt8)) (framesize frames : Int) : Nat → AudioBuffer → Option Filled
  | 0, ab =>
      match fillPass data framesize frames ab with
      | some (.returned outcome ab) => some ⟨outcome, 0, ab⟩
      | _ => none
  | jumps + 1, ab =>
      match fillPass data framesize frames ab with
      | some (.returned outcome ab) => some ⟨outcome, 0, ab⟩
      | some (.retry ab) =>
          (fillLoop data framesize frames jumps ab).map fun filled =>
            { filled with jumps := filled.jumps + 1 }
      | none => none

/-- `ab` is not NULL, which `audio_source_buffer_fill` has checked. -/
def audioSourceBufferFillOne (jumps : Nat) (ab : AudioBuffer) (data : Option (Mem UInt8))
    (frames : Int) : Option Filled :=
  if frames ≤ 0 then some ⟨.ignored, 0, ab⟩
  else fillLoop data (framesize frames ab.channels ab.bitspersample) frames jumps ab

def AudioBuffer.consume (ab : AudioBuffer) (copyframe copysize : Int) : AudioBuffer :=
  let bframes := ab.bframes - copyframe
  { ab with bufhead := if bframes = 0 then 0 else ab.bufhead + copysize,
            buftail := if bframes = 0 then 0 else ab.buftail,
            bframes,
            bufPts := int64 (ab.bufPts + copyframe) }

structure Copied where
  copyframe : Int
  buf : Bytes
  ab : AudioBuffer

/-- With the buffer as it is after the wait. -/
def audioSourceBufferRead (ab : AudioBuffer) (frames : Int) : Option Copied :=
  if frames ≤ 0 then some ⟨0, [], ab⟩
  else
    let copyframe := if frames ≤ ab.bframes then frames else ab.bframes
    if copyframe ≤ 0 then some ⟨copyframe, [], ab⟩
    else
      let copysize := framesize copyframe ab.channels ab.bitspersample
      if copysize < 0 then none
      else
        some ⟨copyframe, ab.buffer.slice ab.bufhead.toNat copysize.toNat, ab.consume copyframe copysize⟩

/-! ## The jump -/

section
variable {ab again after : AudioBuffer} {data : Option (Mem UInt8)} {size frames : Int} {jumps : Nat}
  {outcome : Outcome} {r : Filled}

theorem fillLoop_returned (pass : fillPass data size frames ab = some (.returned outcome after)) :
    fillLoop data size frames jumps ab = some ⟨outcome, 0, after⟩ := by
  cases jumps with
  | zero => rw [fillLoop, pass]
  | succ jumps => rw [fillLoop, pass]

theorem fillLoop_retry (pass : fillPass data size frames ab = some (.retry again)) :
    fillLoop data size frames (jumps + 1) ab =
      (fillLoop data size frames jumps again).map fun r => { r with jumps := r.jumps + 1 } := by
  rw [fillLoop, pass]

theorem fillPass_retry (pass : fillPass data size frames ab = some (.retry again)) :
    again = ab.compact := by
  simp only [fillPass] at pass
  split_ifs at pass with full room negative
  · cases pass
  · cases pass
  · exact (Pass.retry.inj (Option.some.inj pass)).symm

theorem fillPass_compact : fillPass data size frames ab.compact ≠ some (.retry again) := by
  intro pass
  have front : ab.compact.bufhead = 0 := rfl
  simp only [fillPass, front] at pass
  split_ifs at pass with full room negative
  · cases pass
  · cases pass
  · omega

theorem fillLoop_compact (ran : fillLoop data size frames jumps ab.compact = some r) :
    fillLoop data size frames 0 ab.compact = some r ∧ r.jumps = 0 := by
  cases pass : fillPass data size frames ab.compact with
  | none => cases jumps <;> simp [fillLoop, pass] at ran
  | some p =>
      cases p with
      | returned outcome after =>
          rw [fillLoop_returned pass] at ran ⊢
          obtain rfl := Option.some.inj ran
          exact ⟨rfl, rfl⟩
      | retry again => exact absurd pass fillPass_compact

theorem fillLoop_one (ran : fillLoop data size frames jumps ab = some r) :
    fillLoop data size frames 1 ab = some r ∧ r.jumps ≤ 1 := by
  cases pass : fillPass data size frames ab with
  | none => cases jumps <;> simp [fillLoop, pass] at ran
  | some p =>
      cases p with
      | returned outcome after =>
          rw [fillLoop_returned pass] at ran ⊢
          obtain rfl := Option.some.inj ran
          exact ⟨rfl, Nat.zero_le _⟩
      | retry again =>
          obtain rfl := fillPass_retry pass
          cases jumps with
          | zero => simp [fillLoop, pass] at ran
          | succ jumps =>
              rw [fillLoop_retry pass] at ran ⊢
              obtain ⟨filled, second, rfl⟩ := Option.map_eq_some_iff.mp ran
              obtain ⟨last, none_left⟩ := fillLoop_compact second
              rw [last, Option.map_some]
              refine ⟨rfl, Nat.succ_le_succ ?_⟩
              exact Nat.le_of_eq none_left

theorem audioSourceBufferFillOne_one (ran : audioSourceBufferFillOne jumps ab data frames = some r) :
    audioSourceBufferFillOne 1 ab data frames = some r ∧ r.jumps ≤ 1 := by
  unfold audioSourceBufferFillOne at ran ⊢
  split at ran
  · rename_i ignored
    rw [if_pos ignored]
    obtain rfl := Option.some.inj ran
    exact ⟨rfl, Nat.zero_le _⟩
  · rename_i positive
    rw [if_neg positive]
    exact fillLoop_one ran

end

/-! ## What the buffer holds -/

def AudioBuffer.unit (ab : AudioBuffer) : Int := ab.channels * ab.bitspersample / 8

def AudioBuffer.shape (ab : AudioBuffer) : Int × Int × Int :=
  (ab.channels, ab.bitspersample, ab.bufsize)

structure AudioBuffer.Sized (ab : AudioBuffer) : Prop where
  frames : 0 < ab.frames
  channels : 0 < ab.channels
  bitspersample : 0 < ab.bitspersample
  whole : 8 ∣ ab.channels * ab.bitspersample
  size : ab.bufsize = ab.frames * ab.channels * ab.bitspersample / 8

def AudioBuffer.Fits (ab : AudioBuffer) (frames : Int) : Prop :=
  frames * ab.channels * ab.bitspersample < 2147483648

structure AudioBuffer.InStep (ab : AudioBuffer) : Prop where
  head : 0 ≤ ab.bufhead
  order : ab.bufhead ≤ ab.buftail
  tail : ab.buftail ≤ ab.bufsize
  frames : ab.buftail - ab.bufhead = ab.bframes * ab.unit

structure AudioBuffer.Holds (ab : AudioBuffer) (stored : Bytes) : Prop where
  unit : 0 < ab.unit
  whole : ab.channels * ab.bitspersample = ab.unit * 8
  small : ab.bufsize < 268435456
  head : 0 ≤ ab.bufhead
  tail : ab.buftail = ab.bufhead + stored.length
  inside : ab.buftail ≤ ab.bufsize
  frames : (stored.length : Int) = ab.bframes * ab.unit
  cells : ab.buffer.slice ab.bufhead.toNat stored.length = stored

@[simp] theorem length_payload (data : Option (Mem UInt8)) (n : Nat) : (payload data n).length = n := by
  cases data with
  | none => exact List.length_replicate
  | some data => exact data.length_slice 0 n

theorem framesize_eq {channels bitspersample unit frames : Int}
    (whole : channels * bitspersample = unit * 8) (nonneg : 0 ≤ frames * unit)
    (fits : frames * channels * bitspersample < 2147483648) :
    framesize frames channels bitspersample = frames * unit := by
  have bits : frames * channels * bitspersample = frames * unit * 8 := by
    rw [Int.mul_assoc, whole, ← Int.mul_assoc]
  rw [bits] at fits
  rw [framesize, int32_int32_mul, bits, int32_of_lt (by omega) fits]
  exact Int.mul_tdiv_cancel _ (by decide)

theorem framesize_lt (frames channels bitspersample : Int) :
    framesize frames channels bitspersample < 268435456 := by
  have below : int32 (int32 (frames * channels) * bitspersample) < 2147483648 :=
    Int.bmod_lt (by decide)
  have eighth : Int.sign 8 = 1 := rfl
  rw [framesize, Int.tdiv_eq_ediv, eighth]
  split_ifs
  · omega
  · omega

section
variable {ab ab' : AudioBuffer} {stored : Bytes} {data : Option (Mem UInt8)} {frames : Int}
  {jumps : Nat} {r : Filled}

theorem AudioBuffer.Holds.inStep (holds : ab.Holds stored) : ab.InStep where
  head := holds.head
  order := by
    have := holds.tail
    omega
  tail := holds.inside
  frames := by
    rw [← holds.frames, holds.tail]
    omega

theorem AudioBuffer.holds_init {malloc : Option (Mem UInt8)}
    {gChunksize gChannels gBitspersample : Int} (sized : ab.Sized)
    (init : audioSourceBufferInit malloc gChunksize gChannels gBitspersample = some ab) :
    ab.Holds [] ∧ ab.bufPts = 0 := by
  simp only [audioSourceBufferInit] at init
  split_ifs at init
  obtain ⟨buffer, -, rfl⟩ := Option.map_eq_some_iff.mp init
  have whole := Int.ediv_mul_cancel sized.whole
  have positive := Int.mul_pos sized.channels sized.bitspersample
  refine ⟨⟨?_, whole.symm, framesize_lt _ _ _, Int.le_refl _, rfl, ?_, ?_, rfl⟩, rfl⟩
  · unfold AudioBuffer.unit
    omega
  · have total : 0 ≤ int32 (gChunksize * 4) * gChannels * gBitspersample := by
      rw [Int.mul_assoc]
      exact Int.mul_nonneg (Int.le_of_lt sized.frames) (Int.le_of_lt positive)
    rw [sized.size]
    exact Int.ediv_nonneg total (by decide)
  · exact (Int.zero_mul _).symm

theorem AudioBuffer.Holds.bframes_nonneg (holds : ab.Holds stored) : 0 ≤ ab.bframes := by
  have bytes : 0 ≤ ab.bframes * ab.unit := by
    rw [← holds.frames]
    exact Int.natCast_nonneg _
  exact Int.nonneg_of_mul_nonneg_left bytes holds.unit

theorem AudioBuffer.Holds.bufsize_nonneg (holds : ab.Holds stored) : 0 ≤ ab.bufsize := by
  have head := holds.head
  have tail := holds.tail
  have inside := holds.inside
  omega

theorem AudioBuffer.Holds.le_bytes (holds : ab.Holds stored) (nonneg : 0 ≤ frames) :
    frames ≤ frames * ab.unit := by
  have one : (1 : Int) ≤ ab.unit := holds.unit
  have := Int.mul_le_mul_of_nonneg_left one nonneg
  rwa [Int.mul_one] at this

/-! ## A fill -/

theorem AudioBuffer.Holds.append (holds : ab.Holds stored) (nonneg : 0 ≤ frames)
    (room : frames * ab.unit ≤ ab.bufsize - ab.buftail) :
    (ab.append data (frames * ab.unit) frames).Holds
      (stored ++ payload data (frames * ab.unit).toNat) where
  unit := holds.unit
  whole := holds.whole
  small := holds.small
  head := holds.head
  tail := by
    have size : 0 ≤ frames * ab.unit := Int.mul_nonneg nonneg (Int.le_of_lt holds.unit)
    change ab.buftail + frames * ab.unit = _
    rw [holds.tail, List.length_append, length_payload]
    change _ = ab.bufhead + _
    push_cast
    rw [Int.toNat_of_nonneg size]
    omega
  inside := by
    change ab.buftail + frames * ab.unit ≤ ab.bufsize
    omega
  frames := by
    have size : 0 ≤ frames * ab.unit := Int.mul_nonneg nonneg (Int.le_of_lt holds.unit)
    have fewer := holds.le_bytes nonneg
    have fewer' := holds.le_bytes holds.bframes_nonneg
    have total : int32 (ab.bframes + frames) = ab.bframes + frames := by
      have := holds.frames
      have := holds.tail
      have := holds.head
      have := holds.small
      have := holds.bframes_nonneg
      exact int32_of_lt (by omega) (by omega)
    change _ = int32 (ab.bframes + frames) * ab.unit
    rw [total, Int.add_mul, ← holds.frames, List.length_append, length_payload]
    push_cast
    rw [Int.toNat_of_nonneg size]
  cells := by
    have position : ab.buftail.toNat = ab.bufhead.toNat + stored.length := by
      have := holds.tail
      have := holds.head
      omega
    change (ab.buffer.store ab.buftail.toNat _).slice ab.bufhead.toNat _ = _
    rw [position, List.length_append, Mem.slice_store_append, holds.cells]

theorem AudioBuffer.Holds.compact (holds : ab.Holds stored) : ab.compact.Holds stored where
  unit := holds.unit
  whole := holds.whole
  small := holds.small
  head := Int.le_refl _
  tail := by
    change ab.buftail - ab.bufhead = 0 + _
    rw [holds.tail]
    omega
  inside := by
    have := holds.inside
    have := holds.head
    change ab.buftail - ab.bufhead ≤ ab.bufsize
    omega
  frames := holds.frames
  cells := by
    have length : (ab.buftail - ab.bufhead).toNat = stored.length := by
      rw [holds.tail]
      omega
    change (ab.buffer.bcopy ab.bufhead.toNat 0 (ab.buftail - ab.bufhead).toNat).slice 0 _ = _
    rw [length, Mem.slice_bcopy, holds.cells]

theorem AudioBuffer.Holds.fillPass_append (holds : ab.Holds stored) (nonneg : 0 ≤ frames)
    (room : frames * ab.unit ≤ ab.bufsize - ab.buftail) :
    fillPass data (frames * ab.unit) frames ab =
      some (.returned .accepted (ab.append data (frames * ab.unit) frames)) := by
  have size : 0 ≤ frames * ab.unit := Int.mul_nonneg nonneg (Int.le_of_lt holds.unit)
  have head := holds.head
  simp only [fillPass]
  rw [if_neg (by omega), if_pos room, if_neg (by omega)]

theorem AudioBuffer.Holds.fillPass_compact (holds : ab.Holds stored)
    (room : stored.length + frames * ab.unit ≤ ab.bufsize)
    (behind : ¬frames * ab.unit ≤ ab.bufsize - ab.buftail) :
    fillPass data (frames * ab.unit) frames ab = some (.retry ab.compact) := by
  have tail := holds.tail
  simp only [fillPass]
  rw [if_neg (by omega), if_neg behind, if_neg (by omega)]

theorem AudioBuffer.Holds.fillPass_dropped (holds : ab.Holds stored)
    (full : ab.bufsize < stored.length + frames * ab.unit) :
    fillPass data (frames * ab.unit) frames ab = some (.returned .dropped ab) := by
  have tail := holds.tail
  simp only [fillPass]
  rw [if_pos (by omega)]

theorem AudioBuffer.Holds.fillOne_eq (holds : ab.Holds stored) (positive : 0 < frames)
    (fits : ab.Fits frames) : audioSourceBufferFillOne jumps ab data frames =
      fillLoop data (frames * ab.unit) frames jumps ab := by
  have size : 0 ≤ frames * ab.unit := Int.mul_nonneg (Int.le_of_lt positive) (Int.le_of_lt holds.unit)
  rw [audioSourceBufferFillOne, if_neg (by omega), framesize_eq holds.whole size fits]

theorem AudioBuffer.Holds.fill_accepted (holds : ab.Holds stored) (data : Option (Mem UInt8))
    (positive : 0 < frames)
    (fits : ab.Fits frames) (room : stored.length + frames * ab.unit ≤ ab.bufsize) :
    ∃ jumps after, audioSourceBufferFillOne 1 ab data frames = some ⟨.accepted, jumps, after⟩ ∧
      after.Holds (stored ++ payload data (frames * ab.unit).toNat) ∧ after.shape = ab.shape ∧
      after.bufPts = ab.bufPts := by
  have nonneg := Int.le_of_lt positive
  rw [holds.fillOne_eq positive fits]
  by_cases behind : frames * ab.unit ≤ ab.bufsize - ab.buftail
  · refine ⟨0, ab.append data (frames * ab.unit) frames, ?_, ?_, rfl, rfl⟩
    · exact fillLoop_returned (holds.fillPass_append nonneg behind)
    · exact holds.append nonneg behind
  · have second : frames * ab.compact.unit ≤ ab.compact.bufsize - ab.compact.buftail := by
      have tail := holds.tail
      change frames * ab.unit ≤ ab.bufsize - (ab.buftail - ab.bufhead)
      omega
    refine ⟨1, ab.compact.append data (frames * ab.unit) frames, ?_, ?_, rfl, rfl⟩
    · rw [fillLoop_retry (holds.fillPass_compact room behind)]
      have stores : fillLoop data (frames * ab.unit) frames 0 ab.compact = _ :=
        fillLoop_returned (holds.compact.fillPass_append nonneg second)
      exact congrArg (Option.map _) stores
    · exact holds.compact.append nonneg second

inductive Fills (ab : AudioBuffer) (stored : Bytes) (data : Option (Mem UInt8)) (frames : Int) :
    Filled → Prop
  | ignored : frames ≤ 0 → Fills ab stored data frames ⟨.ignored, 0, ab⟩
  | dropped : 0 < frames → ab.bufsize < stored.length + frames * ab.unit →
      Fills ab stored data frames ⟨.dropped, 0, ab⟩
  | accepted {jumps : Nat} {after : AudioBuffer} : 0 < frames →
      stored.length + frames * ab.unit ≤ ab.bufsize →
      after.Holds (stored ++ payload data (frames * ab.unit).toNat) → after.shape = ab.shape →
      after.bufPts = ab.bufPts → Fills ab stored data frames ⟨.accepted, jumps, after⟩

theorem AudioBuffer.Holds.fills (holds : ab.Holds stored) (data : Option (Mem UInt8))
    (fits : ab.Fits frames) :
    ∃ r, audioSourceBufferFillOne 1 ab data frames = some r ∧ Fills ab stored data frames r := by
  by_cases positive : 0 < frames
  · by_cases room : stored.length + frames * ab.unit ≤ ab.bufsize
    · obtain ⟨jumps, after, filled, next, shape, pts⟩ := holds.fill_accepted data positive fits room
      exact ⟨_, filled, .accepted positive room next shape pts⟩
    · have full : ab.bufsize < stored.length + frames * ab.unit := Int.not_le.mp room
      refine ⟨_, ?_, .dropped positive full⟩
      rw [holds.fillOne_eq positive fits]
      exact fillLoop_returned (holds.fillPass_dropped full)
  · exact ⟨_, if_pos (Int.not_lt.mp positive), .ignored (Int.not_lt.mp positive)⟩

/-! ## A read -/

theorem AudioBuffer.Holds.consume (holds : ab.Holds stored) (nonneg : 0 ≤ frames)
    (stored_too : frames ≤ ab.bframes) :
    (ab.consume frames (frames * ab.unit)).Holds (stored.drop (frames * ab.unit).toNat) := by
  have size : 0 ≤ frames * ab.unit := Int.mul_nonneg nonneg (Int.le_of_lt holds.unit)
  have inside : frames * ab.unit ≤ stored.length := by
    rw [holds.frames]
    exact Int.mul_le_mul_of_nonneg_right stored_too (Int.le_of_lt holds.unit)
  have left : ((stored.drop (frames * ab.unit).toNat).length : Int) =
      (ab.bframes - frames) * ab.unit := by
    rw [List.length_drop, Int.sub_mul, ← holds.frames]
    omega
  have head := holds.head
  have tail := holds.tail
  by_cases drained : ab.bframes - frames = 0
  · have none_left : stored.drop (frames * ab.unit).toNat = [] := by
      rw [drained, Int.zero_mul] at left
      exact List.length_eq_zero_iff.mp (by exact_mod_cast left)
    have front : (ab.consume frames (frames * ab.unit)).bufhead = 0 := if_pos drained
    have back : (ab.consume frames (frames * ab.unit)).buftail = 0 := if_pos drained
    rw [none_left]
    refine ⟨holds.unit, holds.whole, holds.small, ?_, ?_, ?_, ?_, rfl⟩
    · exact Int.le_of_eq front.symm
    · rw [front, back]
      rfl
    · have inside := holds.inside
      rw [back]
      change 0 ≤ ab.bufsize
      omega
    · change 0 = (ab.bframes - frames) * ab.unit
      rw [drained, Int.zero_mul]
  · have front : (ab.consume frames (frames * ab.unit)).bufhead = ab.bufhead + frames * ab.unit :=
      if_neg drained
    have back : (ab.consume frames (frames * ab.unit)).buftail = ab.buftail := if_neg drained
    refine ⟨holds.unit, holds.whole, holds.small, ?_, ?_, ?_, left, ?_⟩
    · rw [front]
      omega
    · rw [front, back, List.length_drop, tail]
      omega
    · rw [back]
      exact holds.inside
    · have position : (ab.bufhead + frames * ab.unit).toNat =
          ab.bufhead.toNat + (frames * ab.unit).toNat := Int.toNat_add head size
      rw [front, position, List.length_drop]
      change ab.buffer.slice _ _ = _
      rw [← Mem.drop_slice _ _ _ _ (by omega), holds.cells]

theorem AudioBuffer.Holds.read (holds : ab.Holds stored) (frames : Int) :
    ∃ copyframe buf after rest, audioSourceBufferRead ab frames = some ⟨copyframe, buf, after⟩ ∧
      stored = buf ++ rest ∧ after.Holds rest ∧ after.shape = ab.shape ∧
      ∀ n, ab.bufPts = int64 n → after.bufPts = int64 (n + copyframe) := by
  have nonneg := holds.bframes_nonneg
  simp only [audioSourceBufferRead]
  by_cases nothing : frames ≤ 0
  · rw [if_pos nothing]
    exact ⟨0, [], ab, stored, rfl, rfl, holds, rfl, fun n same => by rw [same, Int.add_zero]⟩
  · rw [if_neg nothing, ← Int.min_def]
    have stored_too := Int.min_le_right frames ab.bframes
    have some_too : 0 ≤ min frames ab.bframes := by omega
    generalize min frames ab.bframes = copyframe at stored_too some_too
    by_cases empty : copyframe ≤ 0
    · rw [if_pos empty]
      obtain rfl : copyframe = 0 := Int.le_antisymm empty some_too
      exact ⟨0, [], ab, stored, rfl, rfl, holds, rfl, fun n same => by rw [same, Int.add_zero]⟩
    · have size : 0 ≤ copyframe * ab.unit := Int.mul_nonneg some_too (Int.le_of_lt holds.unit)
      have inside : copyframe * ab.unit ≤ stored.length := by
        rw [holds.frames]
        exact Int.mul_le_mul_of_nonneg_right stored_too (Int.le_of_lt holds.unit)
      have fits : copyframe * ab.channels * ab.bitspersample < 2147483648 := by
        have := holds.tail
        have := holds.inside
        have := holds.head
        have := holds.small
        rw [Int.mul_assoc, holds.whole, ← Int.mul_assoc]
        omega
      have taken : ab.buffer.slice ab.bufhead.toNat (copyframe * ab.unit).toNat =
          stored.take (copyframe * ab.unit).toNat := by
        rw [← Mem.take_slice _ _ stored.length _ (by omega), holds.cells]
      rw [if_neg empty, framesize_eq holds.whole size fits, if_neg (by omega), taken]
      refine ⟨copyframe, _, _, _, rfl, (List.take_append_drop _ _).symm,
        holds.consume some_too stored_too, rfl, ?_⟩
      intro n same
      change int64 (ab.bufPts + copyframe) = _
      rw [same, int64_int64_add]

end

end GamingAnywhere.Audio
