import GamingAnywhere.Audio.Buffer
import GamingAnywhere.Encoder.Sync
import GamingAnywhere.Lib.Memory
import GamingAnywhere.Lib.Transition
import Mathlib.Data.List.Chain

namespace GamingAnywhere.Audio
open Lib Encoder

/-! ## The loop -/

/-- What the source records and the encoder takes. A sample of all channels is a whole number of bytes, and its
bits are an `int`. -/
structure AudioFormat where
  frameSize : Int
  channels : Int
  bitspersample : Int
  samplerate : Int
  some_samples : 0 < frameSize
  some_bits : 0 < channels * bitspersample
  whole : 8 ∣ channels * bitspersample
  unit_fits : channels * bitspersample < 2147483648

def AudioFormat.frameunit (fmt : AudioFormat) : Int := fmt.channels * fmt.bitspersample / 8

def AudioFormat.bytes (fmt : AudioFormat) (frames : Int) : Int :=
  framesize frames fmt.channels fmt.bitspersample

def AudioFormat.samplesize (fmt : AudioFormat) : Int := fmt.bytes fmt.frameSize

def AudioFormat.Fits (fmt : AudioFormat) : Prop := fmt.frameSize * fmt.channels * fmt.bitspersample < 2147483648

/-- The values are `long long`: the quotient by 1000000 stays far inside their range, and the rest are samples
that have been read. -/
structure AudioTimes where
  pts : Int
  newpts : Int
  ptsOffset : Int
  ptsSync : Int
  baseT : Timeval

def AudioTimes.start (baseT : Timeval) : AudioTimes := ⟨-1, 0, 0, 0, baseT⟩

def AudioTimes.tick (samplerate : Int) (ret : Option Int) (currT : Timeval) (r : Int) (v : AudioTimes) :
    AudioTimes :=
  let v :=
    if v.pts = -1 then
      { v with baseT := currT, ptsSync := encoderPtsSync ret, pts := encoderPtsSync ret,
               newpts := encoderPtsSync ret, ptsOffset := r }
    else
      { v with newpts := v.ptsSync + (int64 (tvdiffUs currT v.baseT * samplerate)).tdiv 1000000 - r -
                 v.ptsOffset }
  if v.pts < v.newpts then { v with pts := v.newpts } else v

/-- `encoding` is the inner loop, and `left` are the samples that the thread ends with. -/
inductive AencoderPlace
  | top
  | encoding (offset : Int)
  | ended (left : Bytes)

structure AencoderState where
  samples : Mem UInt8
  nsamples : Int
  samplebytes : Int
  times : AudioTimes
  place : AencoderPlace

inductive BlockOutcome
  | failed
  | dropped
  | sent

/-- `read` is a call with the number of samples asked for and returned, and `block` hands a block of samples
to the encoder. -/
inductive AencoderEvent
  | read (asked r : Int) (data : Bytes)
  | block (samples : Bytes) (pts : Int) (outcome : BlockOutcome)
  | rest
  | stop

def AencoderState.pending (fmt : AudioFormat) (s : AencoderState) : Bytes :=
  match s.place with
  | .top => s.samples.slice 0 (s.nsamples * fmt.frameunit).toNat
  | .encoding offset => s.samples.slice offset.toNat (s.nsamples * fmt.frameunit).toNat
  | .ended left => left

inductive AencoderStep (fmt : AudioFormat) : AencoderState → AencoderEvent → AencoderState → Prop
  | stop {s : AencoderState} : s.place = .top →
      AencoderStep fmt s .stop { s with place := .ended (s.pending fmt) }
  | nothing {s : AencoderState} {r : Int} : s.place = .top → r ≤ fmt.frameSize - s.nsamples → r ≤ 0 →
      AencoderStep fmt s (.read (fmt.frameSize - s.nsamples) r []) s
  | read {s : AencoderState} {r : Int} {data : Bytes} {currT : Timeval} {ret : Option Int} :
      s.place = .top → r ≤ fmt.frameSize - s.nsamples → 0 < r → (data.length : Int) = fmt.bytes r →
      AencoderStep fmt s (.read (fmt.frameSize - s.nsamples) r data)
        { samples := s.samples.store s.samplebytes.toNat data,
          nsamples := s.nsamples + r,
          samplebytes := int32 (s.samplebytes + int32 (r * fmt.frameunit)),
          times := s.times.tick fmt.samplerate ret currT r,
          place := .encoding 0 }
  | block {s : AencoderState} {offset : Int} {outcome : BlockOutcome} :
      s.place = .encoding offset → fmt.frameSize ≤ s.nsamples → outcome ≠ .failed →
      AencoderStep fmt s
        (.block (s.samples.slice offset.toNat (fmt.frameSize * fmt.frameunit).toNat) s.times.pts outcome)
        { s with nsamples := s.nsamples - fmt.frameSize,
                 times := { s.times with pts := s.times.pts + fmt.frameSize },
                 place := .encoding (int32 (offset + int32 (fmt.frameSize * fmt.frameunit))) }
  | fail {s : AencoderState} {offset : Int} : s.place = .encoding offset → fmt.frameSize ≤ s.nsamples →
      AencoderStep fmt s
        (.block (s.samples.slice offset.toNat (fmt.frameSize * fmt.frameunit).toNat) s.times.pts .failed)
        { s with place := .ended ((s.pending fmt).drop (fmt.frameSize * fmt.frameunit).toNat) }
  | rest {s : AencoderState} {offset : Int} : s.place = .encoding offset → s.nsamples < fmt.frameSize →
      AencoderStep fmt s .rest
        { s with samples :=
                   if 0 < offset ∧ 0 < int32 (s.samplebytes - offset) then
                     s.samples.bcopy offset.toNat 0 (int32 (s.samplebytes - offset)).toNat
                   else s.samples,
                 samplebytes := if 0 < offset then int32 (s.samplebytes - offset) else s.samplebytes,
                 place := .top }

def aencoderThreadproc (fmt : AudioFormat) : System AencoderState AencoderEvent where
  Init s := ∃ samples baseT, s = ⟨samples, 0, 0, .start baseT, .top⟩
  Step := AencoderStep fmt

/-! ## Counting -/

section
variable {fmt : AudioFormat}

theorem AudioFormat.frameunit_pos (fmt : AudioFormat) : 0 < fmt.frameunit := by
  obtain ⟨unit, whole⟩ := fmt.whole
  have := fmt.some_bits
  unfold AudioFormat.frameunit
  omega

theorem AudioFormat.bits_eq (fmt : AudioFormat) : fmt.channels * fmt.bitspersample = fmt.frameunit * 8 :=
  (Int.ediv_mul_cancel fmt.whole).symm

theorem AudioFormat.bytes_nonneg {frames : Int} (nonneg : 0 ≤ frames) : 0 ≤ frames * fmt.frameunit :=
  Int.mul_nonneg nonneg (Int.le_of_lt fmt.frameunit_pos)

theorem AudioFormat.bytes_of_fits {frames : Int} (nonneg : 0 ≤ frames)
    (fits : frames * fmt.channels * fmt.bitspersample < 2147483648) : fmt.bytes frames = frames * fmt.frameunit :=
  framesize_eq fmt.bits_eq (fmt.bytes_nonneg nonneg) fits

theorem AudioFormat.Fits.frames (fits : fmt.Fits) {frames : Int} (less : frames ≤ fmt.frameSize) :
    frames * fmt.channels * fmt.bitspersample < 2147483648 := by
  have fewer := Int.mul_le_mul_of_nonneg_right less (Int.le_of_lt fmt.some_bits)
  rw [← Int.mul_assoc, ← Int.mul_assoc] at fewer
  exact Int.lt_of_le_of_lt fewer fits

theorem AudioFormat.Fits.bytes_eq (fits : fmt.Fits) {frames : Int} (nonneg : 0 ≤ frames)
    (less : frames ≤ fmt.frameSize) : fmt.bytes frames = frames * fmt.frameunit :=
  fmt.bytes_of_fits nonneg (fits.frames less)

theorem AudioFormat.Fits.samplesize_eq (fits : fmt.Fits) : fmt.samplesize = fmt.frameSize * fmt.frameunit :=
  fits.bytes_eq (Int.le_of_lt fmt.some_samples) (Int.le_refl _)

theorem AudioFormat.Fits.block_lt (fits : fmt.Fits) : fmt.frameSize * fmt.frameunit < 2147483648 := by
  have size := fits.samplesize_eq
  have less := framesize_lt fmt.frameSize fmt.channels fmt.bitspersample
  rw [AudioFormat.samplesize, AudioFormat.bytes] at size
  omega

theorem AudioFormat.Fits.int32_eq (fits : fmt.Fits) {bytes : Int} (nonneg : 0 ≤ bytes)
    (less : bytes ≤ fmt.frameSize * fmt.frameunit) : int32 bytes = bytes :=
  int32_of_lt (by omega) (Int.lt_of_le_of_lt less fits.block_lt)

theorem audioSourceBufferRead_bytes {ab after : AudioBuffer} {asked r : Int} {data : Bytes}
    (channels : ab.channels = fmt.channels) (bits : ab.bitspersample = fmt.bitspersample)
    (positive : 0 < asked)
    (returned : audioSourceBufferRead ab asked = some ⟨r, data, after⟩) :
    r ≤ asked ∧ (0 < r → (data.length : Int) = fmt.bytes r) := by
  have least := Int.min_le_left asked ab.bframes
  simp only [audioSourceBufferRead, if_neg (Int.not_le.mpr positive), ← Int.min_def] at returned
  split_ifs at returned with empty negative
  · cases returned
    exact ⟨least, fun some_read => absurd empty (Int.not_le.mpr some_read)⟩
  · cases returned
    refine ⟨least, fun some_read => ?_⟩
    rw [Mem.length_slice, AudioFormat.bytes, ← channels, ← bits]
    omega

structure AencoderState.Counts (fmt : AudioFormat) (s : AencoderState) (offset : Int) : Prop where
  start : 0 ≤ offset
  nonneg : 0 ≤ s.nsamples
  most : s.nsamples ≤ fmt.frameSize
  bytes : s.samplebytes = offset + s.nsamples * fmt.frameunit
  within : s.samplebytes ≤ fmt.frameSize * fmt.frameunit

def AencoderState.Sound (fmt : AudioFormat) (s : AencoderState) : Prop :=
  match s.place with
  | .top => s.Counts fmt 0 ∧ s.nsamples < fmt.frameSize
  | .encoding offset => s.Counts fmt offset
  | .ended _ => True

variable {s t : AencoderState} {l : AencoderEvent}

theorem AencoderState.Counts.next {offset : Int} (counts : s.Counts fmt offset) (fits : fmt.Fits)
    (whole : fmt.frameSize ≤ s.nsamples) :
    int32 (offset + int32 (fmt.frameSize * fmt.frameunit)) = offset + fmt.frameSize * fmt.frameunit := by
  have bytes := counts.bytes
  have start := counts.start
  have within := counts.within
  have size := fmt.bytes_nonneg (Int.le_of_lt fmt.some_samples)
  have block := Int.mul_le_mul_of_nonneg_right whole (Int.le_of_lt fmt.frameunit_pos)
  rw [fits.int32_eq size (Int.le_refl _)]
  exact fits.int32_eq (by omega) (by omega)

theorem AencoderState.Counts.left {offset : Int} (counts : s.Counts fmt offset) (fits : fmt.Fits) :
    int32 (s.samplebytes - offset) = s.nsamples * fmt.frameunit := by
  have bytes := counts.bytes
  have start := counts.start
  have within := counts.within
  have nonneg := fmt.bytes_nonneg counts.nonneg
  rw [fits.int32_eq (by omega) (by omega)]
  omega

theorem AencoderState.Sound.top (sound : s.Sound fmt) (place : s.place = .top) :
    s.Counts fmt 0 ∧ s.nsamples < fmt.frameSize := by
  rwa [AencoderState.Sound, place] at sound

theorem AencoderState.Sound.encoding (sound : s.Sound fmt) {offset : Int} (place : s.place = .encoding offset) :
    s.Counts fmt offset := by
  rwa [AencoderState.Sound, place] at sound

theorem AencoderStep.sound (step : AencoderStep fmt s l t) (fits : fmt.Fits) (sound : s.Sound fmt) :
    t.Sound fmt := by
  cases step with
  | stop place => trivial
  | nothing place asked none => exact sound
  | @read r data currT ret place asked some_read size =>
      obtain ⟨counts, less⟩ := sound.top place
      have bytes := counts.bytes
      have nonneg := counts.nonneg
      have before := fmt.bytes_nonneg nonneg
      have more := fmt.bytes_nonneg (Int.le_of_lt some_read)
      have sum : (s.nsamples + r) * fmt.frameunit = s.nsamples * fmt.frameunit + r * fmt.frameunit := Int.add_mul ..
      have within : (s.nsamples + r) * fmt.frameunit ≤ fmt.frameSize * fmt.frameunit :=
        Int.mul_le_mul_of_nonneg_right (by omega) (Int.le_of_lt fmt.frameunit_pos)
      have exact_size : int32 (s.samplebytes + int32 (r * fmt.frameunit)) = (s.nsamples + r) * fmt.frameunit := by
        rw [fits.int32_eq more (by omega), bytes, Int.zero_add, ← sum]
        exact fits.int32_eq (by omega) within
      refine ⟨Int.le_refl 0, ?_, ?_, ?_, ?_⟩
      · dsimp only
        omega
      · dsimp only
        omega
      · exact exact_size.trans (Int.zero_add _).symm
      · exact exact_size.trans_le within
  | @block offset outcome place whole goes =>
      have counts := sound.encoding place
      have bytes := counts.bytes
      have start := counts.start
      have most := counts.most
      have size := fmt.bytes_nonneg (Int.le_of_lt fmt.some_samples)
      have split : (s.nsamples - fmt.frameSize) * fmt.frameunit =
          s.nsamples * fmt.frameunit - fmt.frameSize * fmt.frameunit := Int.sub_mul _ _ _
      rw [AencoderState.Sound, counts.next fits whole]
      refine ⟨?_, ?_, ?_, ?_, counts.within⟩
      · omega
      · dsimp only
        omega
      · dsimp only
        have := fmt.some_samples
        omega
      · dsimp only
        rw [split]
        omega
  | fail place whole => trivial
  | @rest offset place less =>
      have counts := sound.encoding place
      have bytes := counts.bytes
      have start := counts.start
      have within := counts.within
      refine ⟨⟨Int.le_refl 0, counts.nonneg, counts.most, ?_, ?_⟩, less⟩
      · dsimp only
        rw [counts.left fits]
        split <;> omega
      · dsimp only
        rw [counts.left fits]
        split <;> omega

/-! ## Samples -/

def AencoderEvent.samplesRead : AencoderEvent → Bytes
  | read _ _ data => data
  | _ => []

def AencoderEvent.handed : AencoderEvent → Option Bytes
  | block samples _ _ => some samples
  | _ => none

theorem AencoderStep.balance (step : AencoderStep fmt s l t) (fits : fmt.Fits) (sound : s.Sound fmt) :
    s.pending fmt ++ l.samplesRead = l.handed.toList.flatten ++ t.pending fmt := by
  cases step with
  | stop place => exact List.append_nil _
  | nothing place asked none => exact List.append_nil _
  | @read r data currT ret place asked some_read size =>
      obtain ⟨counts, -⟩ := sound.top place
      have bytes := counts.bytes
      have nonneg := counts.nonneg
      have before := fmt.bytes_nonneg nonneg
      rw [fits.bytes_eq (Int.le_of_lt some_read) (by omega)] at size
      have start : s.samplebytes.toNat = 0 + (s.nsamples * fmt.frameunit).toNat := by omega
      have longer : ((s.nsamples + r) * fmt.frameunit).toNat =
          (s.nsamples * fmt.frameunit).toNat + data.length := by
        rw [Int.add_mul]
        omega
      simp only [AencoderState.pending, place, AencoderEvent.samplesRead, AencoderEvent.handed,
        Option.toList_none, List.flatten_nil, List.nil_append, Int.toNat_zero]
      rw [start, longer, Mem.slice_store_append]
  | @block offset outcome place whole goes =>
      have counts := sound.encoding place
      have start := counts.start
      have size := fmt.bytes_nonneg (Int.le_of_lt fmt.some_samples)
      have behind : 0 ≤ (s.nsamples - fmt.frameSize) * fmt.frameunit := fmt.bytes_nonneg (by omega)
      have split : (s.nsamples * fmt.frameunit).toNat = (fmt.frameSize * fmt.frameunit).toNat +
          ((s.nsamples - fmt.frameSize) * fmt.frameunit).toNat := by
        rw [Int.sub_mul] at behind ⊢
        omega
      have next : (offset + fmt.frameSize * fmt.frameunit).toNat =
          offset.toNat + (fmt.frameSize * fmt.frameunit).toNat := Int.toNat_add start size
      simp only [AencoderState.pending, place, AencoderEvent.samplesRead, AencoderEvent.handed,
        Option.toList_some, List.flatten_singleton, List.append_nil]
      rw [counts.next fits whole, split, next, Mem.slice_add]
  | @fail offset place whole =>
      have within : (fmt.frameSize * fmt.frameunit).toNat ≤ (s.nsamples * fmt.frameunit).toNat :=
        Int.toNat_le_toNat (Int.mul_le_mul_of_nonneg_right whole (Int.le_of_lt fmt.frameunit_pos))
      have block := s.samples.take_slice offset.toNat _ _ within
      simp only [AencoderState.pending, place, AencoderEvent.samplesRead, AencoderEvent.handed,
        Option.toList_some, List.flatten_singleton, List.append_nil]
      rw [← block, List.take_append_drop]
  | @rest offset place less =>
      have counts := sound.encoding place
      have bytes := counts.bytes
      have start := counts.start
      have nonneg := fmt.bytes_nonneg counts.nonneg
      simp only [AencoderState.pending, place, AencoderEvent.samplesRead, AencoderEvent.handed,
        Option.toList_none, List.flatten_nil, List.append_nil, List.nil_append]
      rw [counts.left fits]
      split_ifs with moved
      · rw [Mem.slice_bcopy]
      · -- Either nothing was encoded, or nothing is left.
        rcases Int.lt_or_le 0 offset with later | first
        · have nothing : s.nsamples * fmt.frameunit = 0 := by omega
          rw [nothing]
          rfl
        · obtain rfl : offset = 0 := Int.le_antisymm first start
          rfl

theorem AencoderStep.length_handed (step : AencoderStep fmt s l t) {block : Bytes}
    (handed : l.handed = some block) : (block.length : Int) = fmt.frameSize * fmt.frameunit := by
  have size := fmt.bytes_nonneg (Int.le_of_lt fmt.some_samples)
  cases step with
  | stop | nothing | read | rest => cases handed
  | block | fail =>
      cases handed
      rw [Mem.length_slice]
      exact Int.toNat_of_nonneg size

/-! ## Timestamps -/

def AencoderEvent.timestamp : AencoderEvent → Option Int
  | block _ pts _ => some pts
  | _ => none

theorem AudioTimes.le_tick (samplerate : Int) (ret : Option Int) (currT : Timeval) (r : Int)
    (v : AudioTimes) : v.pts ≤ (v.tick samplerate ret currT r).pts := by
  have sync := encoderPtsSync_nonneg ret
  simp only [AudioTimes.tick]
  by_cases first : v.pts = -1
  · rw [if_pos first, if_neg (Int.lt_irrefl _)]
    dsimp only
    omega
  · rw [if_neg first]
    split
    · next later => exact Int.le_of_lt later
    · exact Int.le_refl _

def AencoderState.Behind (fmt : AudioFormat) (s : AencoderState) (pts : Int) : Prop :=
  (∃ left, s.place = .ended left) ∨ pts + fmt.frameSize ≤ s.times.pts

theorem AencoderStep.silent (step : AencoderStep fmt s l t) (shown : l.timestamp = none) {pts : Int}
    (behind : s.Behind fmt pts) : t.Behind fmt pts := by
  rcases behind with ⟨left, ended⟩ | behind
  · cases step with
    | stop place | read place | block place | fail place | rest place =>
        rw [place] at ended
        cases ended
    | nothing place asked none => exact .inl ⟨left, ended⟩
  · cases step with
    | stop place => exact .inl ⟨_, rfl⟩
    | nothing place asked none => exact .inr behind
    | @read r data currT ret place asked some_read size =>
        exact .inr (Int.le_trans behind (s.times.le_tick fmt.samplerate ret currT r))
    | block place whole goes => cases shown
    | fail place whole => cases shown
    | rest place less => exact .inr behind

theorem AencoderStep.next (step : AencoderStep fmt s l t) {pts e : Int} (shown : l.timestamp = some e)
    (behind : s.Behind fmt pts) : pts + fmt.frameSize ≤ e ∧ t.Behind fmt e := by
  have later (running : ∀ left, s.place ≠ .ended left) : pts + fmt.frameSize ≤ s.times.pts :=
    behind.resolve_left fun ended => ended.elim running
  cases step with
  | stop | nothing | read | rest => cases shown
  | block place whole goes =>
      cases shown
      exact ⟨later (by rw [place]; nofun), .inr (Int.le_refl _)⟩
  | fail place whole =>
      cases shown
      exact ⟨later (by rw [place]; nofun), .inl ⟨_, rfl⟩⟩

theorem AencoderState.sound_start (fmt : AudioFormat) (samples : Mem UInt8) (baseT : Timeval) :
    AencoderState.Sound fmt ⟨samples, 0, 0, .start baseT, .top⟩ := by
  have block := fmt.bytes_nonneg (Int.le_of_lt fmt.some_samples)
  exact ⟨⟨Int.le_refl 0, Int.le_refl 0, Int.le_of_lt fmt.some_samples, by simp, block⟩, fmt.some_samples⟩

structure AencoderConserves (fmt : AudioFormat) (s : AencoderState) (ls : List AencoderEvent) : Prop where
  counters : s.place = .top →
    0 ≤ s.nsamples ∧ s.nsamples < fmt.frameSize ∧ s.samplebytes = s.nsamples * fmt.frameunit
  room : s.place = .top →
    (fmt.frameSize - s.nsamples) * fmt.frameunit ≤ fmt.samplesize - s.samplebytes
  blocks : ∀ block ∈ ls.filterMap AencoderEvent.handed, (block.length : Int) = fmt.frameSize * fmt.frameunit
  order : (ls.filterMap AencoderEvent.handed).flatten <+: ls.flatMap AencoderEvent.samplesRead
  timestamps : (ls.filterMap AencoderEvent.timestamp).IsChain fun a b => a + fmt.frameSize ≤ b

theorem aencoderThreadproc_conserves (fmt : AudioFormat) (fits : fmt.Fits) (samples : Mem UInt8) (baseT : Timeval)
    (s : AencoderState) (ls : List AencoderEvent)
    (run : (aencoderThreadproc fmt).Run ⟨samples, 0, 0, .start baseT, .top⟩ ls s) :
    AencoderConserves fmt s ls := by
  have start := AencoderState.sound_start fmt samples baseT
  have kept (s : AencoderState) (l : AencoderEvent) (t : AencoderState) (sound : s.Sound fmt)
      (step : (aencoderThreadproc fmt).Step s l t) : t.Sound fmt := AencoderStep.sound step fits sound
  have counts (place : s.place = .top) := (run.invariant kept start).top place
  have bytes (place : s.place = .top) : s.samplebytes = s.nsamples * fmt.frameunit :=
    (counts place).1.bytes.trans (Int.zero_add _)
  constructor
  · exact fun place => ⟨(counts place).1.nonneg, (counts place).2, bytes place⟩
  · intro place
    exact Int.le_of_eq (by rw [fits.samplesize_eq, bytes place, Int.sub_mul])
  · intro block member
    obtain ⟨l, inside, handed⟩ := List.mem_filterMap.mp member
    obtain ⟨u, v, step⟩ := run.step_of_mem inside
    exact AencoderStep.length_handed step handed
  · have all := run.balance (fun s => s.pending fmt) kept
      (fun s l t sound step => AencoderStep.balance step fits sound) start
    rw [← System.flatten_filterMap] at all
    have nothing : AencoderState.pending fmt ⟨samples, 0, 0, .start baseT, .top⟩ = [] := by
      simp [AencoderState.pending]
    rw [nothing, List.nil_append] at all
    exact ⟨_, all.symm⟩
  · have chain := run.isChain (I := fun _ => True) (R := fun a b => a + fmt.frameSize ≤ b)
      (fun s pts => s.Behind fmt pts) (fun _ _ _ _ _ => trivial)
      (fun s l t pts _ step silent behind => AencoderStep.silent step silent behind)
      (fun s l t pts e _ step shown behind => AencoderStep.next step shown behind) trivial
      (b := -1 - fmt.frameSize) (.inr (by simp [AudioTimes.start]))
    exact chain.tail

end

theorem aencoderThreadproc_conserves_two_blocks : ∃ (fmt : AudioFormat) (s : AencoderState)
    (ls : List AencoderEvent),
    (aencoderThreadproc fmt).Run ⟨fun _ => 0, 0, 0, .start ⟨0, 0⟩, .top⟩ ls s ∧
    ls = [.read 2 1 [7], .rest, .read 1 1 [9], .block [7, 9] 5 .sent, .rest, .read 2 2 [8, 6],
      .block [8, 6] 7 .dropped, .rest] ∧ s.place = .top ∧ AencoderConserves fmt s ls := by
  let fmt : AudioFormat := ⟨2, 1, 8, 48000, by decide, by decide, by decide, by decide⟩
  have run : ∃ s, (aencoderThreadproc fmt).Run ⟨fun _ => 0, 0, 0, .start ⟨0, 0⟩, .top⟩
      [.read 2 1 [7], .rest, .read 1 1 [9], .block [7, 9] 5 .sent, .rest, .read 2 2 [8, 6],
        .block [8, 6] 7 .dropped, .rest] s ∧ s.place = .top :=
    ⟨_, .cons (@AencoderStep.read fmt _ 1 [7] ⟨0, 0⟩ (some 5) rfl (by decide) (by decide) rfl)
      (.cons (@AencoderStep.rest fmt _ 0 rfl (by decide))
      (.cons (@AencoderStep.read fmt _ 1 [9] ⟨0, 0⟩ none rfl (by decide) (by decide) rfl)
      (.cons (@AencoderStep.block fmt _ 0 .sent rfl (by decide) nofun)
      (.cons (@AencoderStep.rest fmt _ 2 rfl (by decide))
      (.cons (@AencoderStep.read fmt _ 2 [8, 6] ⟨0, 0⟩ none rfl (by decide) (by decide) rfl)
      (.cons (@AencoderStep.block fmt _ 0 .dropped rfl (by decide) nofun)
      (.cons (@AencoderStep.rest fmt _ 2 rfl (by decide)) (.nil _)))))))), rfl⟩
  obtain ⟨s, run, top⟩ := run
  exact ⟨fmt, s, _, run, rfl, top, aencoderThreadproc_conserves fmt (by unfold AudioFormat.Fits; decide) _ _ s _ run⟩

/-- A block of 2^27 stereo samples of 16 bits has size 0, and the first read asks for all of them. -/
theorem not_aencoderThreadproc_conserves : ¬ ∀ (fmt : AudioFormat) (samples : Mem UInt8) (baseT : Timeval)
    (s : AencoderState) (ls : List AencoderEvent),
    (aencoderThreadproc fmt).Run ⟨samples, 0, 0, .start baseT, .top⟩ ls s → AencoderConserves fmt s ls := by
  intro conserves
  let fmt : AudioFormat := ⟨134217728, 2, 16, 48000, by decide, by decide, by decide, by decide⟩
  have room := (conserves fmt (fun _ => 0) ⟨0, 0⟩ _ [] (.nil _)).room rfl
  revert room
  decide

end GamingAnywhere.Audio
