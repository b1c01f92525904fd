import GamingAnywhere.Encoder.Sync
import GamingAnywhere.Lib.Transition
import Mathlib.Data.List.Chain

namespace GamingAnywhere.Win32
open Lib Encoder

/-! ## Differences -/

/-- A `LARGE_INTEGER` that is not negative. -/
structure LargeInteger where
  quadPart : Int
  nonneg : 0 ≤ quadPart
  fits : quadPart < 9223372036854775808

def pcdiffUs (t1 t2 freq : LargeInteger) : Int :=
  (int64 (1000000 * int64 (t1.quadPart - t2.quadPart))).tdiv freq.quadPart

def microseconds (t1 t2 freq : LargeInteger) : Int :=
  (1000000 * (t1.quadPart - t2.quadPart)).tdiv freq.quadPart

def Countable (t1 t2 : LargeInteger) : Prop :=
  1000000 * (t1.quadPart - t2.quadPart) < 9223372036854775808

/-! ## The image source -/

def frameInterval (videoFps : Int) : Int := (1000000 : Int).tdiv videoFps + 1

/-- `captureTv` is the last reading of the counter. -/
structure VsourceState where
  initialTv : LargeInteger
  captureTv : LargeInteger

inductive VsourceEvent
  | rest
  | frame (captureTv : LargeInteger) (imgpts : Int)

inductive VsourceStep (freq : LargeInteger) (videoFps : Int) :
    VsourceState → VsourceEvent → VsourceState → Prop
  | rest {s : VsourceState} : VsourceStep freq videoFps s .rest s
  | frame {s : VsourceState} {captureTv : LargeInteger} : s.captureTv.quadPart ≤ captureTv.quadPart →
      VsourceStep freq videoFps s
        (.frame captureTv ((pcdiffUs captureTv s.initialTv freq).tdiv (frameInterval videoFps)))
        { s with captureTv := captureTv }

/-- `SOURCES` is 1, so that no frame is duplicated. -/
def vsourceThreadproc (freq : LargeInteger) (videoFps : Int) : System VsourceState VsourceEvent where
  Init s := s.captureTv = s.initialTv
  Step := VsourceStep freq videoFps

def VsourceEvent.imgpts : VsourceEvent → Option Int
  | rest => none
  | frame _ imgpts => some imgpts

def VsourceEvent.Countable (initialTv : LargeInteger) : VsourceEvent → Prop
  | rest => True
  | frame captureTv _ => Win32.Countable captureTv initialTv

/-! ## The audio encoder -/

structure CounterTimes where
  pts : Int
  newpts : Int
  ptsOffset : Int
  ptsSync : Int
  baseT : LargeInteger

def CounterTimes.start (baseT : LargeInteger) : CounterTimes := ⟨-1, 0, 0, 0, baseT⟩

def CounterTimes.tick (freq : LargeInteger) (samplerate : Int) (ret : Option Int) (currT : LargeInteger)
    (r : Int) (v : CounterTimes) : CounterTimes :=
  let v :=
    if v.pts = -1 then
      { v with baseT := currT, ptsSync := encoderPtsSync ret, pts := encoderPtsSync ret,
               newpts := encoderPtsSync ret, ptsOffset := r }
    else
      { v with newpts := v.ptsSync + (int64 (pcdiffUs currT v.baseT freq * samplerate)).tdiv 1000000 - r -
                 v.ptsOffset }
  if v.pts < v.newpts then { v with pts := v.newpts } else v

inductive AencoderPlace
  | top
  | encoding
  | ended

/-- `currT` is the last reading of the counter. The samples do not matter to their timestamps. -/
structure AencoderState where
  currT : LargeInteger
  nsamples : Int
  times : CounterTimes
  place : AencoderPlace

def AencoderState.start (currT : LargeInteger) : AencoderState := ⟨currT, 0, .start currT, .top⟩

inductive AencoderEvent
  | read (currT : LargeInteger) (r : Int)
  | block (pts : Int)
  | rest
  | stop

inductive AencoderStep (freq : LargeInteger) (frameSize samplerate : Int) :
    AencoderState → AencoderEvent → AencoderState → Prop
  | stop {s : AencoderState} : s.place = .top →
      AencoderStep freq frameSize samplerate s .stop { s with place := .ended }
  | nothing {s : AencoderState} : s.place = .top → AencoderStep freq frameSize samplerate s .rest s
  | read {s : AencoderState} {r : Int} {currT : LargeInteger} {ret : Option Int} :
      s.place = .top → 0 < r → r ≤ frameSize - s.nsamples → s.currT.quadPart ≤ currT.quadPart →
      AencoderStep freq frameSize samplerate s (.read currT r)
        { currT := currT,
          nsamples := s.nsamples + r,
          times := s.times.tick freq samplerate ret currT r,
          place := .encoding }
  | block {s : AencoderState} : s.place = .encoding → frameSize ≤ s.nsamples →
      AencoderStep freq frameSize samplerate s (.block s.times.pts)
        { s with nsamples := s.nsamples - frameSize,
                 times := { s.times with pts := s.times.pts + frameSize } }
  | fail {s : AencoderState} : s.place = .encoding → frameSize ≤ s.nsamples →
      AencoderStep freq frameSize samplerate s (.block s.times.pts) { s with place := .ended }
  | rest {s : AencoderState} : s.place = .encoding → s.nsamples < frameSize →
      AencoderStep freq frameSize samplerate s .rest { s with place := .top }

def aencoderThreadproc (freq : LargeInteger) (frameSize samplerate : Int) :
    System AencoderState AencoderEvent where
  Init s := ∃ currT, s = .start currT
  Step := AencoderStep freq frameSize samplerate

def AencoderEvent.timestamp : AencoderEvent → Option Int
  | block pts => some pts
  | _ => none

/-! ## The product -/

theorem pcdiffUs_eq (t1 t2 freq : LargeInteger) :
    pcdiffUs t1 t2 freq = (int64 (1000000 * (t1.quadPart - t2.quadPart))).tdiv freq.quadPart := by
  have difference : int64 (t1.quadPart - t2.quadPart) = t1.quadPart - t2.quadPart := by
    have := t1.nonneg
    have := t1.fits
    have := t2.nonneg
    have := t2.fits
    exact int64_of_lt (by omega) (by omega)
  rw [pcdiffUs, difference]

theorem tdiv_int64_ne {d f : Int} (positive : 0 < f) (less : f < 9223372036854775808)
    (large : 9223372036854775808 ≤ d) : (int64 d).tdiv f ≠ d.tdiv f := by
  obtain ⟨k, wrapped⟩ := exists_int64_eq d
  have low : int64 d < 9223372036854775808 := Int.bmod_lt (by decide)
  have far : int64 d + f ≤ d := by omega
  have quotient : d.tdiv f = d / f := Int.tdiv_eq_ediv_of_nonneg (by omega)
  rcases Int.lt_or_le (int64 d) 0 with negative | nonneg
  · have before : (int64 d).tdiv f ≤ (0 : Int).tdiv f := Int.tdiv_le_tdiv positive (Int.le_of_lt negative)
    have after : f / f ≤ d / f := Int.ediv_le_ediv positive (by omega)
    rw [Int.zero_tdiv] at before
    rw [Int.ediv_self (by omega)] at after
    omega
  · have here : (int64 d).tdiv f = int64 d / f := Int.tdiv_eq_ediv_of_nonneg nonneg
    have after : (int64 d + f) / f ≤ d / f := Int.ediv_le_ediv positive far
    rw [Int.add_ediv_of_dvd_right (Int.dvd_refl f), Int.ediv_self (by omega)] at after
    omega

theorem pcdiffUs_eq_iff {t1 t2 freq : LargeInteger} (positive : 0 < freq.quadPart)
    (forward : t2.quadPart ≤ t1.quadPart) :
    pcdiffUs t1 t2 freq = microseconds t1 t2 freq ↔ Countable t1 t2 := by
  rw [pcdiffUs_eq, microseconds, Countable]
  constructor
  · intro same
    by_contra large
    exact tdiv_int64_ne positive freq.fits (Int.not_lt.mp large) same
  · intro countable
    rw [int64_of_lt (by omega) countable]

/-! ## Timestamps -/

section
variable {freq : LargeInteger}

theorem microseconds_mono (positive : 0 < freq.quadPart) {t t' t2 : LargeInteger}
    (forward : t.quadPart ≤ t'.quadPart) : microseconds t t2 freq ≤ microseconds t' t2 freq :=
  Int.tdiv_le_tdiv positive (by omega)

theorem frameInterval_pos {videoFps : Int} (positive : 0 < videoFps) : 0 < frameInterval videoFps := by
  have := Int.tdiv_nonneg (a := 1000000) (by decide) (Int.le_of_lt positive)
  rw [frameInterval]
  omega

def frameNumber (freq : LargeInteger) (videoFps : Int) (captureTv initialTv : LargeInteger) : Int :=
  (microseconds captureTv initialTv freq).tdiv (frameInterval videoFps)

theorem frameNumber_mono (positive : 0 < freq.quadPart) {videoFps : Int} (some_frames : 0 < videoFps)
    {t t' : LargeInteger} (initialTv : LargeInteger) (forward : t.quadPart ≤ t'.quadPart) :
    frameNumber freq videoFps t initialTv ≤ frameNumber freq videoFps t' initialTv :=
  Int.tdiv_le_tdiv (frameInterval_pos some_frames) (microseconds_mono positive forward)

structure VsourceState.Behind (freq : LargeInteger) (videoFps : Int) (initialTv : LargeInteger)
    (s : VsourceState) (imgpts : Int) : Prop where
  initial : s.initialTv = initialTv
  forward : initialTv.quadPart ≤ s.captureTv.quadPart
  frame : imgpts ≤ frameNumber freq videoFps s.captureTv initialTv

theorem VsourceStep.silent {videoFps : Int} {s t : VsourceState} {l : VsourceEvent}
    {initialTv : LargeInteger} (step : VsourceStep freq videoFps s l t) (shown : l.imgpts = none) {b : Int}
    (behind : s.Behind freq videoFps initialTv b) : t.Behind freq videoFps initialTv b := by
  cases step with
  | rest => exact behind
  | frame forward => cases shown

theorem VsourceStep.next {videoFps : Int} {s t : VsourceState} {l : VsourceEvent} {initialTv : LargeInteger}
    (positive : 0 < freq.quadPart) (some_frames : 0 < videoFps) (step : VsourceStep freq videoFps s l t)
    (countable : l.Countable initialTv) {b e : Int} (shown : l.imgpts = some e)
    (behind : s.Behind freq videoFps initialTv b) : b ≤ e ∧ t.Behind freq videoFps initialTv e := by
  cases step with
  | rest => cases shown
  | @frame captureTv forward =>
      cases shown
      have later := Int.le_trans behind.forward forward
      have exact_difference := (pcdiffUs_eq_iff positive later).mpr countable
      have number : (pcdiffUs captureTv s.initialTv freq).tdiv (frameInterval videoFps) =
          frameNumber freq videoFps captureTv initialTv := by
        rw [behind.initial, exact_difference, frameNumber]
      have ahead := frameNumber_mono positive some_frames initialTv forward
      rw [number]
      exact ⟨Int.le_trans behind.frame ahead, behind.initial, later, Int.le_refl _⟩

theorem vsource_imgpts_isChain {videoFps : Int} {initialTv : LargeInteger} {s : VsourceState}
    {ls : List VsourceEvent} (positive : 0 < freq.quadPart) (some_frames : 0 < videoFps)
    (run : (vsourceThreadproc freq videoFps).Run ⟨initialTv, initialTv⟩ ls s)
    (countable : ∀ l ∈ ls, l.Countable initialTv) :
    (ls.filterMap VsourceEvent.imgpts).IsChain (· ≤ ·) := by
  have guarded : ((vsourceThreadproc freq videoFps).restrict fun _ l _ => l.Countable initialTv).Run
      ⟨initialTv, initialTv⟩ ls s :=
    (run.restrict_iff_forall (I := fun _ => True) (P := fun l => l.Countable initialTv)
      (fun _ _ _ _ _ => trivial) (fun _ _ _ _ _ => Iff.rfl) trivial).mpr countable
  have first : VsourceState.Behind freq videoFps initialTv ⟨initialTv, initialTv⟩
      (frameNumber freq videoFps initialTv initialTv) := ⟨rfl, Int.le_refl _, Int.le_refl _⟩
  have chain := guarded.isChain (I := fun _ => True) (R := (· ≤ ·))
    (fun s b => s.Behind freq videoFps initialTv b) (fun _ _ _ _ _ => trivial)
    (fun s l t b _ (step : _ ∧ VsourceStep freq videoFps s l t) shown behind => step.2.silent shown behind)
    (fun s l t b e _ (step : _ ∧ VsourceStep freq videoFps s l t) shown behind =>
      step.2.next positive some_frames step.1 shown behind) trivial first
  exact chain.tail

theorem CounterTimes.le_tick (samplerate : Int) (ret : Option Int) (currT : LargeInteger) (r : Int)
    (v : CounterTimes) : v.pts ≤ (v.tick freq samplerate ret currT r).pts := by
  have sync := encoderPtsSync_nonneg ret
  simp only [CounterTimes.tick]
  by_cases first : v.pts = -1
  · rw [if_pos first, if_neg (Int.lt_irrefl _)]
    dsimp only
    omega
  · rw [if_neg first]
    split
    · next later => exact Int.le_of_lt later
    · exact Int.le_refl _

def AencoderState.Behind (s : AencoderState) (pts : Int) : Prop := s.place = .ended ∨ pts ≤ s.times.pts

variable {frameSize samplerate : Int} {s t : AencoderState} {l : AencoderEvent}

theorem AencoderStep.silent (step : AencoderStep freq frameSize samplerate s l t)
    (shown : l.timestamp = none) {pts : Int} (behind : s.Behind pts) : t.Behind pts := by
  cases step with
  | stop place => exact .inl rfl
  | nothing place => exact behind
  | @read r currT ret place some_read asked forward =>
      have later := behind.resolve_left (by rw [place]; nofun)
      exact .inr (Int.le_trans later (s.times.le_tick samplerate ret currT r))
  | block | fail => cases shown
  | rest place less => exact .inr (behind.resolve_left (by rw [place]; nofun))

theorem AencoderStep.next (some_samples : 0 < frameSize) (step : AencoderStep freq frameSize samplerate s l t)
    {pts e : Int} (shown : l.timestamp = some e) (behind : s.Behind pts) : pts ≤ e ∧ t.Behind e := by
  cases step with
  | stop | nothing | read | rest => cases shown
  | block place whole =>
      cases shown
      refine ⟨behind.resolve_left (by rw [place]; nofun), .inr ?_⟩
      dsimp only
      omega
  | fail place whole =>
      cases shown
      exact ⟨behind.resolve_left (by rw [place]; nofun), .inl rfl⟩

theorem aencoder_pts_isChain {currT : LargeInteger} {ls : List AencoderEvent} (some_samples : 0 < frameSize)
    (run : (aencoderThreadproc freq frameSize samplerate).Run (.start currT) ls s) :
    (ls.filterMap AencoderEvent.timestamp).IsChain (· ≤ ·) := by
  have chain := run.isChain (I := fun _ => True) (R := (· ≤ ·)) AencoderState.Behind
    (fun _ _ _ _ _ => trivial)
    (fun s l t pts _ step silent behind => AencoderStep.silent step silent behind)
    (fun s l t pts e _ step shown behind => AencoderStep.next some_samples step shown behind) trivial
    (b := -1) (.inr (Int.le_refl _))
  exact chain.tail

theorem pcdiffUs_right_iff (freq : LargeInteger) (positive : 0 < freq.quadPart) :
    (∀ t1 t2 : LargeInteger, t2.quadPart ≤ t1.quadPart →
      (pcdiffUs t1 t2 freq = microseconds t1 t2 freq ↔ Countable t1 t2)) ∧
    (∀ videoFps initialTv ls s, 0 < videoFps →
      (vsourceThreadproc freq videoFps).Run ⟨initialTv, initialTv⟩ ls s →
      (∀ l ∈ ls, l.Countable initialTv) → (ls.filterMap VsourceEvent.imgpts).IsChain (· ≤ ·)) ∧
    (∀ frameSize samplerate currT ls s, 0 < frameSize →
      (aencoderThreadproc freq frameSize samplerate).Run (.start currT) ls s →
      (ls.filterMap AencoderEvent.timestamp).IsChain (· ≤ ·)) := by
  refine ⟨?_, ?_, ?_⟩
  · intro t1 t2 forward
    exact pcdiffUs_eq_iff positive forward
  · intro videoFps initialTv ls s some_frames run countable
    exact vsource_imgpts_isChain positive some_frames run countable
  · intro frameSize samplerate currT ls s some_samples run
    exact aencoder_pts_isChain some_samples run

end

theorem pcdiffUs_right_second :
    pcdiffUs ⟨10000000, by decide, by decide⟩ ⟨0, by decide, by decide⟩ ⟨10000000, by decide, by decide⟩ =
      1000000 :=
  ((pcdiffUs_right_iff ⟨10000000, by decide, by decide⟩ (by decide)).1 _ _ (by decide)).mpr (by
    unfold Countable
    decide)

/-- At 10 MHz the product outgrows its 64 bits between two readings of the eleventh day. -/
theorem not_pcdiffUs_right :
    ∃ (t t' t0 freq : LargeInteger) (s : VsourceState) (ls : List VsourceEvent),
      t.quadPart = 9223372036854 ∧ t'.quadPart = 9223372036855 ∧ t0.quadPart = 0 ∧
      freq.quadPart = 10000000 ∧ microseconds t' t0 freq = 922337203685 ∧
      pcdiffUs t' t0 freq = -922337203685 ∧
      (vsourceThreadproc freq 30).Run ⟨t0, t0⟩ ls s ∧
      ¬(ls.filterMap VsourceEvent.imgpts).IsChain (· ≤ ·) := by
  let t : LargeInteger := ⟨9223372036854, by decide, by decide⟩
  let t' : LargeInteger := ⟨9223372036855, by decide, by decide⟩
  let t0 : LargeInteger := ⟨0, by decide, by decide⟩
  let freq : LargeInteger := ⟨10000000, by decide, by decide⟩
  have run : (vsourceThreadproc freq 30).Run ⟨t0, t0⟩
      [.frame t 27669562, .frame t' (-27669562)] ⟨t0, t'⟩ := by
    have first : VsourceStep freq 30 ⟨t0, t0⟩ (.frame t 27669562) ⟨t0, t⟩ := .frame (by decide)
    have second : VsourceStep freq 30 ⟨t0, t⟩ (.frame t' (-27669562)) ⟨t0, t'⟩ := .frame (by decide)
    exact .cons first (.cons second (.nil _))
  exact ⟨t, t', t0, freq, _, _, rfl, rfl, rfl, rfl, by decide, by decide, run, by decide⟩

end GamingAnywhere.Win32
