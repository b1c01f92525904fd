import GamingAnywhere.Encoder.Sync

namespace GamingAnywhere.Win32
open Lib Encoder

/-! ## The clock -/

/-- `tvdiff_us`, where a `long` has 32 bits. -/
def tvdiffUs (tv1 tv2 : Timeval) : Int :=
  let tvSec := int32 (tv1.tvSec - tv2.tvSec)
  let tvUsec := int32 (tv1.tvUsec - tv2.tvUsec)
  if tvUsec < 0 then int64 (1000000 * int32 (tvSec - 1) + (tvUsec + 1000000))
  else int64 (1000000 * tvSec + tvUsec)

def time (tv : Timeval) : Int := 1000000 * tv.tvSec + tv.tvUsec

/-- What `gettimeofday` reads: when `usleep` is called, when a `Sleep` of `ms` milliseconds is over, and
from then on. -/
structure Clock (ms : Nat) where
  reading : Nat → Timeval
  sec : ∀ j, -2147483648 ≤ (reading j).tvSec ∧ (reading j).tvSec < 2147483648
  usec : ∀ j, 0 ≤ (reading j).tvUsec ∧ (reading j).tvUsec < 1000000
  forward : ∀ {i j}, i ≤ j → time (reading i) ≤ time (reading j)
  slept : 1000 * (ms : Int) ≤ time (reading 1) - time (reading 0)

def Clock.elapsed {ms : Nat} (clock : Clock ms) (j : Nat) : Int :=
  time (clock.reading j) - time (clock.reading 0)

/-! ## `usleep` -/

/-- The argument of `Sleep` is a `DWORD`. -/
def sleepMs (waitTime : Int) : Nat := uint32 (waitTime / 1000)

/-- The readings that were taken are those before `reads`, and `moment` is when the call returns. -/
structure Wake where
  reads : Nat
  moment : Nat
  deriving DecidableEq

/-- The loop, from the reading `j` on; `none` where it is not left within `fuel` turns. -/
def spin (reading : Nat → Timeval) (waitTime : Int) : Nat → Nat → Option Wake
  | 0, _ => none
  | fuel + 1, j =>
      if tvdiffUs (reading j) (reading 0) < waitTime then spin reading waitTime fuel (j + 1)
      else some ⟨j + 1, j⟩

def usleep (reading : Nat → Timeval) (waitTime : Int) (fuel : Nat) : Option Wake :=
  if waitTime ≤ 0 then some ⟨0, 0⟩
  else if 0 < waitTime % 1000 then spin reading (waitTime % 1000) fuel 1
  else some ⟨1, 1⟩

def Clear {ms : Nat} (clock : Clock ms) (waitTime : Int) : Prop :=
  ∀ j ≥ 1, waitTime % 1000 ≤ clock.elapsed j → waitTime ≤ clock.elapsed j

/-! ## Differences -/

section
variable {ms : Nat} {clock : Clock ms}

theorem Clock.elapsed_mono (clock : Clock ms) {i j : Nat} (le : i ≤ j) : clock.elapsed i ≤ clock.elapsed j :=
  Int.sub_le_sub_right (clock.forward le) _

theorem Clock.elapsed_zero (clock : Clock ms) : clock.elapsed 0 = 0 := Int.sub_self _

/-- A difference of at most 68 years is right, and a larger one is negative. -/
theorem Clock.tvdiffUs_eq (clock : Clock ms) (j : Nat) :
    tvdiffUs (clock.reading j) (clock.reading 0) =
      if clock.elapsed j < 2147483648000000 then clock.elapsed j
      else clock.elapsed j - 4294967296000000 := by
  have nonneg := clock.elapsed_mono (Nat.zero_le j)
  rw [clock.elapsed_zero] at nonneg
  obtain ⟨low, high⟩ := clock.sec j
  obtain ⟨low', high'⟩ := clock.sec 0
  obtain ⟨least, most⟩ := clock.usec j
  obtain ⟨least', most'⟩ := clock.usec 0
  unfold Clock.elapsed time at nonneg ⊢
  have usec : int32 ((clock.reading j).tvUsec - (clock.reading 0).tvUsec) =
      (clock.reading j).tvUsec - (clock.reading 0).tvUsec := int32_of_lt (by omega) (by omega)
  have borrow : int32 (int32 ((clock.reading j).tvSec - (clock.reading 0).tvSec) - 1) =
      int32 ((clock.reading j).tvSec - (clock.reading 0).tvSec - 1) := Int.bmod_sub_bmod
  rw [tvdiffUs, usec, borrow]
  split_ifs with before near near
  · rw [int32_of_nonneg (by omega) (by omega), if_pos (by omega), int64_of_lt (by omega) (by omega)]
    omega
  · rw [int32_of_nonneg (by omega) (by omega), if_neg (by omega), int64_of_lt (by omega) (by omega)]
    omega
  · rw [int32_of_nonneg (by omega) (by omega), if_pos (by omega), int64_of_lt (by omega) (by omega)]
    omega
  · rw [int32_of_nonneg (by omega) (by omega), if_neg (by omega), int64_of_lt (by omega) (by omega)]
    omega

theorem Clock.elapsed_of_tvdiffUs {waitTime : Int} {m : Nat} (positive : 0 < waitTime)
    (waited : waitTime ≤ tvdiffUs (clock.reading m) (clock.reading 0)) :
    clock.elapsed m < 2147483648000000 ∧ waitTime ≤ clock.elapsed m := by
  obtain ⟨low, high⟩ := clock.sec m
  obtain ⟨low', high'⟩ := clock.sec 0
  obtain ⟨least, most⟩ := clock.usec m
  obtain ⟨least', most'⟩ := clock.usec 0
  rw [clock.tvdiffUs_eq] at waited
  unfold Clock.elapsed time at waited ⊢
  split_ifs at waited with near
  · exact ⟨near, waited⟩
  · omega

/-! ## The loop -/

theorem spin_eq_some {reading : Nat → Timeval} {rest : Int} {fuel j : Nat} {wake : Wake}
    (left : spin reading rest fuel j = some wake) : ∃ m, wake = ⟨m + 1, m⟩ ∧ j ≤ m ∧
      rest ≤ tvdiffUs (reading m) (reading 0) ∧
      ∀ i, j ≤ i → i < m → tvdiffUs (reading i) (reading 0) < rest := by
  induction fuel generalizing j with
  | zero => cases left
  | succ fuel ih =>
      rw [spin] at left
      split_ifs at left with short
      · obtain ⟨m, woken, later, waited, before⟩ := ih left
        refine ⟨m, woken, Nat.le_of_succ_le later, waited, ?_⟩
        intro i from_j less
        rcases Nat.eq_or_lt_of_le from_j with rfl | behind
        · exact short
        · exact before i behind less
      · cases left
        refine ⟨j, rfl, Nat.le_refl j, Int.not_lt.mp short, ?_⟩
        intro i from_j less
        exact absurd less (Nat.not_lt_of_ge from_j)

theorem spin_first {rest : Int} {fuel : Nat} {wake : Wake} (positive : 0 < rest)
    (left : spin clock.reading rest fuel 1 = some wake) : ∃ m ≥ 1, wake = ⟨m + 1, m⟩ ∧
      rest ≤ clock.elapsed m ∧ ∀ j ≥ 1, rest ≤ clock.elapsed j → m ≤ j := by
  obtain ⟨m, woken, later, waited, before⟩ := spin_eq_some left
  obtain ⟨near, passed⟩ := Clock.elapsed_of_tvdiffUs positive waited
  refine ⟨m, later, woken, passed, ?_⟩
  intro j some_later at_j
  by_contra earlier
  have short := before j some_later (Nat.lt_of_not_le earlier)
  have less := clock.elapsed_mono (Nat.le_of_lt (Nat.lt_of_not_le earlier))
  rw [clock.tvdiffUs_eq, if_pos (Int.lt_of_le_of_lt less near)] at short
  exact Int.not_le.mpr short at_j

theorem spin_isSome {reading : Nat → Timeval} {rest : Int} {m : Nat}
    (waited : rest ≤ tvdiffUs (reading m) (reading 0)) (fuel j : Nat) (le : j ≤ m) (enough : m < j + fuel) :
    (spin reading rest fuel j).isSome := by
  induction fuel generalizing j with
  | zero => exact absurd enough (Nat.not_lt_of_ge le)
  | succ fuel ih =>
      rw [spin]
      split_ifs with short
      · have other : j ≠ m := by
          rintro rfl
          exact Int.not_le.mpr short waited
        exact ih (j + 1) (Nat.lt_of_le_of_ne le other) (by omega)
      · rfl

/-! ## The wait -/

theorem clear_iff {waitTime : Int} (clock : Clock (sleepMs waitTime)) (positive : 0 < waitTime)
    (less : waitTime < 4294967296000) :
    Clear clock waitTime ↔ waitTime < 1000 ∨ waitTime ≤ clock.elapsed 1 := by
  constructor
  · intro clear
    by_cases short : waitTime < 1000
    · exact .inl short
    · have slept := clock.slept
      have whole : sleepMs waitTime = (waitTime / 1000).toNat := uint32_of_lt (by omega) (by omega)
      have passed : waitTime % 1000 ≤ clock.elapsed 1 := by
        rw [Clock.elapsed]
        omega
      exact .inr (clear 1 (Nat.le_refl 1) passed)
  · rintro (short | waited) j later passed
    · omega
    · exact Int.le_trans waited (clock.elapsed_mono later)

theorem usleep_wakes_iff {waitTime : Int} {fuel : Nat} {wake : Wake} (positive : 0 < waitTime)
    (returned : usleep clock.reading waitTime fuel = some wake) :
    ((∃ i < wake.reads, waitTime ≤ clock.elapsed i) ↔ waitTime % 1000 ≠ 0 ∧ Clear clock waitTime) ∧
      (waitTime ≤ clock.elapsed wake.moment ↔ Clear clock waitTime) := by
  rw [usleep, if_neg (Int.not_le.mpr positive)] at returned
  split_ifs at returned with rest
  · obtain ⟨m, later, rfl, passed, first⟩ := spin_first rest returned
    have at_return : waitTime ≤ clock.elapsed m ↔ Clear clock waitTime := by
      constructor
      · intro waited j some_later at_j
        exact Int.le_trans waited (clock.elapsed_mono (first j some_later at_j))
      · intro clear
        exact clear m later passed
    refine ⟨?_, at_return⟩
    rw [and_iff_right (by omega), ← at_return]
    constructor
    · rintro ⟨i, taken, waited⟩
      exact Int.le_trans waited (clock.elapsed_mono (Nat.le_of_lt_succ taken))
    · intro waited
      exact ⟨m, Nat.lt_succ_self m, waited⟩
  · cases returned
    have none : waitTime % 1000 = 0 := by omega
    constructor
    · constructor
      · rintro ⟨i, taken, waited⟩
        obtain rfl : i = 0 := Nat.lt_one_iff.mp taken
        rw [clock.elapsed_zero] at waited
        exact absurd waited (Int.not_le.mpr positive)
      · intro both
        exact absurd none both.1
    · constructor
      · intro waited j later _
        exact Int.le_trans waited (clock.elapsed_mono later)
      · intro clear
        have slept := clock.elapsed_mono (Nat.zero_le 1)
        rw [clock.elapsed_zero, ← none] at slept
        exact clear 1 (Nat.le_refl 1) slept

theorem usleep_returns {reading : Nat → Timeval} {waitTime : Int} {m : Nat} (later : 1 ≤ m)
    (waited : waitTime % 1000 ≤ tvdiffUs (reading m) (reading 0)) :
    (usleep reading waitTime m).isSome := by
  rw [usleep]
  split_ifs
  · rfl
  · exact spin_isSome waited m 1 later (by omega)
  · rfl

theorem usleep_waits_iff {waitTime : Int} (positive : 0 < waitTime) (clock : Clock (sleepMs waitTime))
    {fuel : Nat} {wake : Wake} (returned : usleep clock.reading waitTime fuel = some wake) :
    ((∃ i < wake.reads, waitTime ≤ clock.elapsed i) ↔ waitTime % 1000 ≠ 0 ∧ Clear clock waitTime) ∧
      (waitTime ≤ clock.elapsed wake.moment ↔ Clear clock waitTime) ∧
      (waitTime < 4294967296000 →
        (Clear clock waitTime ↔ waitTime < 1000 ∨ waitTime ≤ clock.elapsed 1)) := by
  obtain ⟨reads, moment⟩ := usleep_wakes_iff positive returned
  exact ⟨reads, moment, clear_iff clock positive⟩

end

def Clock.still (ms : Nat) (t : Int) (le : 1000 * (ms : Int) ≤ t) (less : t < 1000000) : Clock ms where
  reading j := if j = 0 then ⟨0, 0⟩ else ⟨0, t⟩
  sec j := by split <;> simp
  usec j := by
    split
    · decide
    · constructor <;> dsimp only <;> omega
  forward := by
    intro i j le
    split_ifs <;> simp only [time] <;> omega
  slept := by simpa [time] using le

theorem usleep_waits_long :
    ∃ i < 2, 1500 ≤ (Clock.still (sleepMs 1500) 1600 (by decide) (by decide)).elapsed i := by
  have returned : usleep (Clock.still (sleepMs 1500) 1600 (by decide) (by decide)).reading 1500 1 =
      some ⟨2, 1⟩ := by decide
  obtain ⟨reads, -, clear⟩ := usleep_waits_iff (by decide) _ returned
  have waited : 1500 ≤ (Clock.still (sleepMs 1500) 1600 (by decide) (by decide)).elapsed 1 := by decide
  exact reads.mpr ⟨by decide, (clear (by decide)).mpr (.inr waited)⟩

/-- A wait of 1500 microseconds ends after the 1000 of `Sleep`, which the loop takes for the 500. -/
theorem not_usleep_waits : ∃ clock : Clock (sleepMs 1500), usleep clock.reading 1500 1 = some ⟨2, 1⟩ ∧
    ∀ i < 2, clock.elapsed i < 1500 :=
  ⟨.still (sleepMs 1500) 1000 (by decide) (by decide), by decide, by decide⟩

end GamingAnywhere.Win32
