import Mathlib.Data.Int.Basic
import Mathlib.Tactic.Linarith
import Mathlib.Tactic.Ring

namespace Lib.Raster

variable {α : Type*}

def copy (src : Int → α) (s : Int) (n : Nat) (dst : Int → α) (d : Int) : Int → α :=
  fun i => if d ≤ i ∧ i < d + n then src (s + (i - d)) else dst i

def copyRows (src : Int → α) (n : Nat) (pitch step : Int) : Nat → Int → Int → (Int → α) → Int → α
  | 0, _, _, dst => dst
  | rows + 1, s, d, dst => copyRows src n pitch step rows (s + pitch) (d + step) (copy src s n dst d)

def rowsRead (n : Nat) (pitch : Int) : Nat → Int → List (Int × Nat)
  | 0, _ => []
  | rows + 1, s => (s, n) :: rowsRead n pitch rows (s + pitch)

variable {src dst : Int → α} {n rows : Nat} {s d pitch step i : Int}

theorem copy_inside (low : d ≤ i) (high : i < d + n) : copy src s n dst d i = src (s + (i - d)) := by
  rw [copy, if_pos ⟨low, high⟩]

theorem copy_outside (outside : i < d ∨ d + n ≤ i) : copy src s n dst d i = dst i := by
  rw [copy, if_neg (by omega)]

theorem copy_copy {m : Nat} :
    copy src (s + n) m (copy src s n dst d) (d + n) = copy src s (n + m) dst d := by
  funext i
  by_cases low : d ≤ i
  · by_cases first : i < d + n
    · rw [copy_outside (Or.inl first), copy_inside low first, copy_inside low (by omega)]
    · by_cases second : i < d + (n + m : Nat)
      · rw [copy_inside (Int.not_lt.mp first) (by omega), copy_inside low second]
        congr 1
        omega
      · rw [copy_outside (by omega), copy_outside (by omega), copy_outside (by omega)]
  · rw [copy_outside (by omega), copy_outside (by omega), copy_outside (by omega)]

theorem copyRows_contiguous : copyRows src n n n rows s d dst = copy src s (rows * n) dst d := by
  induction rows generalizing s d dst with
  | zero =>
      funext i
      rw [copyRows, copy_outside (by omega)]
  | succ rows ih => rw [copyRows, ih, copy_copy, Nat.succ_mul, Nat.add_comm]

theorem copyRows_outside (le : (n : Int) ≤ step) (outside : i < d ∨ d + rows * step ≤ i) :
    copyRows src n pitch step rows s d dst i = dst i := by
  induction rows generalizing s d dst with
  | zero => rfl
  | succ rows ih =>
      have positive : 0 ≤ rows * step := by nlinarith
      have total : ((rows + 1 : Nat) : Int) * step = step + rows * step := by
        push_cast
        ring
      rw [total] at outside
      rw [copyRows, ih (by omega), copy_outside (by omega)]

theorem copyRows_inside {r j : Nat} (le : (n : Int) ≤ step) (row : r < rows) (cell : j < n) :
    copyRows src n pitch step rows s d dst (d + r * step + j) = src (s + r * pitch + j) := by
  induction r generalizing s d dst rows with
  | zero =>
      obtain ⟨rows, rfl⟩ := Nat.exists_eq_succ_of_ne_zero (Nat.ne_of_gt row)
      have before : d + ((0 : Nat) : Int) * step + j < d + step := by omega
      rw [copyRows, copyRows_outside le (Or.inl before), copy_inside (by omega) (by omega)]
      congr 1
      push_cast
      ring
  | succ r ih =>
      obtain ⟨rows, rfl⟩ := Nat.exists_eq_succ_of_ne_zero (Nat.ne_of_gt (Nat.zero_lt_of_lt row))
      have shifted : d + ((r + 1 : Nat) : Int) * step + j = d + step + r * step + j := by
        push_cast
        ring
      rw [copyRows, shifted, ih (Nat.lt_of_succ_lt_succ row)]
      congr 1
      push_cast
      ring

theorem copy_eq_copyRows_iff {a b : α} (ne : a ≠ b) {m : Nat} (cells : 0 < n) (lines : 0 < rows) :
    (∀ src dst : Int → α, copy src 0 m dst 0 = copyRows src n pitch n rows 0 0 dst) ↔
      m = rows * n ∧ (rows ≠ 1 → pitch = n) := by
  constructor
  · intro same
    have total : m = rows * n := by
      have block := same (fun _ => a) fun _ => b
      apply Nat.le_antisymm
      · by_contra longer
        have behind := congrFun block (rows * n : Nat)
        rw [copy_inside (by omega) (by omega), copyRows_outside (Int.le_refl _) (by push_cast; omega)] at behind
        exact ne behind
      · by_contra shorter
        obtain ⟨last, rfl⟩ := Nat.exists_eq_succ_of_ne_zero (Nat.ne_of_gt lines)
        have missing := congrFun block (0 + last * n + (n - 1 : Nat))
        rw [Nat.succ_mul] at shorter
        rw [copyRows_inside (Int.le_refl _) (Nat.lt_succ_self last) (by omega),
          copy_outside (Or.inr (by omega))] at missing
        exact ne missing.symm
    refine ⟨total, fun several => ?_⟩
    by_contra apart
    have second := congrFun (same (fun i => if i = pitch then a else b) fun _ => b) (0 + (1 : Nat) * n + (0 : Nat))
    have two : n < m := by
      rw [total]
      nlinarith [Nat.lt_of_le_of_ne lines (Ne.symm several)]
    rw [copyRows_inside (Int.le_refl _) (by omega) cells, copy_inside (by omega) (by omega),
      if_neg (by push_cast; omega), if_pos (by push_cast; ring)] at second
    exact ne second.symm
  · rintro ⟨rfl, follows⟩ src dst
    by_cases single : rows = 1
    · rw [single, copyRows, copyRows, Nat.one_mul]
    · rw [follows single, copyRows_contiguous]

theorem mem_rowsRead {e : Int × Nat} (member : e ∈ rowsRead n pitch rows s) :
    ∃ r < rows, e = (s + r * pitch, n) := by
  induction rows generalizing s with
  | zero => cases member
  | succ rows ih =>
      rcases List.mem_cons.mp member with rfl | later
      · refine ⟨0, Nat.succ_pos rows, ?_⟩
        simp
      · obtain ⟨r, lt, rfl⟩ := ih later
        refine ⟨r + 1, Nat.succ_lt_succ lt, ?_⟩
        congr 1
        push_cast
        ring

end Lib.Raster
