import Mathlib.Data.Nat.Find
import Mathlib.Tactic.Common

namespace Lib.Draining

variable (taken : Nat → Int) (size : Int)

def Ends : Nat → Nat → Int → Prop
  | 0, _, size => size ≤ 0
  | fuel + 1, n, size => size ≤ 0 ∨ taken n < 0 ∨ Ends fuel (n + 1) (size - taken n)

def left : Nat → Int
  | 0 => size
  | k + 1 => left k - taken k

def Reached (k : Nat) : Prop := ∀ i < k, 0 ≤ taken i

def Progress : Prop := ∀ k, Reached taken k → 0 < left taken size k → ∃ n ≥ k, taken n ≠ 0

def Within : Prop := ∀ k, Reached taken k → 0 < left taken size k → taken k ≤ left taken size k

variable {taken size}

theorem Ends.exists_ne {fuel n : Nat} (ends : Ends taken fuel n size) (some_left : 0 < size) :
    ∃ m ≥ n, taken m ≠ 0 := by
  induction fuel generalizing n with
  | zero => exact absurd some_left (Int.not_lt.mpr ends)
  | succ fuel ih =>
      by_cases idle : taken n = 0
      · obtain none_left | failed | ends := ends
        · exact absurd some_left (Int.not_lt.mpr none_left)
        · omega
        · rw [idle, Int.sub_zero] at ends
          obtain ⟨m, later, moves⟩ := ih ends
          exact ⟨m, Nat.le_of_succ_le later, moves⟩
      · exact ⟨n, Nat.le_refl n, idle⟩

theorem Ends.of_reached {fuel : Nat} (ends : Ends taken fuel 0 size) {k : Nat} (reached : Reached taken k) :
    ∃ fuel, Ends taken fuel k (left taken size k) := by
  induction k with
  | zero => exact ⟨fuel, ends⟩
  | succ k ih =>
      have here := reached k (Nat.lt_succ_self k)
      obtain ⟨fuel, ends⟩ := ih fun i lt => reached i (Nat.lt_succ_of_lt lt)
      have spent (none_left : left taken size k ≤ 0) : Ends taken 0 (k + 1) (left taken size (k + 1)) := by
        change left taken size k - taken k ≤ 0
        omega
      cases fuel with
      | zero => exact ⟨0, spent ends⟩
      | succ fuel =>
          obtain none_left | failed | ends := ends
          · exact ⟨0, spent none_left⟩
          · omega
          · exact ⟨fuel, ends⟩

theorem idle_left (size : Int) {k d : Nat} (idle : ∀ i, k ≤ i → i < k + d → taken i = 0) :
    left taken size (k + d) = left taken size k := by
  induction d with
  | zero => rfl
  | succ d ih =>
      have before := ih fun i ge lt => idle i ge (Nat.lt_succ_of_lt lt)
      have here := idle (k + d) (Nat.le_add_right k d) (Nat.lt_succ_self _)
      rw [← Nat.add_assoc, left, before, here, Int.sub_zero]

theorem Ends.of_idle {fuel k d : Nat} (idle : ∀ i, k ≤ i → i < k + d → taken i = 0)
    (ends : Ends taken fuel (k + d) size) : Ends taken (fuel + d) k size := by
  induction d generalizing k with
  | zero => exact ends
  | succ d ih =>
      have here := idle k (Nat.le_refl k) (by omega)
      have later : Ends taken (fuel + d) (k + 1) size := by
        apply ih fun i ge lt => idle i (by omega) (by omega)
        rwa [Nat.add_assoc, Nat.add_comm 1 d]
      rw [← Nat.add_assoc]
      exact Or.inr (Or.inr (by rwa [here, Int.sub_zero]))

theorem Progress.ends (progress : Progress taken size) {m : Nat} :
    ∀ k, Reached taken k → (left taken size k).toNat = m → ∃ fuel, Ends taken fuel k (left taken size k) := by
  induction m using Nat.strongRecOn with
  | ind m ih =>
      intro k reached measure
      rcases Int.lt_or_le 0 (left taken size k) with some_left | none_left
      · obtain ⟨n, ⟨later, moves⟩, least⟩ : ∃ n, (n ≥ k ∧ taken n ≠ 0) ∧ ∀ i < n, ¬ (i ≥ k ∧ taken i ≠ 0) :=
          ⟨_, Nat.find_spec (progress k reached some_left), fun _ => Nat.find_min _⟩
        obtain ⟨d, rfl⟩ := Nat.exists_eq_add_of_le later
        have idle : ∀ i, k ≤ i → i < k + d → taken i = 0 :=
          fun i ge lt => by_contra fun moves => least i lt ⟨ge, moves⟩
        have same := idle_left size idle
        obtain ⟨fuel, ends⟩ : ∃ fuel, Ends taken fuel (k + d) (left taken size k) := by
          rcases Int.lt_or_le (taken (k + d)) 0 with failed | taking
          · exact ⟨1, Or.inr (Or.inl failed)⟩
          · have further : Reached taken (k + d + 1) := by
              intro i lt
              rcases Nat.lt_or_ge i k with before | behind
              · exact reached i before
              · rcases Nat.lt_succ_iff_lt_or_eq.mp lt with idling | rfl
                · exact Int.le_of_eq (idle i behind idling).symm
                · exact taking
            have next : left taken size (k + d + 1) = left taken size k - taken (k + d) := by
              rw [left, same]
            obtain ⟨fuel, ends⟩ := ih (left taken size (k + d + 1)).toNat (by omega) _ further rfl
            rw [next] at ends
            exact ⟨fuel + 1, Or.inr (Or.inr ends)⟩
        exact ⟨fuel + d, ends.of_idle idle⟩
      · exact ⟨0, none_left⟩

theorem ends_iff : (∃ fuel, Ends taken fuel 0 size) ↔ Progress taken size := by
  constructor
  · rintro ⟨fuel, ends⟩ k reached some_left
    obtain ⟨fuel, ends⟩ := ends.of_reached reached
    exact ends.exists_ne some_left
  · intro progress
    exact progress.ends 0 (fun _ lt => absurd lt (Nat.not_lt_zero _)) rfl

end Lib.Draining
