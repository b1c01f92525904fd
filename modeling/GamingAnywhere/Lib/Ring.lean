import Mathlib.Data.Nat.ModEq
import Mathlib.Tactic.Common

namespace Lib.Ring

def slot (n h i : Nat) : Nat := (h + i) % n

variable {n h i j : Nat}

theorem slot_lt (positive : 0 < n) : slot n h i < n := Nat.mod_lt _ positive

theorem slot_zero (inside : h < n) : slot n h 0 = h := Nat.mod_eq_of_lt inside

theorem slot_one_slot : slot n (slot n h 1) i = slot n h (i + 1) := by
  simp only [slot, Nat.mod_add_mod]
  congr 1
  omega

theorem slot_succ : slot n (slot n h i) 1 = slot n h (i + 1) := by
  simp only [slot, Nat.mod_add_mod]
  rfl

theorem slot_inj (first : i < n) (second : j < n) : slot n h i = slot n h j ↔ i = j := by
  constructor
  · intro same
    have cancelled : i % n = j % n := Nat.ModEq.add_left_cancel' h same
    rwa [Nat.mod_eq_of_lt first, Nat.mod_eq_of_lt second] at cancelled
  · rintro rfl
    rfl

theorem slot_eq_self (inside : h < n) (lt : i < n) : slot n h i = h ↔ i = 0 := by
  have positive : 0 < n := by omega
  rw [← slot_inj (h := h) lt positive, slot_zero inside]

theorem slot_succ_eq_self (inside : h < n) (lt : i < n) : slot n h (i + 1) = h ↔ i + 1 = n := by
  rcases Nat.lt_or_eq_of_le (Nat.succ_le_of_lt lt) with before | last
  · rw [slot_eq_self inside before]
    omega
  · have round : i + 1 = n := last
    rw [round, slot, Nat.add_mod_right, Nat.mod_eq_of_lt inside]
    simp

end Lib.Ring
