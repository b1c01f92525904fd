import Mathlib.Data.List.Basic
import Mathlib.Logic.Function.Basic
import Mathlib.Tactic.Common

namespace Lib

variable {α : Type*}

def Chain (next : α → Option α) : Option α → List α → Prop
  | head, [] => head = none
  | head, a :: l => head = some a ∧ Chain next (next a) l

def follow (next : α → Option α) : Nat → Option α → Option (List α)
  | _, none => some []
  | 0, some _ => none
  | n + 1, some a => (follow next n (next a)).map (a :: ·)

namespace Chain

variable {next : α → Option α} {head : Option α} {a b : α} {l : List α}

theorem head_eq (chain : Chain next head l) : head = l.head? := by
  cases l with
  | nil => exact chain
  | cons a l => exact chain.1

theorem follow_eq (chain : Chain next head l) {n : Nat} (long : l.length ≤ n) :
    follow next n head = some l := by
  induction l generalizing head n with
  | nil =>
      obtain rfl : head = none := chain
      rw [follow]
  | cons a l ih =>
      obtain ⟨rfl, rest⟩ := chain
      cases n with
      | zero => exact absurd long (Nat.not_succ_le_zero _)
      | succ n => rw [follow, ih rest (Nat.le_of_succ_le_succ long), Option.map_some]

variable [DecidableEq α]

theorem update (chain : Chain next head l) (outside : a ∉ l) (link : Option α) :
    Chain (Function.update next a link) head l := by
  induction l generalizing head with
  | nil => exact chain
  | cons b l ih =>
      obtain ⟨first, rest⟩ := chain
      rw [List.mem_cons, not_or] at outside
      refine ⟨first, ?_⟩
      rw [Function.update_of_ne (Ne.symm outside.1)]
      exact ih rest outside.2

theorem push (chain : Chain next head l) (outside : a ∉ l) :
    Chain (Function.update next a head) (some a) (a :: l) := by
  refine ⟨rfl, ?_⟩
  rw [Function.update_self]
  exact chain.update outside head

theorem append (chain : Chain next head (l ++ [b])) (distinct : (l ++ [b]).Nodup)
    (outside : a ∉ l ++ [b]) (last : next a = none) :
    Chain (Function.update next b (some a)) head (l ++ [b] ++ [a]) := by
  induction l generalizing head with
  | nil =>
      have other : a ≠ b := by simpa using outside
      refine ⟨chain.1, ?_⟩
      rw [Function.update_self]
      refine ⟨rfl, ?_⟩
      rw [Function.update_of_ne other]
      exact last
  | cons c l ih =>
      obtain ⟨first, rest⟩ := chain
      simp only [List.cons_append, List.nodup_cons] at distinct
      simp only [List.cons_append, List.mem_cons, not_or] at outside
      have other : c ≠ b := by
        rintro rfl
        exact distinct.1 (by simp)
      refine ⟨first, ?_⟩
      rw [Function.update_of_ne other]
      exact ih rest distinct.2 outside.2

end Chain
end Lib
