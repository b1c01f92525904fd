import Mathlib.Data.List.Basic
import Mathlib.Tactic.Common

/-!
# The receiving end of a byte stream

A stream socket keeps the order of the bytes and nothing else: a read returns at least one byte and
at most as many as the program offers room for, and where the cut falls is not the program's choice.
-/

namespace Lib

/-- `unread` is what the peer has sent and the program has not read, `cuts` the sizes that the coming
reads would return if they had the room and the bytes, and `offered` the sizes that the program has
offered so far, the last one first. -/
structure Socket (α : Type*) where
  unread : List α
  cuts : List Nat
  offered : List Nat

namespace Socket

variable {α : Type*} (s : Socket α)

def read (s : Socket α) (size : Nat) : List α × Socket α :=
  let n := min (max 1 (s.cuts.headD 1)) size
  (s.unread.take n, ⟨s.unread.drop n, s.cuts.tail, size :: s.offered⟩)

theorem read_append (size : Nat) : (s.read size).1 ++ (s.read size).2.unread = s.unread :=
  List.take_append_drop _ _

theorem length_read_le (size : Nat) : (s.read size).1.length ≤ size := by
  simp only [read, List.length_take]
  omega

theorem read_eq_nil {size : Nat} (room : 0 < size) (h : (s.read size).1 = []) : s.unread = [] := by
  simp only [read, List.take_eq_nil_iff] at h
  rcases h with h | h
  · omega
  · exact h

theorem length_unread_read {size : Nat} (h : (s.read size).1 ≠ []) :
    (s.read size).2.unread.length < s.unread.length := by
  have joined := congrArg List.length (s.read_append size)
  have positive := List.length_pos_iff.mpr h
  rw [List.length_append] at joined
  omega

/-- The cuts leave no split out: whatever non-empty block fits the room can be what a read returns. -/
theorem read_any_split (block rest : List α) (cuts offered : List Nat) (size : Nat)
    (nonempty : block ≠ []) (fits : block.length ≤ size) :
    (⟨block ++ rest, block.length :: cuts, offered⟩ : Socket α).read size =
      (block, ⟨rest, cuts, size :: offered⟩) := by
  have positive := List.length_pos_iff.mpr nonempty
  have cut : min (max 1 block.length) size = block.length := by omega
  simp [read, cut]

/-- How many elements have been read once the first `e` have been, when `n` have been at first and a
buffer of `size` is filled: the end of the read that brings the last of them. -/
def gathered (size e : Nat) : Nat → List Nat → Nat
  | n, [] => max n e
  | n, cut :: cuts => if e ≤ n then n else gathered size e (min (n + max 1 cut) size) cuts

theorem gathered_of_le {size e n : Nat} (le : e ≤ n) (cuts : List Nat) : gathered size e n cuts = n := by
  cases cuts with
  | nil => exact Nat.max_eq_left le
  | cons cut cuts => exact if_pos le

theorem gathered_read {size e n : Nat} (more : n < e) (fits : e ≤ size) (s : Socket α) (room : Nat) :
    gathered size e (min (n + max 1 (s.cuts.headD 1)) size) (s.read room).2.cuts =
      gathered size e n s.cuts := by
  obtain ⟨unread, cuts, offered⟩ := s
  cases cuts with
  | nil =>
      change max (min (n + max 1 1) size) e = max n e
      omega
  | cons cut cuts => exact (if_neg (Nat.not_le.mpr more)).symm

def Roomy (s : Socket α) : Prop := ∀ size ∈ s.offered, 0 < size

theorem Roomy.read {s : Socket α} (roomy : s.Roomy) {size : Nat} (room : 0 < size) :
    (s.read size).2.Roomy := by
  intro n member
  rcases List.mem_cons.mp member with rfl | member
  · exact room
  · exact roomy n member

end Socket
end Lib
