import Mathlib.Data.List.Basic
import Mathlib.Logic.Function.Basic
import Mathlib.Tactic.Common

/-!
# Flat memory

A buffer as the cells at its offsets, with the block operations a C program uses on it: reading a
block, storing a block, and `bcopy` between two offsets. Offsets past the end of a buffer are the
cells that happen to follow it, so a read there is a value and not an error.
-/

namespace Lib

abbrev Mem (α : Type*) := Nat → α

namespace Mem

variable {α : Type*} (m : Mem α)

def slice (m : Mem α) (start : Nat) : Nat → List α
  | 0 => []
  | n + 1 => m start :: slice m (start + 1) n

def store (m : Mem α) (start : Nat) (xs : List α) : Mem α := fun i =>
  if start ≤ i then xs[i - start]?.getD (m i) else m i

def bcopy (m : Mem α) (src dst n : Nat) : Mem α := m.store dst (m.slice src n)

@[simp] theorem slice_zero (start : Nat) : m.slice start 0 = [] := rfl

theorem slice_succ (start n : Nat) : m.slice start (n + 1) = m start :: m.slice (start + 1) n := rfl

@[simp] theorem length_slice (start n : Nat) : (m.slice start n).length = n := by
  induction n generalizing start with
  | zero => rfl
  | succ n ih => simp [slice_succ, ih]

theorem slice_add (start a b : Nat) :
    m.slice start (a + b) = m.slice start a ++ m.slice (start + a) b := by
  induction a generalizing start with
  | zero => simp
  | succ a ih =>
      have shift : start + 1 + a = start + (a + 1) := by omega
      rw [Nat.succ_add, slice_succ, ih, slice_succ, List.cons_append, shift]

theorem getElem?_slice (start n i : Nat) :
    (m.slice start n)[i]? = if i < n then some (m (start + i)) else none := by
  induction n generalizing start i with
  | zero => simp
  | succ n ih =>
      cases i with
      | zero => simp [slice_succ]
      | succ i =>
          have shift : start + 1 + i = start + (i + 1) := by omega
          simp [slice_succ, ih, shift]

theorem take_slice (start n k : Nat) (le : k ≤ n) : (m.slice start n).take k = m.slice start k := by
  obtain ⟨d, rfl⟩ := Nat.exists_eq_add_of_le le
  rw [slice_add, List.take_left' (length_slice m start k)]

theorem drop_slice (start n k : Nat) (le : k ≤ n) :
    (m.slice start n).drop k = m.slice (start + k) (n - k) := by
  obtain ⟨d, rfl⟩ := Nat.exists_eq_add_of_le le
  rw [slice_add, List.drop_left' (length_slice m start k), Nat.add_sub_cancel_left]

theorem slice_congr {m m' : Mem α} {start n : Nat}
    (same : ∀ i, start ≤ i → i < start + n → m i = m' i) : m.slice start n = m'.slice start n := by
  apply List.ext_getElem?
  intro i
  rw [getElem?_slice, getElem?_slice]
  split
  · rw [same (start + i) (by omega) (by omega)]
  · rfl

theorem slice_eq_slice {m m' : Mem α} {a b n : Nat} :
    m.slice a n = m'.slice b n ↔ ∀ i < n, m (a + i) = m' (b + i) := by
  constructor
  · intro same i lt
    have cell := congrArg (·[i]?) same
    simpa only [getElem?_slice, if_pos lt, Option.some.injEq] using cell
  · intro same
    apply List.ext_getElem?
    intro i
    rw [getElem?_slice, getElem?_slice]
    split
    · rename_i lt
      rw [same i lt]
    · rfl

theorem find?_range' [DecidableEq α] (x : α) (start n : Nat) :
    (List.range' start n).find? (fun i => m i = x) =
      if x ∈ m.slice start n then some (start + (m.slice start n).idxOf x) else none := by
  induction n generalizing start with
  | zero => rfl
  | succ n ih =>
      rw [List.range'_succ, List.find?_cons, slice_succ]
      by_cases found : m start = x
      · simp [found]
      · have shift (k : Nat) : start + 1 + k = start + (k + 1) := by omega
        simp [found, ih, Ne.symm found, List.idxOf_cons_ne _ found, shift]

theorem store_of_outside {start i : Nat} {xs : List α}
    (outside : i < start ∨ start + xs.length ≤ i) : m.store start xs i = m i := by
  unfold store
  split
  · rw [List.getElem?_eq_none (by omega), Option.getD_none]
  · rfl

theorem store_nil (start : Nat) : m.store start [] = m :=
  funext fun _ => store_of_outside m (by simp only [List.length_nil]; omega)

theorem store_cons (start : Nat) (x : α) (xs : List α) :
    m.store start (x :: xs) = Mem.store (Function.update m start x) (start + 1) xs := by
  funext i
  obtain below | rfl | above := Nat.lt_trichotomy i start
  · rw [store_of_outside m (Or.inl below), store_of_outside _ (Or.inl (Nat.lt_succ_of_lt below)),
      Function.update_of_ne (Nat.ne_of_lt below)]
  · rw [store_of_outside _ (Or.inl (Nat.lt_succ_self i)), Function.update_self]
    simp [store]
  · obtain ⟨k, rfl⟩ := Nat.exists_eq_add_of_lt above
    have shift : start + k + 1 - start = k + 1 := by omega
    have shift' : start + k + 1 - (start + 1) = k := by omega
    have other : start + k + 1 ≠ start := by omega
    simp only [store, shift, shift', List.getElem?_cons_succ, Function.update_of_ne other]
    rw [if_pos (by omega), if_pos (by omega)]

theorem store_inside {start i : Nat} {xs : List α} (lt : i < xs.length) :
    m.store start xs (start + i) = xs[i] := by
  simp [store, lt]

theorem slice_store_self (start : Nat) (xs : List α) :
    (m.store start xs).slice start xs.length = xs := by
  apply List.ext_getElem?
  intro i
  rw [getElem?_slice]
  split
  · rename_i lt
    rw [store_inside m lt, List.getElem?_eq_getElem lt]
  · rw [List.getElem?_eq_none (by omega)]

theorem slice_store_of_disjoint {start n at' : Nat} {xs : List α}
    (disjoint : start + n ≤ at' ∨ at' + xs.length ≤ start) :
    (m.store at' xs).slice start n = m.slice start n :=
  slice_congr fun _ _ _ => store_of_outside m (by omega)

theorem slice_store_append (start n : Nat) (xs : List α) :
    (m.store (start + n) xs).slice start (n + xs.length) = m.slice start n ++ xs := by
  rw [slice_add, slice_store_self, slice_store_of_disjoint m (Or.inl (Nat.le_refl _))]

theorem slice_bcopy (src dst n : Nat) : (m.bcopy src dst n).slice dst n = m.slice src n := by
  have h := slice_store_self m dst (m.slice src n)
  rwa [length_slice] at h

theorem bcopy_of_outside {src dst n i : Nat} (outside : i < dst ∨ dst + n ≤ i) :
    m.bcopy src dst n i = m i :=
  store_of_outside m (by rwa [length_slice])

/-- What `f` does to the memory `m` happens inside a block, and depends on the block only. -/
structure LocalAt {β : Type*} (f : Mem α → Mem α × β) (start n : Nat) (m : Mem α) : Prop where
  frame : ∀ i, i < start ∨ start + n ≤ i → (f m).1 i = m i
  reads : ∀ m', m'.slice start n = m.slice start n →
    (f m').2 = (f m).2 ∧ (f m').1.slice start n = (f m).1.slice start n

end Mem
end Lib
