import GamingAnywhere.Lib.Socket

/-!
# Self-delimiting units in a stream

A framing recognises the first whole unit of what has arrived so far, and its answer does not change
when more arrives. `split` cuts a stream into its units; `pull` is the reader that every buffered
protocol has: take the first unit from what is pending, or read more. `pull_some` and `pull_none` say
that what it returns is a function of the stream alone, wherever the reads cut it.
-/

namespace Lib

structure Framing (α : Type*) where
  next : List α → Option (List α)
  next_prefix : ∀ {p u}, next p = some u → u <+: p
  next_ne_nil : ∀ {p u}, next p = some u → u ≠ []
  next_append : ∀ {p u} q, next p = some u → next (p ++ q) = some u

namespace Framing

variable {α : Type*} (F : Framing α)

def IsUnit (u : List α) : Prop := F.next u = some u

variable {F} {p q u : List α}

theorem next_nil : F.next [] = none := by
  cases h : F.next [] with
  | none => rfl
  | some u => exact absurd (List.prefix_nil.mp (F.next_prefix h)) (F.next_ne_nil h)

theorem next_of_isPrefix (h : F.next p = some u) (le : p <+: q) : F.next q = some u := by
  obtain ⟨r, rfl⟩ := le
  exact F.next_append r h

theorem length_next (h : F.next p = some u) : 0 < u.length ∧ u.length ≤ p.length :=
  ⟨List.length_pos_iff.mpr (F.next_ne_nil h), (F.next_prefix h).length_le⟩

theorem next_append_drop (h : F.next p = some u) : u ++ p.drop u.length = p := by
  obtain ⟨r, rfl⟩ := F.next_prefix h
  simp

theorem IsUnit.next_of_lt (unit : F.IsUnit u) (le : p <+: u) (lt : p.length < u.length) :
    F.next p = none := by
  cases found : F.next p with
  | none => rfl
  | some v =>
      have same : some v = some u := (next_of_isPrefix found le).symm.trans unit
      have bound := (length_next found).2
      rw [Option.some.inj same] at bound
      omega

/-! ## Cutting a stream into its units -/

variable (F) in
def split (p : List α) : List (List α) × List α :=
  match _found : F.next p with
  | none => ([], p)
  | some u =>
      let rest := split (p.drop u.length)
      (u :: rest.1, rest.2)
termination_by p.length
decreasing_by
  have := length_next _found
  rw [List.length_drop]
  omega

theorem split_of_none (h : F.next p = none) : F.split p = ([], p) := by
  rw [split]
  split
  · rfl
  · simp_all

theorem split_of_some (h : F.next p = some u) :
    F.split p = (u :: (F.split (p.drop u.length)).1, (F.split (p.drop u.length)).2) := by
  rw [split]
  split
  · simp_all
  · rename_i v found
    obtain rfl : v = u := by simpa [found] using h
    rfl

theorem split_cons (unit : F.IsUnit u) :
    F.split (u ++ p) = (u :: (F.split p).1, (F.split p).2) := by
  rw [split_of_some (F.next_append p unit), List.drop_left]

theorem split_flatten (p : List α) : (F.split p).1.flatten ++ (F.split p).2 = p := by
  induction p using split.induct F with
  | case1 p h => rw [split_of_none h]; rfl
  | case2 p u h ih =>
      rw [split_of_some h, List.flatten_cons, List.append_assoc, ih, next_append_drop h]

theorem split_rest (p : List α) : F.next (F.split p).2 = none := by
  induction p using split.induct F with
  | case1 p h => rwa [split_of_none h]
  | case2 p u h ih => rwa [split_of_some h]

theorem split_append (p q : List α) :
    F.split (p ++ q) =
      ((F.split p).1 ++ (F.split ((F.split p).2 ++ q)).1, (F.split ((F.split p).2 ++ q)).2) := by
  induction p using split.induct F with
  | case1 p h => rw [split_of_none h]; rfl
  | case2 p u h ih =>
      have bound := (length_next h).2
      rw [split_of_some (F.next_append q h), List.drop_append_of_le_length bound, ih, split_of_some h]
      rfl

theorem split_units {units : List (List α)} (valid : ∀ u ∈ units, F.IsUnit u) :
    F.split units.flatten = (units, []) := by
  induction units with
  | nil => exact split_of_none next_nil
  | cons u rest ih =>
      rw [List.flatten_cons, split_cons (valid u (by simp)), ih fun v member => valid v (by simp [member])]

theorem split_of_isPrefix {units : List (List α)} (valid : ∀ u ∈ units, F.IsUnit u)
    (joined : p ++ q = units.flatten) :
    ∃ left, units = (F.split p).1 ++ left ∧ (F.split p).2 ++ q = left.flatten := by
  induction units generalizing p with
  | nil =>
      obtain ⟨rfl, rfl⟩ := List.append_eq_nil_iff.mp joined
      exact ⟨[], by simp [split_of_none next_nil]⟩
  | cons u rest ih =>
      have unit := valid u (by simp)
      rcases Nat.lt_or_ge p.length u.length with short | long
      · have partial' : p <+: u := List.prefix_of_prefix_length_le ⟨q, joined⟩
          ⟨rest.flatten, rfl⟩ (Nat.le_of_lt short)
        rw [split_of_none (unit.next_of_lt partial' short)]
        exact ⟨u :: rest, rfl, joined⟩
      · have whole : u <+: p := List.prefix_of_prefix_length_le ⟨rest.flatten, rfl⟩
          ⟨q, joined⟩ long
        obtain ⟨p, rfl⟩ := whole
        rw [List.append_assoc, List.flatten_cons, List.append_cancel_left_eq] at joined
        obtain ⟨left, whole, tail⟩ := ih (fun v member => valid v (by simp [member])) joined
        rw [split_cons unit]
        exact ⟨left, by rw [List.cons_append, ← whole], tail⟩

/-! ## Units of one size -/

theorem split_take_uniform {units : List (List α)} {k : Nat} (positive : 0 < k)
    (valid : ∀ u ∈ units, F.IsUnit u) (size : ∀ u ∈ units, u.length = k) {n : Nat}
    (within : n ≤ units.flatten.length) :
    F.split (units.flatten.take n) = (units.take (n / k), (units.flatten.take n).drop (n / k * k)) := by
  induction units generalizing n with
  | nil =>
      obtain rfl : n = 0 := Nat.le_zero.mp within
      simp [split_of_none next_nil]
  | cons u rest ih =>
      have length : u.length = k := size u (by simp)
      have unit : F.IsUnit u := valid u (by simp)
      rcases Nat.lt_or_ge n k with short | long
      · have front : (u :: rest).flatten.take n = u.take n := by
          rw [List.flatten_cons, List.take_append_of_le_length (by omega)]
        have cut : (u.take n).length < u.length := by
          rw [List.length_take]
          omega
        rw [front, split_of_none (unit.next_of_lt (List.take_prefix n u) cut), Nat.div_eq_of_lt short,
          Nat.zero_mul]
        rfl
      · obtain ⟨m, rfl⟩ := Nat.exists_eq_add_of_le long
        have front : (u :: rest).flatten.take (k + m) = u ++ rest.flatten.take m := by
          rw [List.flatten_cons, ← length, List.take_length_add_append]
        have remaining : m ≤ rest.flatten.length := by
          rw [List.flatten_cons, List.length_append] at within
          omega
        have later := ih (fun v member => valid v (by simp [member]))
          (fun v member => size v (by simp [member])) remaining
        have count : (k + m) / k = m / k + 1 := Nat.add_div_left m positive
        have behind : (m / k + 1) * k = u.length + m / k * k := by
          rw [Nat.succ_mul, length, Nat.add_comm]
        rw [front, split_cons unit, later, count, behind, List.drop_length_add_append]
        rfl

theorem split_append_uniform {units : List (List α)} {k : Nat} (positive : 0 < k)
    (valid : ∀ u ∈ units, F.IsUnit u) (size : ∀ u ∈ units, u.length = k) {a n : Nat}
    (within : a + n ≤ units.flatten.length) :
    F.split ((units.flatten.take a).drop (a / k * k) ++ (units.flatten.drop a).take n) =
      ((units.take ((a + n) / k)).drop (a / k),
        (units.flatten.take (a + n)).drop ((a + n) / k * k)) := by
  have before : F.split (units.flatten.take a) = _ :=
    split_take_uniform positive valid size (Nat.le_of_add_right_le within)
  have after : F.split (units.flatten.take (a + n)) = _ := split_take_uniform positive valid size within
  have joined := split_append (F := F) (units.flatten.take a) ((units.flatten.drop a).take n)
  rw [← List.take_add, after, before] at joined
  obtain ⟨counted, left⟩ := Prod.mk.inj joined
  have taken : (units.take (a / k)).length = a / k := by
    have le : a / k ≤ units.length := by
      have total : units.flatten.length = units.length * k := by
        rw [List.length_flatten, List.map_congr_left (g := fun _ => k) size, List.map_const',
          List.sum_replicate_nat]
      rw [total] at within
      exact Nat.div_le_of_le_mul (by rw [Nat.mul_comm]; omega)
    rw [List.length_take, Nat.min_eq_left le]
  refine Prod.ext ?_ left.symm
  rw [counted, List.drop_left' taken]

/-! ## Reading unit by unit -/

variable (F) in
/-- Take the first unit of the pending elements, reading more while there is none. It gives up when
`size` pending elements hold no unit, and at the end of the stream. -/
def pull (size : Nat) (p : List α) (s : Socket α) : Option (List α × List α) × Socket α :=
  match F.next p with
  | some u => (some (u, p.drop u.length), s)
  | none =>
      if p.length = size then (none, s)
      else if _ended : (s.read (size - p.length)).1 = [] then (none, (s.read (size - p.length)).2)
      else pull size (p ++ (s.read (size - p.length)).1) (s.read (size - p.length)).2
termination_by s.unread.length
decreasing_by exact s.length_unread_read _ended

theorem pull_of_some {size : Nat} {s : Socket α} (h : F.next p = some u) :
    F.pull size p s = (some (u, p.drop u.length), s) := by
  rw [pull, h]

theorem pull_of_none {size : Nat} {s : Socket α} (h : F.next p = none) :
    F.pull size p s =
      if p.length = size then (none, s)
      else if (s.read (size - p.length)).1 = [] then (none, (s.read (size - p.length)).2)
      else F.pull size (p ++ (s.read (size - p.length)).1) (s.read (size - p.length)).2 := by
  rw [pull, h]
  rfl

theorem length_append_read {size : Nat} (le : p.length ≤ size) (s : Socket α) :
    (p ++ (s.read (size - p.length)).1).length ≤ size := by
  have := s.length_read_le (size - p.length)
  rw [List.length_append]
  omega

theorem pull_none {size : Nat} {s : Socket α} (le : p.length ≤ size)
    (h : F.next ((p ++ s.unread).take size) = none) : (F.pull size p s).1 = none := by
  induction p, s using pull.induct F size with
  | case1 p s u found =>
      have pending : p <+: (p ++ s.unread).take size :=
        List.prefix_take_iff.mpr ⟨List.prefix_append _ _, le⟩
      rw [next_of_isPrefix found pending] at h
      cases h
  | case2 s p found full => rw [pull_of_none found, if_pos full]
  | case3 p s found room ended => rw [pull_of_none found, if_neg room, if_pos ended]
  | case4 p s found room progress ih =>
      rw [pull_of_none found, if_neg room, if_neg progress]
      apply ih (length_append_read le s)
      rwa [List.append_assoc, s.read_append]

theorem pull_some {size : Nat} {s : Socket α} (le : p.length ≤ size)
    (h : F.next ((p ++ s.unread).take size) = some u) :
    ∃ rest s', F.pull size p s = (some (u, rest), s') ∧ rest.length ≤ size ∧
      u ++ (rest ++ s'.unread) = p ++ s.unread := by
  induction p, s using pull.induct F size with
  | case1 p s v found =>
      have pending : p <+: (p ++ s.unread).take size :=
        List.prefix_take_iff.mpr ⟨List.prefix_append _ _, le⟩
      obtain rfl : v = u := by simpa [next_of_isPrefix found pending] using h
      refine ⟨_, _, pull_of_some found, ?_, ?_⟩
      · rw [List.length_drop]
        omega
      · rw [← List.append_assoc, next_append_drop found]
  | case2 s p found full =>
      rw [← full, List.take_left, found] at h
      cases h
  | case3 p s found room ended =>
      rw [s.read_eq_nil (by omega) ended, List.append_nil, List.take_of_length_le le, found] at h
      cases h
  | case4 p s found room progress ih =>
      obtain ⟨rest, s', result, bound, kept⟩ := ih (length_append_read le s)
        (by rwa [List.append_assoc, s.read_append])
      refine ⟨rest, s', ?_, bound, ?_⟩
      · rw [pull_of_none found, if_neg room, if_neg progress, result]
      · rw [kept, List.append_assoc, s.read_append]

theorem pull_unit {size : Nat} {s : Socket α} {rest : List α} (le : p.length ≤ size)
    (h : (F.pull size p s).1 = some (u, rest)) : F.next ((p ++ s.unread).take size) = some u := by
  cases found : F.next ((p ++ s.unread).take size) with
  | none => simp [pull_none le found] at h
  | some v =>
      obtain ⟨_, _, result, -⟩ := pull_some le found
      rw [result] at h
      cases h
      rfl

theorem IsUnit.length_lt (unit : F.IsUnit u) (arrives : u <+: p ++ q) (absent : F.next p = none) :
    p.length < u.length := by
  by_contra long
  have within := List.prefix_of_prefix_length_le arrives (List.prefix_append _ _) (Nat.not_lt.mp long)
  rw [next_of_isPrefix unit within] at absent
  cases absent

theorem pull_rest {size n : Nat} {s : Socket α} (unit : F.IsUnit u) (fits : u.length ≤ size)
    (arrives : u <+: p ++ s.unread) (here : p = (p ++ s.unread).take n) (bound : n ≤ size) :
    ∃ s', F.pull size p s = (some (u, ((p ++ s.unread).take
      (Socket.gathered size u.length n s.cuts)).drop u.length), s') := by
  have whole := arrives.length_le
  induction p, s using pull.induct F size generalizing n with
  | case1 p s v found =>
      have same : some v = some u := (F.next_append _ found).symm.trans (next_of_isPrefix unit arrives)
      obtain rfl := Option.some.inj same
      have inside := (length_next found).2
      have length := congrArg List.length here
      rw [List.length_take] at length
      rw [pull_of_some found, Socket.gathered_of_le (by omega), ← here]
      exact ⟨s, rfl⟩
  | case2 s p found full =>
      have := unit.length_lt arrives found
      omega
  | case3 p s found room ended =>
      have := unit.length_lt arrives found
      rw [s.read_eq_nil (by omega) ended, List.append_nil] at whole
      omega
  | case4 p s found room progress ih =>
      have before := unit.length_lt arrives found
      have length := congrArg List.length here
      rw [List.length_take] at length
      have again : p ++ (s.read (size - p.length)).1 ++ (s.read (size - p.length)).2.unread =
          p ++ s.unread := by rw [List.append_assoc, s.read_append]
      have gained : p ++ (s.read (size - p.length)).1 =
          (p ++ s.unread).take (min (n + max 1 (s.cuts.headD 1)) size) := by
        have split : min (n + max 1 (s.cuts.headD 1)) size =
            p.length + min (max 1 (s.cuts.headD 1)) (size - p.length) := by omega
        rw [split, List.take_length_add_append]
        rfl
      rw [again] at ih
      rw [pull_of_none found, if_neg room, if_neg progress,
        ← Socket.gathered_read (by omega) fits s (size - p.length)]
      exact ih arrives gained (Nat.min_le_right _ _) whole

theorem pull_roomy {size : Nat} {s : Socket α} (le : p.length ≤ size) (roomy : s.Roomy) :
    (F.pull size p s).2.Roomy := by
  induction p, s using pull.induct F size with
  | case1 p s u found => rwa [pull_of_some found]
  | case2 s p found full => rwa [pull_of_none found, if_pos full]
  | case3 p s found room ended =>
      rw [pull_of_none found, if_neg room, if_pos ended]
      exact roomy.read (by omega)
  | case4 p s found room progress ih =>
      rw [pull_of_none found, if_neg room, if_neg progress]
      exact ih (length_append_read le s) (roomy.read (by omega))

end Framing
end Lib
