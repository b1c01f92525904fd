import Mathlib.Data.List.Nodup
import Mathlib.Data.List.Pairwise
import Mathlib.Order.Lattice
import Mathlib.Tactic.Common

namespace Lib

structure OrderedMap (κ α : Type*) [LinearOrder κ] where
  entries : List (κ × α)
  sorted : entries.Pairwise fun e e' => e.1 < e'.1

namespace OrderedMap

variable {κ α : Type*} [LinearOrder κ] {k k' : κ} {a a' : α}

def insertEntry (k : κ) (a : α) : List (κ × α) → List (κ × α)
  | [] => [(k, a)]
  | e :: rest =>
      if k < e.1 then (k, a) :: e :: rest
      else if k = e.1 then (k, a) :: rest
      else e :: insertEntry k a rest

theorem key_mem_insertEntry {e : κ × α} {entries : List (κ × α)}
    (member : e ∈ insertEntry k a entries) : e = (k, a) ∨ e ∈ entries := by
  induction entries with
  | nil => exact Or.inl (List.mem_singleton.mp member)
  | cons first rest ih =>
      rw [insertEntry] at member
      split_ifs at member with before same
      · exact List.mem_cons.mp member
      · rcases List.mem_cons.mp member with here | later
        · exact Or.inl here
        · exact Or.inr (List.mem_cons_of_mem _ later)
      · rcases List.mem_cons.mp member with here | later
        · exact Or.inr (here ▸ List.mem_cons_self)
        · exact (ih later).imp_right (List.mem_cons_of_mem _)

theorem sorted_insertEntry {entries : List (κ × α)}
    (sorted : entries.Pairwise fun e e' => e.1 < e'.1) :
    (insertEntry k a entries).Pairwise fun e e' => e.1 < e'.1 := by
  induction entries with
  | nil => exact List.pairwise_singleton _ _
  | cons first rest ih =>
      obtain ⟨least, ordered⟩ := List.pairwise_cons.mp sorted
      rw [insertEntry]
      split_ifs with before same
      · refine List.pairwise_cons.mpr ⟨?_, sorted⟩
        intro e member
        rcases List.mem_cons.mp member with rfl | later
        · exact before
        · exact lt_trans before (least e later)
      · refine List.pairwise_cons.mpr ⟨?_, ordered⟩
        intro e member
        exact same ▸ least e member
      · refine List.pairwise_cons.mpr ⟨?_, ih ordered⟩
        intro e member
        rcases key_mem_insertEntry member with rfl | later
        · exact lt_of_le_of_ne (not_lt.mp before) (Ne.symm same)
        · exact least e later

def empty : OrderedMap κ α := ⟨[], .nil⟩

def insert (m : OrderedMap κ α) (k : κ) (a : α) : OrderedMap κ α :=
  ⟨insertEntry k a m.entries, sorted_insertEntry m.sorted⟩

def erase (m : OrderedMap κ α) (k : κ) : OrderedMap κ α :=
  ⟨m.entries.filter fun e => e.1 ≠ k, m.sorted.filter _⟩

theorem mem_insertEntry {entries : List (κ × α)}
    (sorted : entries.Pairwise fun e e' => e.1 < e'.1) :
    (k', a') ∈ insertEntry k a entries ↔ k' = k ∧ a' = a ∨ k' ≠ k ∧ (k', a') ∈ entries := by
  induction entries with
  | nil => simp [insertEntry]
  | cons first rest ih =>
      obtain ⟨least, ordered⟩ := List.pairwise_cons.mp sorted
      rw [insertEntry]
      split_ifs with before same
      · have other : (k', a') ∈ first :: rest → k' ≠ k := by
          intro member
          rcases List.mem_cons.mp member with here | later
          · rw [← here] at before
            exact ne_of_gt before
          · exact ne_of_gt (lt_trans before (least _ later))
        rw [List.mem_cons, Prod.mk.injEq]
        exact or_congr_right (and_iff_right_of_imp other).symm
      · have other : (k', a') ∈ rest → k' ≠ k := fun later => same ▸ ne_of_gt (least _ later)
        have gone : (k', a') = first → k' = k := fun here => by rw [same, ← here]
        rw [List.mem_cons, Prod.mk.injEq, List.mem_cons]
        apply or_congr_right
        constructor
        · intro later
          exact ⟨other later, Or.inr later⟩
        · rintro ⟨apart, here | later⟩
          · exact absurd (gone here) apart
          · exact later
      · rw [List.mem_cons, ih ordered, List.mem_cons]
        have kept : (k', a') = first → k' ≠ k := by
          intro here
          rw [← here] at same
          exact Ne.symm same
        constructor
        · rintro (here | mine | ⟨apart, later⟩)
          · exact Or.inr ⟨kept here, Or.inl here⟩
          · exact Or.inl mine
          · exact Or.inr ⟨apart, Or.inr later⟩
        · rintro (mine | ⟨apart, here | later⟩)
          · exact Or.inr (Or.inl mine)
          · exact Or.inl here
          · exact Or.inr (Or.inr ⟨apart, later⟩)

theorem mem_insert (m : OrderedMap κ α) :
    (k', a') ∈ (m.insert k a).entries ↔ k' = k ∧ a' = a ∨ k' ≠ k ∧ (k', a') ∈ m.entries :=
  mem_insertEntry m.sorted

theorem mem_erase (m : OrderedMap κ α) :
    (k', a') ∈ (m.erase k).entries ↔ k' ≠ k ∧ (k', a') ∈ m.entries := by
  simp [erase, and_comm]

/-! ## Looking up -/

def find (m : OrderedMap κ α) (k : κ) : Option α := (m.entries.find? fun e => e.1 = k).map Prod.snd

theorem find_eq_some_iff (m : OrderedMap κ α) : m.find k = some a ↔ (k, a) ∈ m.entries := by
  unfold find
  rw [Option.map_eq_some_iff]
  constructor
  · rintro ⟨e, found, rfl⟩
    have key : e.1 = k := of_decide_eq_true (List.find?_some found :)
    exact key ▸ List.mem_of_find?_eq_some found
  · intro member
    cases found : m.entries.find? fun e => e.1 = k with
    | none => exact absurd (decide_eq_true rfl) (List.find?_eq_none.mp found _ member)
    | some e =>
        have key : e.1 = k := of_decide_eq_true (List.find?_some found :)
        have nodup : (m.entries.map Prod.fst).Nodup := List.pairwise_map.mpr (m.sorted.imp ne_of_lt)
        have same := List.inj_on_of_nodup_map nodup (List.mem_of_find?_eq_some found) member key
        exact ⟨e, rfl, congrArg Prod.snd same⟩

theorem find_insert (m : OrderedMap κ α) :
    (m.insert k a).find k' = if k' = k then some a else m.find k' := by
  apply Option.ext
  intro a'
  rw [find_eq_some_iff, mem_insert]
  split_ifs with same
  · simp [same, eq_comm]
  · simp [same, find_eq_some_iff]

theorem find_erase (m : OrderedMap κ α) :
    (m.erase k).find k' = if k' = k then none else m.find k' := by
  apply Option.ext
  intro a'
  rw [find_eq_some_iff, mem_erase]
  split_ifs with same
  · simp [same]
  · simp [same, find_eq_some_iff]

theorem length_insertEntry {entries : List (κ × α)} (absent : ∀ e ∈ entries, e.1 ≠ k) :
    (insertEntry k a entries).length = entries.length + 1 := by
  induction entries with
  | nil => rfl
  | cons first rest ih =>
      obtain ⟨here, later⟩ := List.forall_mem_cons.mp absent
      rw [insertEntry]
      split_ifs with before same
      · rfl
      · exact absurd same.symm here
      · rw [List.length_cons, ih later, List.length_cons]

theorem length_insert_of_find (m : OrderedMap κ α) (absent : m.find k = none) :
    (m.insert k a).entries.length = m.entries.length + 1 := by
  apply length_insertEntry
  rintro ⟨k', a'⟩ member rfl
  rw [m.find_eq_some_iff.mpr member] at absent
  cases absent

theorem insertEntry_of_mem {entries : List (κ × α)} (sorted : entries.Pairwise fun e e' => e.1 < e'.1)
    (member : (k, a) ∈ entries) : insertEntry k a entries = entries := by
  induction entries with
  | nil => cases member
  | cons first rest ih =>
      obtain ⟨least, ordered⟩ := List.pairwise_cons.mp sorted
      rw [insertEntry]
      rcases List.mem_cons.mp member with rfl | later
      · rw [if_neg (lt_irrefl k), if_pos rfl]
      · have greater := least _ later
        rw [if_neg (not_lt_of_gt greater), if_neg (ne_of_gt greater), ih ordered later]

theorem insert_of_find (m : OrderedMap κ α) (found : m.find k = some a) : m.insert k a = m := by
  have same := insertEntry_of_mem m.sorted (m.find_eq_some_iff.mp found)
  unfold insert
  congr

/-! ## Visiting the entries -/

theorem insertEntry_of_lt {entries : List (κ × α)} (last : ∀ e ∈ entries, e.1 < k) :
    insertEntry k a entries = entries ++ [(k, a)] := by
  induction entries with
  | nil => rfl
  | cons e entries ih =>
      obtain ⟨here, later⟩ := List.forall_mem_cons.mp last
      rw [insertEntry, if_neg (not_lt.mpr (le_of_lt here)), if_neg (ne_of_gt here), ih later, List.cons_append]

theorem foldl_insert_from (rest : List (κ × α)) (m : OrderedMap κ α)
    (sorted : (m.entries ++ rest).Pairwise fun e e' => e.1 < e'.1) :
    (rest.foldl (fun m e => m.insert e.1 e.2) m).entries = m.entries ++ rest := by
  induction rest generalizing m with
  | nil => exact (List.append_nil _).symm
  | cons e rest ih =>
      have last : ∀ e' ∈ m.entries, e'.1 < e.1 := fun e' member =>
        (List.pairwise_append.mp sorted).2.2 e' member e List.mem_cons_self
      have next : (m.insert e.1 e.2).entries ++ rest = m.entries ++ e :: rest := by
        change insertEntry e.1 e.2 m.entries ++ rest = _
        rw [insertEntry_of_lt last, List.append_assoc, List.singleton_append]
      rw [List.foldl_cons, ih _ (next ▸ sorted), next]

theorem foldl_insert (m : OrderedMap κ α) :
    m.entries.foldl (fun m e => m.insert e.1 e.2) empty = m := by
  have same := foldl_insert_from m.entries empty m.sorted
  generalize m.entries.foldl (fun m e => m.insert e.1 e.2) empty = built at same
  obtain ⟨entries, sorted⟩ := m
  obtain ⟨entries', sorted'⟩ := built
  obtain rfl : entries' = entries := same
  rfl

def keys (m : OrderedMap κ α) : List κ := m.entries.map Prod.fst

theorem sorted_keys (m : OrderedMap κ α) : m.keys.Pairwise (· < ·) := List.pairwise_map.mpr m.sorted

theorem mem_keys (m : OrderedMap κ α) : k ∈ m.keys ↔ (m.find k).isSome := by
  rw [Option.isSome_iff_exists]
  simp [keys, find_eq_some_iff]

def first? (m : OrderedMap κ α) : Option κ := m.keys.head?

def next? (m : OrderedMap κ α) (k : κ) : Option κ := m.keys.find? fun k' => k < k'

theorem next?_eq (m : OrderedMap κ α) {before rest : List κ} (visited : m.keys = before ++ k :: rest) :
    m.next? k = rest.head? := by
  have sorted := m.sorted_keys
  rw [visited, List.pairwise_append] at sorted
  obtain ⟨-, behind, earlier⟩ := sorted
  have passed : before.find? (fun k' => k < k') = none := by
    rw [List.find?_eq_none]
    intro k' member
    simpa using (earlier k' member k List.mem_cons_self).le
  rw [next?, visited, List.find?_append, passed, Option.none_or, List.find?_cons_of_neg (by simp)]
  cases rest with
  | nil => rfl
  | cons k' rest =>
      have greater := (List.pairwise_cons.mp behind).1 k' List.mem_cons_self
      rw [List.find?_cons, decide_eq_true greater, List.head?_cons]

theorem nodup_values {β : Type*} (m : OrderedMap κ (Option β)) {owner : β → κ}
    (owned : ∀ k b, (k, some b) ∈ m.entries → owner b = k) :
    (m.entries.filterMap Prod.snd).Nodup := by
  rw [List.Nodup, List.pairwise_filterMap]
  refine m.sorted.imp_of_mem ?_
  rintro ⟨k, a⟩ ⟨k', a'⟩ first second before b rfl b' rfl same
  rw [← owned k b first, ← owned k' b' second, same] at before
  exact lt_irrefl _ before

end OrderedMap
end Lib
