import Mathlib.Data.List.DropRight
import Mathlib.Data.List.TakeWhile
import Mathlib.Tactic.Common

namespace Lib.Text

variable {α : Type*} {p : α → Bool} {s t b d w rest : List α} {c : α}

def All (p : α → Bool) (s : List α) : Prop := ∀ c ∈ s, p c = true

instance (p : α → Bool) (s : List α) : Decidable (All p s) :=
  inferInstanceAs (Decidable (∀ c ∈ s, p c = true))

@[simp] theorem all_nil : All p [] := nofun

@[simp] theorem all_cons : All p (c :: s) ↔ p c = true ∧ All p s := List.forall_mem_cons

@[simp] theorem all_append : All p (s ++ t) ↔ All p s ∧ All p t := List.forall_mem_append

theorem dropWhile_eq_nil_iff : s.dropWhile p = [] ↔ All p s := List.dropWhile_eq_nil_iff

theorem dropWhile_all (all : All p d) : (d ++ s).dropWhile p = s.dropWhile p :=
  List.dropWhile_append_of_pos all

theorem dropWhile_append_of_not_all (other : ¬ All p s) (t : List α) :
    (s ++ t).dropWhile p = s.dropWhile p ++ t := by
  rw [List.dropWhile_append, if_neg]
  rw [List.isEmpty_iff, dropWhile_eq_nil_iff]
  exact other

theorem not_head_dropWhile (dropped : s.dropWhile p = c :: rest) : p c = false := by
  have head := List.head?_dropWhile_not p s
  rwa [dropped] at head

theorem exists_split (other : ¬ All p s) :
    ∃ d c rest, s = d ++ c :: rest ∧ All p d ∧ p c = false ∧ s.dropWhile p = c :: rest := by
  cases dropped : s.dropWhile p with
  | nil => exact absurd (dropWhile_eq_nil_iff.mp dropped) other
  | cons c rest =>
      refine ⟨s.takeWhile p, c, rest, ?_, ?_, not_head_dropWhile dropped, rfl⟩
      · rw [← dropped, List.takeWhile_append_dropWhile]
      · exact List.all_eq_true.mp List.all_takeWhile

def trim (p : α → Bool) (s : List α) : List α := (s.dropWhile p).rdropWhile p

theorem filter_dropWhile (s : List α) :
    (s.dropWhile p).filter (fun c => !p c) = s.filter fun c => !p c := by
  induction s with
  | nil => rfl
  | cons c s ih =>
      rw [List.dropWhile_cons]
      split_ifs with blank
      · rw [ih, List.filter_cons_of_neg (by simp [blank])]
      · rfl

theorem filter_rdropWhile (s : List α) :
    (s.rdropWhile p).filter (fun c => !p c) = s.filter fun c => !p c := by
  rw [List.rdropWhile, List.filter_reverse, filter_dropWhile, List.filter_reverse, List.reverse_reverse]

theorem filter_trim (s : List α) : (trim p s).filter (fun c => !p c) = s.filter fun c => !p c := by
  rw [trim, filter_rdropWhile, filter_dropWhile]

theorem mem_dropWhile (member : c ∈ s) (nonblank : p c = false) : c ∈ s.dropWhile p := by
  have kept : c ∈ (s.dropWhile p).filter fun c => !p c := by
    rw [filter_dropWhile, List.mem_filter]
    exact ⟨member, by rw [nonblank]; rfl⟩
  exact List.mem_of_mem_filter kept

theorem mem_trim (member : c ∈ s) (nonblank : p c = false) : c ∈ trim p s := by
  have kept : c ∈ (trim p s).filter fun c => !p c := by
    rw [filter_trim, List.mem_filter]
    exact ⟨member, by rw [nonblank]; rfl⟩
  exact List.mem_of_mem_filter kept

theorem trim_eq_nil_iff : trim p s = [] ↔ All p s := by
  constructor
  · intro empty c member
    by_contra nonblank
    have kept := mem_trim member (Bool.eq_false_iff.mpr nonblank)
    rw [empty] at kept
    cases kept
  · intro all
    rw [trim, dropWhile_eq_nil_iff.mpr all, List.rdropWhile_nil]

theorem trim_append_left (blank : All p b) : trim p (b ++ s) = trim p s := by
  rw [trim, dropWhile_all blank, trim]

theorem rdropWhile_append (blank : All p b) : (s ++ b).rdropWhile p = s.rdropWhile p := by
  have blank' : All p b.reverse := fun c member => blank c (List.mem_reverse.mp member)
  rw [List.rdropWhile, List.reverse_append, dropWhile_all blank', List.rdropWhile]

theorem trim_append_right (blank : All p b) : trim p (s ++ b) = trim p s := by
  rw [trim, List.dropWhile_append]
  split_ifs with empty
  · rw [dropWhile_eq_nil_iff.mpr blank, trim, List.isEmpty_iff.mp empty]
  · rw [rdropWhile_append blank, trim]

theorem trim_append_eq_iff : trim p (s ++ t) = trim p s ↔ All p t := by
  constructor
  · intro same c member
    have kept := congrArg (List.filter fun c => !p c) same
    rw [filter_trim, filter_trim, List.filter_append, List.append_right_eq_self,
      List.filter_eq_nil_iff] at kept
    simpa using kept c member
  · exact trim_append_right

def word (p : α → Bool) (s : List α) : Option (List α × List α) :=
  match s.dropWhile p with
  | [] => none
  | c :: rest => some ((c :: rest).takeWhile (fun x => !p x), ((c :: rest).dropWhile fun x => !p x).tail)

def Ends (p : α → Bool) (s : List α) : Prop := ∀ c ∈ s.head?, p c = true

@[simp] theorem ends_nil : Ends p [] := nofun

@[simp] theorem ends_cons : Ends p (c :: s) ↔ p c = true := by
  simp [Ends]

theorem word_all (all : All p d) : word p (d ++ s) = word p s := by
  rw [word, dropWhile_all all, word]

theorem word_append (nonempty : w ≠ []) (inside : All (fun x => !p x) w) (rest : List α) :
    word p (w ++ rest) =
      some (w ++ rest.takeWhile (fun x => !p x), (rest.dropWhile fun x => !p x).tail) := by
  obtain _ | ⟨c, w⟩ := w
  · exact absurd rfl nonempty
  · have here : p c = false := by simpa using (all_cons.mp inside).1
    have stays : (c :: w ++ rest).dropWhile p = c :: (w ++ rest) := by
      rw [List.cons_append, List.dropWhile_cons, here, if_neg Bool.false_ne_true]
    rw [word, stays]
    simp only [← List.cons_append, List.takeWhile_append_of_pos inside,
      List.dropWhile_append_of_pos inside]

theorem Ends.takeWhile (ends : Ends p rest) : rest.takeWhile (fun x => !p x) = [] := by
  cases rest with
  | nil => rfl
  | cons c rest => simp [ends_cons.mp ends]

theorem Ends.dropWhile (ends : Ends p rest) : (rest.dropWhile fun x => !p x) = rest := by
  cases rest with
  | nil => rfl
  | cons c rest => simp [ends_cons.mp ends]

theorem word_append_ends (nonempty : w ≠ []) (inside : All (fun x => !p x) w) (ends : Ends p rest) :
    word p (w ++ rest) = some (w, rest.tail) := by
  rw [word_append nonempty inside, ends.takeWhile, ends.dropWhile, List.append_nil]

theorem word_inside (found : word p s = some (w, rest)) : All (fun x => !p x) w := by
  unfold word at found
  split at found
  · cases found
  · obtain ⟨rfl, -⟩ := Prod.mk.inj (Option.some.inj found)
    exact List.all_eq_true.mp List.all_takeWhile

theorem word_split (other : ¬ All p s) :
    ∃ d w rest, s = d ++ (w ++ rest) ∧ All p d ∧ w ≠ [] ∧ All (fun x => !p x) w ∧ Ends p rest ∧
      word p s = some (w, rest.tail) := by
  obtain ⟨d, c, behind, rfl, all, here, -⟩ := exists_split other
  let inWord : α → Bool := fun x => !p x
  let w := c :: behind.takeWhile inWord
  let rest := behind.dropWhile inWord
  have joined : c :: behind = w ++ rest := by
    rw [List.cons_append, List.takeWhile_append_dropWhile]
  have inside : All (fun x => !p x) w :=
    all_cons.mpr ⟨by rw [here]; rfl, List.all_eq_true.mp List.all_takeWhile⟩
  have ends : Ends p rest := by
    cases dropped : rest with
    | nil => exact ends_nil
    | cons x more =>
        have stopped : inWord x = false := not_head_dropWhile dropped
        simpa [inWord] using stopped
  refine ⟨d, w, rest, by rw [joined], all, List.cons_ne_nil _ _, inside, ends, ?_⟩
  rw [word_all all, joined]
  exact word_append_ends (List.cons_ne_nil _ _) inside ends

end Lib.Text
