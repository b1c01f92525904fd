import GamingAnywhere.Config.Assignments

namespace GamingAnywhere.Config
open Lib Text

variable {line s t k v tail option token more w r : Bytes}

/-! ## The value -/

theorem Joins.of_append (joins : Joins (s ++ t) r) (nonempty : t ≠ []) : Joins t r := by
  rwa [Joins, List.getLast?_append_of_ne_nil _ nonempty] at joins

theorem strtok_of_starts (starts : StartsComment t) :
    ∃ more, strtok t = some (t.takeWhile fun c => !isDelim c, more) := by
  cases t with
  | nil => exact absurd starts not_startsComment_nil
  | cons c t =>
      have inside : isDelim c = false := by
        rcases startsComment_cons.mp starts with rfl | rfl | ⟨rfl, -⟩ <;> decide
      have word : strtok (c :: t) = _ := word_append (w := [c]) (List.cons_ne_nil _ _) (by simp [inside]) t
      rw [word, List.takeWhile_cons, inside]
      exact ⟨_, rfl⟩

theorem startsSlashes (starts : StartsComment t) (first : t.head? = some slash) :
    ∃ rest, t = slash :: slash :: rest := by
  cases t with
  | nil => cases first
  | cons c t =>
      obtain rfl := Option.some.inj first
      rcases startsComment_cons.mp starts with same | same | ⟨-, second⟩
      · exact absurd same (by decide)
      · exact absurd same (by decide)
      · cases t with
        | nil => cases second
        | cons d t =>
            obtain rfl := Option.some.inj second
            exact ⟨t, rfl⟩

theorem trim_ne_of_slashes (free : NoComment w) (alone : slash ∈ w) (starts : StartsComment t)
    (first : t.head? = some slash) (joins : Joins w t) (opens : Opens (w ++ t)) :
    gaConfTrim (w ++ t) ≠ trim isSpace w := by
  intro same
  obtain ⟨t, rfl⟩ := startsSlashes starts first
  have alone' : slash ∈ w.dropWhile isSpace := mem_dropWhile alone (by decide)
  have nonblank : ¬ All isSpace w := fun blank => absurd (blank slash alone) (by decide)
  have last : (w.dropWhile isSpace).getLast? ≠ some slash := by
    intro last
    have joins' : Joins (w.dropWhile isSpace) (slash :: slash :: t) := by
      rw [← List.takeWhile_append_dropWhile (p := isSpace) (l := w)] at joins
      exact joins.of_append (List.ne_nil_of_mem alone')
    exact joins' last rfl
  obtain ⟨rest, kept⟩ := removeComments_slashes free.dropWhile alone' last t
  have noSection := opens.noSection
  rw [gaConfTrim, if_neg noSection, dropWhile_append_of_not_all nonblank, kept] at same
  have counted := congrArg (fun s => (s.filter fun c => !isSpace c).length) same
  simp only [filter_rdropWhile, filter_trim, List.filter_append, filter_dropWhile, List.length_append]
    at counted
  have slashes : ((slash :: slash :: rest).filter fun c => !isSpace c) =
      slash :: slash :: rest.filter fun c => !isSpace c := rfl
  rw [slashes] at counted
  simp at counted

theorem Spoken.equals_not_mem (value : gaConfTrim token = trim isSpace v)
    (second : strtok s = some (token, more)) : equals ∉ v := by
  intro member
  have kept : equals ∈ gaConfTrim token := value ▸ mem_trim member (by decide)
  exact Config.equals_not_mem (word_inside second) (mem_of_mem_gaConfTrim kept)

theorem Spoken.value_unbroken {d : Bytes} (spoken : Spoken line k (d ++ w) tail) (behind : All isEnd d)
    (delims : All isDelim d) (nonempty : w ≠ []) (inside : All (fun c => !isDelim c) w)
    (second : strtok (d ++ (w ++ tail)) = some (token, more)) (text : HasText token)
    (value : gaConfTrim token = trim isSpace (d ++ w)) : Word w ∧ Rest w tail := by
  have free : NoComment w := (spoken.free.right).2.right
  have found := (word_all delims).trans (word_append nonempty inside tail)
  obtain ⟨rfl, -⟩ := Prod.mk.inj (Option.some.inj (found.symm.trans second))
  rcases spoken.ends with rfl | starts
  · exact ⟨⟨inside, free, opens_of_hasText text (.inl rfl)⟩, .none⟩
  · refine ⟨⟨inside, free, opens_of_hasText text (.inr starts.takeWhile.1)⟩, .comment starts ?_⟩
    intro first alone
    have joins : Joins w (tail.takeWhile fun c => !isDelim c) := by
      have joins := spoken.joins
      rw [← List.cons_append, ← List.append_assoc] at joins
      have joins := joins.of_append nonempty
      rwa [Joins, ← starts.takeWhile.2] at joins
    have first' := starts.takeWhile.2.trans first
    rw [trim_append_left (all_isSpace behind)] at value
    exact trim_ne_of_slashes free alone starts.takeWhile.1 first' joins text.opens value

theorem Spoken.value_broken {d : Bytes} {x : UInt8} (spoken : Spoken line k (d ++ (w ++ x :: r)) tail)
    (behind : All isEnd d) (delims : All isDelim d) (nonempty : w ≠ [])
    (inside : All (fun c => !isDelim c) w) (ends : isDelim x = true) (other : x ≠ equals)
    (second : strtok (d ++ (w ++ (x :: r ++ tail))) = some (token, more)) (text : HasText token)
    (value : gaConfTrim token = trim isSpace (d ++ (w ++ x :: r))) :
    Word w ∧ Rest w (x :: (r ++ tail)) := by
  have free : NoComment (w ++ x :: r) := (spoken.free.right).2.right
  have found : strtok (d ++ (w ++ (x :: r ++ tail))) = some (w, (x :: r ++ tail).tail) :=
    (word_all delims).trans (word_append_ends nonempty inside (ends_cons.mpr ends))
  obtain ⟨rfl, -⟩ := Prod.mk.inj (Option.some.inj (found.symm.trans second))
  rw [gaConfTrim_self free.left text.opens.noSection, trim_append_left (all_isSpace behind), eq_comm,
    trim_append_eq_iff] at value
  obtain ⟨-, blank⟩ := all_cons.mp value
  refine ⟨⟨inside, free.left, text.opens⟩, .ended (isEnd_of_isDelim ends other) ?_⟩
  rw [cutComments_append free.right.2 (.of_left (slash_not_mem_of_blank blank))]
  rcases spoken.ends with rfl | starts
  · exact all_append.mpr ⟨blank, all_nil⟩
  · rw [cutComments_of_starts starts]
    exact all_append.mpr ⟨blank, all_nil⟩

theorem Spoken.value_split (spoken : Spoken line k v tail)
    (second : strtok (v ++ tail) = some (token, more)) (text : HasText token)
    (value : gaConfTrim token = trim isSpace v) :
    ∃ e₂ w rest, v ++ tail = e₂ ++ (w ++ rest) ∧ All isEnd e₂ ∧ Word w ∧ Rest w rest := by
  have absent := Spoken.equals_not_mem value second
  by_cases whole : All isDelim v
  · exfalso
    have second : strtok tail = some (token, more) := (word_all whole).symm.trans second
    rcases spoken.ends with rfl | starts
    · cases second
    · obtain ⟨more', found⟩ := strtok_of_starts starts
      obtain ⟨rfl, -⟩ := Prod.mk.inj (Option.some.inj (found.symm.trans second))
      exact starts.takeWhile.1.not_hasText text
  · obtain ⟨d, w, r, rfl, delims, nonempty, inside, ends, -⟩ := word_split whole
    have behind : All isEnd d := all_isEnd delims fun member => absent (List.mem_append_left _ member)
    rw [List.append_assoc, List.append_assoc] at second ⊢
    obtain _ | ⟨x, r⟩ := r
    · rw [List.append_nil] at value spoken
      exact ⟨d, w, tail, rfl, behind, spoken.value_unbroken behind delims nonempty inside second text value⟩
    · have other : x ≠ equals := by
        rintro rfl
        exact absent (List.mem_append_right _ (List.mem_append_right _ List.mem_cons_self))
      exact ⟨d, w, x :: (r ++ tail), rfl, behind, spoken.value_broken behind delims nonempty inside
        (ends_cons.mp ends) other second text value⟩

/-! ## Reading right -/

def ReadPlain (line : Bytes) : Prop :=
  ∃ e₀ name e₁ e₂ text rest, PlainAssignment e₀ name e₁ e₂ text rest ∧
    line = assignment e₀ name e₁ e₂ text rest

theorem plain_of_agree (spoken : ¬ Silent line) (texts : TwoTexts line option token)
    (key : gaConfTrim option = keyText line) (value : gaConfTrim token = valueText line) :
    ReadPlain line := by
  obtain ⟨k, v, tail, spoken⟩ := exists_spoken spoken
  obtain ⟨e₀, r, more, split, before, inside, ends, second⟩ := spoken.first texts.1
  have blank : All isSpace r := by
    rw [spoken.trim_option texts, spoken.keyText, split, trim_append_left (all_isSpace before), eq_comm,
      trim_append_eq_iff] at key
    exact key
  have delims : All isDelim r := delims_of_blank blank ends second texts.2.2
  have between : All isEnd r := all_isEnd delims (equals_not_mem_of_blank blank)
  have signed : All isDelim (r ++ [equals]) := all_append.mpr ⟨delims, by decide⟩
  have second : strtok (v ++ tail) = some (token, more) := by
    rw [← strtok_tail signed (by simp), List.append_assoc]
    exact second
  rw [spoken.valueText] at value
  obtain ⟨e₂, w, rest, split', behind, word, rest'⟩ := spoken.value_split second texts.2.2 value
  have plain : PlainAssignment e₀ option r e₂ w rest :=
    ⟨before, ⟨inside, spoken.free_option split, texts.2.1.opens⟩, between, behind, word, rest'⟩
  refine ⟨e₀, option, r, e₂, w, rest, plain, ?_⟩
  rw [spoken.joined, split, split', assignment, List.append_assoc, List.append_assoc]

/-- The lines that are read as the grammar says: plain assignments; silent lines without two words with
something in them; and lines whose key is malformed, as is the first of two such words. -/
def Regular (line : Bytes) : Prop :=
  ReadPlain line ∨
    (Silent line ∧ ∀ option token, ¬ TwoTexts line option token) ∨
    ¬ Silent line ∧ Malformed (keyText line) ∧
      ∃ option token, TwoTexts line option token ∧ Malformed (trim isSpace option)

def NoInclude (line : Bytes) : Prop :=
  (strtok line).map (fun first => gaConfTrim first.1) ≠ some includeOption

theorem NoInclude.trim_ne (noInclude : NoInclude line) (texts : TwoTexts line option token) :
    gaConfTrim option ≠ includeOption := by
  obtain ⟨⟨option', saveptr⟩, first, both⟩ := Option.bind_eq_some_iff.mp texts.1
  obtain ⟨_, -, same⟩ := Option.map_eq_some_iff.mp both
  obtain ⟨rfl, -⟩ := Prod.mk.inj same
  intro included
  exact noInclude (by rw [first, Option.map_some, included])

theorem NoInclude.parsed (noInclude : NoInclude line) (token : Bytes) :
    parsed line ≠ .included token := by
  by_cases texts : ∃ option token, TwoTexts line option token
  · obtain ⟨option, token', texts⟩ := texts
    rw [parsed_of_twoTexts texts (noInclude.trim_ne texts)]
    rcases bracketed_cases (gaConfTrim option) (gaConfTrim token') with
      ⟨-, result⟩ | ⟨_, _, -, result⟩ | ⟨-, result⟩
    all_goals
      rw [result]
      exact nofun
  · simp only [not_exists] at texts
    rw [parsed_of_not_twoTexts texts]
    exact nofun

theorem gaConfParse_readRight_iff (line : Bytes) (noInclude : NoInclude line) :
    ReadRight line ↔ Regular line := by
  rw [readRight_iff noInclude.parsed]
  by_cases silent : Silent line
  · rw [if_pos silent]
    constructor
    · intro ignored
      refine .inr (.inl ⟨silent, ?_⟩)
      intro option token texts
      rw [parsed_of_twoTexts texts (noInclude.trim_ne texts)] at ignored
      exact bracketed_ne_ignored _ _ ignored
    · rintro (⟨e₀, name, e₁, e₂, text, rest, plain, rfl⟩ | ⟨-, texts⟩ | ⟨spoken, -⟩)
      · exact absurd silent plain.spoken
      · exact parsed_of_not_twoTexts texts
      · exact absurd silent spoken
  · rw [if_neg silent]
    constructor
    · intro read
      by_cases texts : ∃ option token, TwoTexts line option token
      · obtain ⟨option, token, texts⟩ := texts
        rw [parsed_of_twoTexts texts (noInclude.trim_ne texts), bracketed_eq_iff] at read
        rcases read with ⟨key, value⟩ | ⟨bad, bad'⟩
        · exact .inl (plain_of_agree silent texts key value)
        · obtain ⟨k, v, tail, spoken⟩ := exists_spoken silent
          rw [spoken.trim_option texts] at bad
          exact .inr (.inr ⟨silent, bad', option, token, texts, bad⟩)
      · simp only [not_exists] at texts
        rw [parsed_of_not_twoTexts texts] at read
        exact absurd read.symm (bracketed_ne_ignored _ _)
    · rintro (⟨e₀, name, e₁, e₂, text, rest, plain, rfl⟩ | ⟨quiet, -⟩ | ⟨-, bad, option, token, texts, bad'⟩)
      · obtain ⟨token, texts, key, value⟩ := plain.tokens
        rw [parsed_of_twoTexts texts (noInclude.trim_ne texts), key, value, plain.texts.1, plain.texts.2]
      · exact absurd quiet silent
      · obtain ⟨k, v, tail, spoken⟩ := exists_spoken silent
        rw [← spoken.trim_option texts] at bad'
        rw [parsed_of_twoTexts texts (noInclude.trim_ne texts), bracketed_eq_iff]
        exact .inr ⟨bad', bad⟩

theorem plainLine_readRight : ReadRight [97, 32, 61, 32, 98, 10] := by
  have plain : PlainAssignment [] [97, 32] [] [] [32, 98] [10] := by
    refine ⟨all_nil, ⟨by decide, by decide, by decide, by decide⟩, all_nil, all_nil,
      ⟨by decide, by decide, by decide, by decide⟩, .ended (by decide) all_nil⟩
  rw [gaConfParse_readRight_iff _ (by unfold NoInclude; decide +kernel)]
  exact .inl ⟨_, _, _, _, _, _, plain, rfl⟩

/-- `a # b = c`: a comment is stored. -/
theorem not_gaConfParse_readRight :
    ¬ ∀ line : Bytes, line.length ≤ 8190 → 0 ∉ line → NoInclude line → ReadRight line := by
  intro right
  have silent : Silent [97, 35, 98, 61, 99] := by decide
  have result := right [97, 35, 98, 61, 99] (by decide) (by decide) (by unfold NoInclude; decide +kernel)
  obtain ⟨meaning, means, stored⟩ := result (fun _ _ => none) .empty
  cases means with
  | nothing _ =>
      have found := congrArg (Option.map fun r => gaConfReadv r.2 [97] none) stored
      exact absurd found (by decide +kernel)
  | store spoken _ | mapstore spoken _ | refuse spoken _ => exact spoken silent

end GamingAnywhere.Config
