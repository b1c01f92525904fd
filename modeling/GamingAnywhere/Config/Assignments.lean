import GamingAnywhere.Config.Grammar

namespace GamingAnywhere.Config
open Lib Text

variable {line s t e k v w r rest text : Bytes} {c : UInt8}

/-! ## The first two words -/

def words (buf : Bytes) : Option (Bytes × Bytes) :=
  (strtok buf).bind fun first => (strtok first.2).map fun second => (first.1, second.1)

def TwoTexts (line option token : Bytes) : Prop :=
  words line = some (option, token) ∧ HasText option ∧ HasText token

theorem parsed_of_twoTexts {option token : Bytes} (texts : TwoTexts line option token)
    (noInclude : gaConfTrim option ≠ includeOption) :
    parsed line = bracketed (gaConfTrim option) (gaConfTrim token) := by
  obtain ⟨found, text, text'⟩ := texts
  unfold words at found
  rw [Option.bind_eq_some_iff] at found
  obtain ⟨⟨option', saveptr⟩, first, both⟩ := found
  obtain ⟨⟨token', behind⟩, second, same⟩ := Option.map_eq_some_iff.mp both
  obtain ⟨rfl, rfl⟩ := Prod.mk.inj same
  dsimp only at second
  rw [parsed, first]
  dsimp only
  rw [if_neg ((gaConfTrim_ne_nil_iff _).mpr text), second]
  dsimp only
  rw [if_neg ((gaConfTrim_ne_nil_iff _).mpr text'), if_neg noInclude]

theorem parsed_of_not_twoTexts (texts : ∀ option token, ¬ TwoTexts line option token) :
    parsed line = .ignored := by
  unfold parsed
  cases first : strtok line with
  | none => rfl
  | some found =>
      obtain ⟨option, saveptr⟩ := found
      dsimp only
      by_cases text : HasText option
      · rw [if_neg ((gaConfTrim_ne_nil_iff _).mpr text)]
        cases second : strtok saveptr with
        | none => rfl
        | some found =>
            obtain ⟨token, behind⟩ := found
            have found : words line = some (option, token) := by
              rw [words, first, Option.bind_some, second, Option.map_some]
            have empty : gaConfTrim token = [] := by
              by_contra text'
              exact texts option token ⟨found, text, (gaConfTrim_ne_nil_iff _).mp text'⟩
            dsimp only
            rw [if_pos empty]
      · have empty : gaConfTrim option = [] := by
          by_contra text'
          exact text ((gaConfTrim_ne_nil_iff _).mp text')
        rw [if_pos empty]

/-! ## Assignments -/

def isEnd (c : UInt8) : Bool := c = 10 ∨ c = 13

structure Word (w : Bytes) : Prop where
  inside : All (fun c => !isDelim c) w
  free : NoComment w
  opens : Opens w

/-- What may stand behind the value: nothing; a CR or LF, with nothing but blanks up to a comment; or a
comment, without a slash in the value if it begins with slashes. -/
inductive Rest (text : Bytes) : Bytes → Prop
  | none : Rest text []
  | ended {c : UInt8} {more : Bytes} : isEnd c = true → All isSpace (cutComments more) →
      Rest text (c :: more)
  | comment {rest : Bytes} : StartsComment rest → (rest.head? = some slash → slash ∉ text) →
      Rest text rest

/-- A key, the first `'='` and a value, with CR and LF around them at most. -/
structure PlainAssignment (e₀ name e₁ e₂ text rest : Bytes) : Prop where
  before : All isEnd e₀
  key : Word name
  between : All isEnd e₁
  behind : All isEnd e₂
  value : Word text
  tail : Rest text rest

def assignment (e₀ name e₁ e₂ text rest : Bytes) : Bytes :=
  e₀ ++ (name ++ (e₁ ++ equals :: (e₂ ++ (text ++ rest))))

/-! ## Characters -/

theorem isDelim_of_isEnd (ends : isEnd c = true) : isDelim c = true := by
  simp only [isEnd, decide_eq_true_eq] at ends
  simp [isDelim, ends]

theorem isSpace_of_isEnd (ends : isEnd c = true) : isSpace c = true := by
  simp only [isEnd, decide_eq_true_eq] at ends
  rcases ends with rfl | rfl <;> decide

theorem isEnd_of_isDelim (delim : isDelim c = true) (other : c ≠ equals) : isEnd c = true := by
  simp only [isDelim, decide_eq_true_eq] at delim
  simp [isEnd, delim.resolve_left other]

theorem all_isEnd (delims : All isDelim s) (absent : equals ∉ s) : All isEnd s :=
  fun c member => isEnd_of_isDelim (delims c member) fun same => absurd (same ▸ member) absent

theorem all_isDelim (ends : All isEnd s) : All isDelim s :=
  fun c member => isDelim_of_isEnd (ends c member)

theorem all_isSpace (ends : All isEnd s) : All isSpace s :=
  fun c member => isSpace_of_isEnd (ends c member)

theorem equals_not_mem (inside : All (fun c => !isDelim c) s) : equals ∉ s :=
  fun member => absurd (inside equals member) (by decide)

theorem equals_not_mem_of_blank (blank : All isSpace s) : equals ∉ s :=
  fun member => absurd (blank equals member) (by decide)

theorem slash_not_mem_of_blank (blank : All isSpace s) : slash ∉ s :=
  fun member => absurd (blank slash member) (by decide)

theorem StartsComment.not_hasText (starts : StartsComment t) : ¬ HasText t := by
  intro text
  have kept : t.dropWhile isSpace = t := by
    cases t with
    | nil => rfl
    | cons c t =>
        have nonblank : isSpace c = false := by
          rcases startsComment_cons.mp starts with rfl | rfl | ⟨rfl, -⟩ <;> decide
        rw [List.dropWhile_cons, nonblank, if_neg Bool.false_ne_true]
  have none := text.2.2
  rw [kept] at none
  exact none starts

theorem blank_not_hasText (blank : All isSpace t) : ¬ HasText t :=
  fun text => text.1 (dropWhile_eq_nil_iff.mpr blank)

/-! ## Comments -/

theorem Joins.of_left (absent : slash ∉ s) : Joins s t :=
  fun last => absurd (List.mem_of_getLast? last) absent

theorem Joins.of_right (absent : slash ∉ t) : Joins s t :=
  fun _ first => absent (List.mem_of_head? first)

theorem Joins.append (nonempty : t ≠ []) (joins : Joins t r) : Joins (s ++ t) r := by
  rw [Joins, List.getLast?_append_of_ne_nil _ nonempty]
  exact joins

theorem noComment_of_blank (blank : All isSpace s) : NoComment s := by
  induction s with
  | nil => trivial
  | cons c s ih =>
      obtain ⟨first, later⟩ := all_cons.mp blank
      refine ⟨?_, ih later⟩
      rw [startsComment_cons]
      rintro (rfl | rfl | ⟨rfl, -⟩) <;> exact absurd first (by decide)

theorem cutComments_append (free : NoComment s) (joins : Joins s t) :
    cutComments (s ++ t) = s ++ cutComments t := by
  induction s with
  | nil => rfl
  | cons c s ih =>
      have stays : ¬ StartsComment (c :: (s ++ t)) := by
        have whole : ¬ StartsComment (c :: s) := free.1
        rw [startsComment_cons] at whole ⊢
        rintro (first | first | ⟨first, second⟩)
        · exact whole (.inl first)
        · exact whole (.inr (.inl first))
        · cases s with
          | nil => exact joins (by rw [first, List.getLast?_singleton]) second
          | cons d s => exact whole (.inr (.inr ⟨first, second⟩))
      have joins' : Joins s t := by
        cases s with
        | nil => exact nofun
        | cons d s => exact joins.of_cons
      rw [List.cons_append, cutComments, if_neg stays, ih free.2 joins', List.cons_append]

theorem cutComments_of_starts (starts : StartsComment s) : cutComments s = [] := by
  cases s with
  | nil => rfl
  | cons c s => rw [cutComments, if_pos starts]

theorem cutComments_split (line : Bytes) :
    ∃ tail, line = cutComments line ++ tail ∧ NoComment (cutComments line) ∧
      (tail = [] ∨ StartsComment tail) ∧ Joins (cutComments line) tail := by
  induction line with
  | nil => exact ⟨[], rfl, trivial, .inl rfl, nofun⟩
  | cons c line ih =>
      by_cases starts : StartsComment (c :: line)
      · rw [cutComments, if_pos starts]
        exact ⟨c :: line, rfl, trivial, .inr starts, nofun⟩
      · obtain ⟨tail, joined, free, ends, joins⟩ := ih
        rw [cutComments, if_neg starts]
        refine ⟨tail, congrArg (c :: ·) joined, ⟨?_, free⟩, ends, ?_⟩
        · intro starts'
          have whole := starts'.append tail
          rw [List.cons_append, ← joined] at whole
          exact starts whole
        · cases cut : cutComments line with
          | nil =>
              intro last first
              rw [cut, List.nil_append] at joined
              have slashed : c = slash := Option.some.inj last
              exact starts (startsComment_cons.mpr (.inr (.inr ⟨slashed, joined ▸ first⟩)))
          | cons d cut' =>
              rw [cut] at joins
              rwa [Joins, List.getLast?_cons_cons]

theorem parts_of_cut (cut : cutComments line = k ++ equals :: v) (absent : equals ∉ k) :
    keyPart line = k ∧ valuePart line = v := by
  have passed : ∀ x ∈ k, decide (x ≠ equals) = true :=
    fun x member => decide_eq_true fun same => absent (same ▸ member)
  rw [keyPart, valuePart, cut, List.takeWhile_append_of_pos passed, List.dropWhile_append_of_pos passed,
    List.takeWhile_cons_of_neg (by simp), List.dropWhile_cons_of_neg (by simp)]
  exact ⟨List.append_nil k, rfl⟩

theorem not_silent_of_cut (cut : cutComments line = k ++ equals :: v) (absent : equals ∉ k)
    (opens : Opens k) (spoken : ¬ All isSpace v) : ¬ Silent line := by
  obtain ⟨key, value⟩ := parts_of_cut cut absent
  rintro (starts | none | empty | empty)
  · rw [cut] at starts
    exact (opens.append _).noSection starts
  · rw [cut] at none
    exact none (by simp)
  · rw [keyText, key, trim_eq_nil_iff] at empty
    exact opens.nonblank empty
  · rw [valueText, value, trim_eq_nil_iff] at empty
    exact spoken empty

/-! ## Plain assignments -/

theorem Word.ne_nil (word : Word w) : w ≠ [] := by
  rintro rfl
  exact word.opens.nonblank all_nil

theorem Opens.append_left (opens : Opens s) (blank : All isSpace e) : Opens (e ++ s) := by
  refine ⟨fun all => opens.nonblank (all_append.mp all).2, ?_⟩
  rw [dropWhile_all blank]
  exact opens.noSection

theorem Rest.joins (rest' : Rest text rest) : Joins text rest := by
  cases rest' with
  | none => exact nofun
  | ended ends _ =>
      refine fun _ first => ?_
      rw [List.head?_cons, Option.some_inj] at first
      exact absurd (first ▸ ends) (by decide)
  | comment starts slashes => exact fun last first => slashes first (List.mem_of_getLast? last)

theorem Rest.blank (rest' : Rest text rest) : All isSpace (cutComments rest) := by
  cases rest' with
  | none => exact all_nil
  | @ended c more ends blank =>
      have goes : ¬ StartsComment (c :: more) := by
        rw [startsComment_cons]
        rintro (rfl | rfl | ⟨rfl, -⟩) <;> exact absurd ends (by decide)
      rw [cutComments, if_neg goes]
      exact all_cons.mpr ⟨isSpace_of_isEnd ends, blank⟩
  | comment starts _ =>
      rw [cutComments_of_starts starts]
      exact all_nil

section
variable {e₀ name e₁ e₂ : Bytes}

theorem PlainAssignment.cut (plain : PlainAssignment e₀ name e₁ e₂ text rest) :
    cutComments (assignment e₀ name e₁ e₂ text rest) =
      (e₀ ++ (name ++ e₁)) ++ equals :: (e₂ ++ (text ++ cutComments rest)) := by
  have blank₀ := all_isSpace plain.before
  have blank₁ := all_isSpace plain.between
  have blank₂ := all_isSpace plain.behind
  have value : NoComment (e₂ ++ text) :=
    (noComment_of_blank blank₂).append plain.value.free (.of_left (slash_not_mem_of_blank blank₂))
  have sign : NoComment (equals :: (e₂ ++ text)) := by
    refine ⟨?_, value⟩
    rw [startsComment_cons]
    rintro (same | same | ⟨same, -⟩) <;> exact absurd same (by decide)
  have key : NoComment (e₀ ++ name) :=
    (noComment_of_blank blank₀).append plain.key.free (.of_left (slash_not_mem_of_blank blank₀))
  have front : NoComment (e₀ ++ name ++ e₁) :=
    key.append (noComment_of_blank blank₁) (.of_right (slash_not_mem_of_blank blank₁))
  have whole : NoComment (e₀ ++ name ++ e₁ ++ equals :: (e₂ ++ text)) :=
    front.append sign fun _ first => absurd (Option.some.inj first) (by decide)
  have joins : Joins (e₀ ++ name ++ e₁ ++ equals :: (e₂ ++ text)) rest := by
    rw [← List.cons_append, ← List.append_assoc]
    exact plain.tail.joins.append plain.value.ne_nil
  have cut := cutComments_append whole joins
  simp only [assignment, List.append_assoc, List.cons_append] at cut ⊢
  exact cut

theorem PlainAssignment.absent (plain : PlainAssignment e₀ name e₁ e₂ text rest) :
    equals ∉ e₀ ++ (name ++ e₁) := by
  rw [List.mem_append, List.mem_append]
  rintro (first | middle | last)
  · exact equals_not_mem_of_blank (all_isSpace plain.before) first
  · exact equals_not_mem plain.key.inside middle
  · exact equals_not_mem_of_blank (all_isSpace plain.between) last

theorem PlainAssignment.spoken (plain : PlainAssignment e₀ name e₁ e₂ text rest) :
    ¬ Silent (assignment e₀ name e₁ e₂ text rest) := by
  refine not_silent_of_cut plain.cut plain.absent ?_ ?_
  · exact (plain.key.opens.append _).append_left (all_isSpace plain.before)
  · intro blank
    exact plain.value.opens.nonblank (all_append.mp (all_append.mp blank).2).1

theorem PlainAssignment.texts (plain : PlainAssignment e₀ name e₁ e₂ text rest) :
    keyText (assignment e₀ name e₁ e₂ text rest) = trim isSpace name ∧
      valueText (assignment e₀ name e₁ e₂ text rest) = trim isSpace text := by
  obtain ⟨key, value⟩ := parts_of_cut plain.cut plain.absent
  rw [keyText, key, valueText, value, trim_append_left (all_isSpace plain.before),
    trim_append_right (all_isSpace plain.between), trim_append_left (all_isSpace plain.behind),
    trim_append_right plain.tail.blank]
  exact ⟨rfl, rfl⟩

/-! ## Their tokens -/

theorem StartsComment.takeWhile (starts : StartsComment t) :
    StartsComment (t.takeWhile fun c => !isDelim c) ∧
      (t.takeWhile fun c => !isDelim c).head? = t.head? := by
  cases t with
  | nil => exact ⟨starts, rfl⟩
  | cons c t =>
      have inside : isDelim c = false := by
        rcases startsComment_cons.mp starts with rfl | rfl | ⟨rfl, -⟩ <;> decide
      rw [List.takeWhile_cons, inside, Bool.not_false, if_pos rfl, startsComment_cons]
      refine ⟨?_, rfl⟩
      rcases startsComment_cons.mp starts with first | first | ⟨first, second⟩
      · exact .inl first
      · exact .inr (.inl first)
      · refine .inr (.inr ⟨first, ?_⟩)
        cases t with
        | nil => cases second
        | cons d t =>
            obtain rfl := Option.some.inj second
            rfl

theorem strtok_tail {m : Bytes} (delims : All isDelim m) (nonempty : m ≠ []) (s : Bytes) :
    strtok (m ++ s).tail = strtok s := by
  obtain _ | ⟨c, m⟩ := m
  · exact absurd rfl nonempty
  · exact word_all (all_cons.mp delims).2

theorem words_eq {m : Bytes} (before : All isDelim e) (inside : All (fun c => !isDelim c) w)
    (nonempty : w ≠ []) (delims : All isDelim m) (separated : m ≠ []) (s : Bytes) :
    words (e ++ (w ++ (m ++ s))) = (strtok s).map fun second => (w, second.1) := by
  have ends : Ends isDelim (m ++ s) := by
    obtain _ | ⟨c, m⟩ := m
    · exact absurd rfl separated
    · exact ends_cons.mpr (all_cons.mp delims).1
  have first : strtok (e ++ (w ++ (m ++ s))) = some (w, (m ++ s).tail) :=
    (word_all before).trans (word_append_ends nonempty inside ends)
  rw [words, first, Option.bind_some, strtok_tail delims separated]

theorem PlainAssignment.tokens (plain : PlainAssignment e₀ name e₁ e₂ text rest) :
    ∃ token, TwoTexts (assignment e₀ name e₁ e₂ text rest) name token ∧
      gaConfTrim name = trim isSpace name ∧ gaConfTrim token = trim isSpace text := by
  let token := text ++ rest.takeWhile fun c => !isDelim c
  have key := gaConfTrim_self plain.key.free plain.key.opens.noSection
  have value : gaConfTrim token = trim isSpace text := by
    have alone := gaConfTrim_self plain.value.free plain.value.opens.noSection
    change gaConfTrim (text ++ rest.takeWhile fun c => !isDelim c) = _
    cases plain.tail with
    | none => rwa [List.takeWhile_nil, List.append_nil]
    | ended ends _ => rwa [(ends_cons.mpr (isDelim_of_isEnd ends)).takeWhile, List.append_nil]
    | comment starts slashes =>
        refine gaConfTrim_comment plain.value.opens plain.value.free starts.takeWhile.1 ?_
        rw [starts.takeWhile.2]
        exact slashes
  have found : words (assignment e₀ name e₁ e₂ text rest) = some (name, token) := by
    have delims : All isDelim (e₁ ++ equals :: e₂) :=
      all_append.mpr ⟨all_isDelim plain.between, all_cons.mpr ⟨by decide, all_isDelim plain.behind⟩⟩
    have split := words_eq (all_isDelim plain.before) plain.key.inside plain.key.ne_nil delims
      (by simp) (text ++ rest)
    rw [List.append_assoc, List.cons_append] at split
    rw [assignment, split, strtok, word_append plain.value.ne_nil plain.value.inside, Option.map_some]
  have text' : HasText token := by
    rw [← gaConfTrim_ne_nil_iff, value, ne_eq, trim_eq_nil_iff]
    exact plain.value.opens.nonblank
  exact ⟨token, ⟨found, plain.key.opens.hasText plain.key.free, text'⟩, key, value⟩

end

/-! ## Lines with a meaning -/

/-- A line that is not silent: its parts at the first `'='` and at the first comment. -/
structure Spoken (line k v tail : Bytes) : Prop where
  joined : line = k ++ equals :: (v ++ tail)
  cut : cutComments line = k ++ equals :: v
  absent : equals ∉ k
  opens : Opens k
  nonblank : ¬ All isSpace v
  free : NoComment (k ++ equals :: v)
  ends : tail = [] ∨ StartsComment tail
  joins : Joins (k ++ equals :: v) tail

theorem exists_spoken (spoken : ¬ Silent line) : ∃ k v tail, Spoken line k v tail := by
  unfold Silent at spoken
  simp only [not_or, not_not] at spoken
  obtain ⟨noSection, sign, key, value⟩ := spoken
  obtain ⟨tail, joined, free, ends, joins⟩ := cutComments_split line
  have split := cutAt_split sign
  generalize (cutComments line).drop ((cutAt equals (cutComments line)).length + 1) = v at split
  have absent := not_mem_cutAt equals (cutComments line)
  generalize cutAt equals (cutComments line) = k at split absent
  obtain ⟨keyPart', valuePart'⟩ := parts_of_cut split absent
  rw [keyText, keyPart', trim_eq_nil_iff] at key
  rw [valueText, valuePart', trim_eq_nil_iff] at value
  have opens : Opens k := by
    refine ⟨key, ?_⟩
    intro starts
    rw [split, dropWhile_append_of_not_all key, List.head?_append, starts, Option.some_or] at noSection
    exact noSection rfl
  refine ⟨k, v, tail, ?_, split, absent, opens, value, split ▸ free, ends, split ▸ joins⟩
  rw [split, List.append_assoc, List.cons_append] at joined
  exact joined

theorem Spoken.keyText {tail : Bytes} (spoken : Spoken line k v tail) :
    keyText line = trim isSpace k := by
  rw [Config.keyText, (parts_of_cut spoken.cut spoken.absent).1]

theorem Spoken.valueText {tail : Bytes} (spoken : Spoken line k v tail) :
    valueText line = trim isSpace v := by
  rw [Config.valueText, (parts_of_cut spoken.cut spoken.absent).2]

section
variable {tail option token : Bytes}

theorem Spoken.first (spoken : Spoken line k v tail) (found : words line = some (option, token)) :
    ∃ e₀ r more, k = e₀ ++ (option ++ r) ∧ All isEnd e₀ ∧ All (fun c => !isDelim c) option ∧
      Ends isDelim r ∧ strtok (r ++ equals :: (v ++ tail)).tail = some (token, more) := by
  have other : ¬ All isDelim k :=
    fun delims => spoken.opens.nonblank (all_isSpace (all_isEnd delims spoken.absent))
  obtain ⟨d, w, r, split, delims, nonempty, inside, ends, -⟩ := word_split other
  have absent : equals ∉ d := fun member => spoken.absent (split ▸ List.mem_append_left _ member)
  have ends' : Ends isDelim (r ++ equals :: (v ++ tail)) := by
    obtain _ | ⟨c, r⟩ := r
    · exact ends_cons.mpr (by decide)
    · exact ends
  have first : strtok line = some (w, (r ++ equals :: (v ++ tail)).tail) := by
    rw [spoken.joined, split, List.append_assoc, List.append_assoc]
    exact (word_all delims).trans (word_append_ends nonempty inside ends')
  rw [words, first, Option.bind_some, Option.map_eq_some_iff] at found
  obtain ⟨⟨token', more⟩, second, same⟩ := found
  obtain ⟨rfl, rfl⟩ := Prod.mk.inj same
  exact ⟨d, r, more, split, all_isEnd delims absent, inside, ends, second⟩

theorem Spoken.free_option {e r : Bytes} (spoken : Spoken line k v tail)
    (split : k = e ++ (option ++ r)) : NoComment option := by
  have free := spoken.free.left
  rw [split] at free
  exact free.right.left

theorem Spoken.trim_option (spoken : Spoken line k v tail) (texts : TwoTexts line option token) :
    gaConfTrim option = trim isSpace option := by
  obtain ⟨e, r, more, split, -⟩ := spoken.first texts.1
  exact gaConfTrim_self (spoken.free_option split) texts.2.1.opens.noSection

theorem delims_of_blank {r s more : Bytes} (blank : All isSpace r) (ends : Ends isDelim r)
    (second : strtok (r ++ equals :: s).tail = some (token, more)) (text : HasText token) :
    All isDelim r := by
  obtain _ | ⟨c, r⟩ := r
  · exact all_nil
  · by_contra other
    have later : ¬ All isDelim r := fun delims => other (all_cons.mpr ⟨ends_cons.mp ends, delims⟩)
    obtain ⟨d, w, r', rfl, delims, nonempty, inside, ends', -⟩ := word_split later
    have ends'' : Ends isDelim (r' ++ equals :: s) := by
      obtain _ | ⟨x, r'⟩ := r'
      · exact ends_cons.mpr (by decide)
      · exact ends'
    rw [List.cons_append, List.tail_cons, List.append_assoc, List.append_assoc] at second
    have found := ((word_all delims).trans (word_append_ends nonempty inside ends'')).symm.trans second
    obtain ⟨rfl, -⟩ := Prod.mk.inj (Option.some.inj found)
    have blank' := (all_append.mp (all_append.mp (all_cons.mp blank).2).2).1
    exact blank_not_hasText blank' text

theorem opens_of_hasText {w t : Bytes} (text : HasText (w ++ t)) (ends : t = [] ∨ StartsComment t) :
    Opens w := by
  by_cases blank : All isSpace w
  · exfalso
    unfold HasText at text
    rw [dropWhile_all blank] at text
    rcases ends with rfl | starts
    · exact text.1 rfl
    · exact starts.not_hasText text
  · refine ⟨blank, ?_⟩
    intro starts
    have noSection := text.2.1
    rw [dropWhile_append_of_not_all blank, List.head?_append, starts, Option.some_or] at noSection
    exact noSection rfl

end

end GamingAnywhere.Config
