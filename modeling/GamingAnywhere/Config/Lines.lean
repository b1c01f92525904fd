import GamingAnywhere.Config.Store
import GamingAnywhere.Lib.Text

/-!
# Configuration lines

`ga_conf_parse` and `ga_conf_trim`. The line is split at `'='`, CR and LF first, and each of the first
two words is trimmed of blanks and comments on its own. A string is its bytes up to the terminating
zero.
-/

namespace GamingAnywhere.Config
open Lib

def hash : UInt8 := 35

def slash : UInt8 := 47

def semicolon : UInt8 := 59

def equals : UInt8 := 61

def leftBracket : UInt8 := 91

def rightBracket : UInt8 := 93

def includeOption : Bytes := [105, 110, 99, 108, 117, 100, 101]

def isSpace (c : UInt8) : Bool := c = 32 ∨ 9 ≤ c ∧ c ≤ 13

def isDelim (c : UInt8) : Bool := c = equals ∨ c = 10 ∨ c = 13

/-! ## `ga_conf_trim` -/

/-- The string once a zero has been written at the first `c`. -/
def cutAt (c : UInt8) (s : Bytes) : Bytes := s.takeWhile fun x => x ≠ c

/-- The first slash is looked at, and cuts the string if another one follows it. -/
def cutSlashes : Bytes → Bytes
  | [] => []
  | c :: rest =>
      if c = slash then if rest.head? = some slash then [] else c :: rest
      else c :: cutSlashes rest

def removeComments (buf : Bytes) : Bytes :=
  cutAt hash (cutSlashes (cutAt semicolon (cutAt hash buf)))

def gaConfTrim (buf : Bytes) : Bytes :=
  let buf := buf.dropWhile isSpace
  if buf.head? = some leftBracket then [] else (removeComments buf).rdropWhile isSpace

/-! ## `ga_conf_parse` -/

/-- `strtok_r`, with `saveptr`. -/
def strtok (s : Bytes) : Option (Bytes × Bytes) := Text.word isDelim s

inductive Parsed
  | ignored
  | included (token : Bytes)
  | malformed
  | assigned (option token : Bytes)
  | mapassigned (option key token : Bytes)
  deriving DecidableEq

/-- `ga_conf_parse` from the search for a left bracket on. -/
def bracketed (option token : Bytes) : Parsed :=
  if leftBracket ∉ option then .assigned option token
  else
    let name := cutAt leftBracket option
    let behind := option.drop (name.length + 1)
    if rightBracket ∉ behind then .malformed
    else
      let key := cutAt rightBracket behind
      if key = [] then .malformed
      else if behind.drop (key.length + 1) ≠ [] then .malformed
      else .mapassigned name key token

def parsed (buf : Bytes) : Parsed :=
  match strtok buf with
  | none => .ignored
  | some (option, saveptr) =>
      let option := gaConfTrim option
      if option = [] then .ignored
      else
        match strtok saveptr with
        | none => .ignored
        | some (token, _) =>
            let token := gaConfTrim token
            if token = [] then .ignored
            else if option = includeOption then .included token
            else bracketed option token

/-- `ga_conf_parse`. `load` is what it does with an include; `none` where that does not return. -/
def gaConfParse (load : Bytes → GaVars → Option (Int × GaVars)) (buf : Bytes) (gaVars : GaVars) :
    Option (Int × GaVars) :=
  match parsed buf with
  | .ignored => some (0, gaVars)
  | .included token => load token gaVars
  | .malformed => some (-1, gaVars)
  | .assigned option token => some (0, gaConfWritev gaVars option token)
  | .mapassigned option key token => some (0, gaConfMapwritev gaVars option key token)

/-! ## Comments -/

def StartsComment (s : Bytes) : Prop :=
  s.head? = some hash ∨ s.head? = some semicolon ∨ s.take 2 = [slash, slash]

instance (s : Bytes) : Decidable (StartsComment s) := inferInstanceAs (Decidable (_ ∨ _))

def NoComment : Bytes → Prop
  | [] => True
  | c :: rest => ¬ StartsComment (c :: rest) ∧ NoComment rest

instance decidableNoComment : (s : Bytes) → Decidable (NoComment s)
  | [] => isTrue trivial
  | _ :: rest => @instDecidableAnd _ _ inferInstance (decidableNoComment rest)

/-- No pair of slashes lies across the end of one text and the beginning of the next. -/
def Joins (s t : Bytes) : Prop := s.getLast? = some slash → t.head? ≠ some slash

variable {s t : Bytes} {c : UInt8}

theorem not_startsComment_nil : ¬ StartsComment [] := by decide

theorem startsComment_cons :
    StartsComment (c :: s) ↔ c = hash ∨ c = semicolon ∨ c = slash ∧ s.head? = some slash := by
  cases s <;> simp [StartsComment]

theorem StartsComment.append (starts : StartsComment s) (t : Bytes) : StartsComment (s ++ t) := by
  cases s with
  | nil => exact absurd starts not_startsComment_nil
  | cons c s =>
      rw [List.cons_append, startsComment_cons]
      rcases startsComment_cons.mp starts with first | first | ⟨first, second⟩
      · exact .inl first
      · exact .inr (.inl first)
      · refine .inr (.inr ⟨first, ?_⟩)
        rw [List.head?_append, second, Option.some_or]

theorem NoComment.left (free : NoComment (s ++ t)) : NoComment s := by
  induction s with
  | nil => trivial
  | cons c s ih => exact ⟨fun starts => free.1 (starts.append t), ih free.2⟩

theorem NoComment.right (free : NoComment (s ++ t)) : NoComment t := by
  induction s with
  | nil => exact free
  | cons c s ih => exact ih free.2

theorem Joins.of_cons {d : UInt8} (joins : Joins (c :: d :: s) t) : Joins (d :: s) t := by
  rwa [Joins, List.getLast?_cons_cons] at joins

theorem NoComment.append (free : NoComment s) (free' : NoComment t) (joins : Joins s t) :
    NoComment (s ++ t) := by
  induction s with
  | nil => exact free'
  | cons c s ih =>
      cases s with
      | nil =>
          refine ⟨?_, free'⟩
          change ¬ StartsComment (c :: t)
          rw [startsComment_cons]
          rintro (first | first | ⟨rfl, second⟩)
          · exact free.1 (startsComment_cons.mpr (.inl first))
          · exact free.1 (startsComment_cons.mpr (.inr (.inl first)))
          · exact joins rfl second
      | cons d s =>
          refine ⟨?_, ih free.2 joins.of_cons⟩
          change ¬ StartsComment (c :: d :: (s ++ t))
          rw [startsComment_cons, List.head?_cons]
          intro starts
          exact free.1 (startsComment_cons.mpr starts)

theorem NoComment.hash_not_mem (free : NoComment s) : hash ∉ s := by
  induction s with
  | nil => exact List.not_mem_nil
  | cons c s ih =>
      rw [List.mem_cons]
      rintro (rfl | later)
      · exact free.1 (startsComment_cons.mpr (.inl rfl))
      · exact ih free.2 later

theorem NoComment.semicolon_not_mem (free : NoComment s) : semicolon ∉ s := by
  induction s with
  | nil => exact List.not_mem_nil
  | cons c s ih =>
      rw [List.mem_cons]
      rintro (rfl | later)
      · exact free.1 (startsComment_cons.mpr (.inr (.inl rfl)))
      · exact ih free.2 later

/-! ## Removing them -/

theorem cutAt_append (absent : c ∉ s) (t : Bytes) : cutAt c (s ++ t) = s ++ cutAt c t := by
  rw [cutAt, List.takeWhile_append_of_pos, cutAt]
  intro x member
  exact decide_eq_true fun same => absent (same ▸ member)

theorem cutAt_self (absent : c ∉ s) : cutAt c s = s := by
  have cut := cutAt_append absent []
  have nothing : cutAt c [] = [] := rfl
  rwa [List.append_nil, nothing, List.append_nil] at cut

theorem cutAt_cons_self (s : Bytes) : cutAt c (c :: s) = [] := by simp [cutAt]

theorem cutAt_cons {d : UInt8} (other : d ≠ c) (s : Bytes) : cutAt c (d :: s) = d :: cutAt c s := by
  simp [cutAt, other]

theorem cutSlashes_append (absent : slash ∉ s) (t : Bytes) :
    cutSlashes (s ++ t) = s ++ cutSlashes t := by
  induction s with
  | nil => rfl
  | cons x s ih =>
      have other : x ≠ slash := fun same => absent (same ▸ List.mem_cons_self)
      rw [List.cons_append, cutSlashes, if_neg other, ih (List.not_mem_of_not_mem_cons absent),
        List.cons_append]

theorem cutSlashes_of_mem (free : NoComment s) (alone : slash ∈ s) (joins : Joins s t) :
    cutSlashes (s ++ t) = s ++ t := by
  induction s with
  | nil => cases alone
  | cons c s ih =>
      rw [List.cons_append, cutSlashes]
      by_cases here : c = slash
      · have single : (s ++ t).head? ≠ some slash := by
          cases s with
          | nil => exact joins (by rw [here, List.getLast?_singleton])
          | cons d s =>
              intro second
              exact free.1 (startsComment_cons.mpr (.inr (.inr ⟨here, second⟩)))
        rw [if_pos here, if_neg single]
      · have later : slash ∈ s := (List.mem_cons.mp alone).resolve_left (Ne.symm here)
        have joins : Joins s t := by
          cases s with
          | nil => cases later
          | cons d s => exact joins.of_cons
        rw [if_neg here, ih free.2 later joins]

theorem cutSlashes_self (free : NoComment s) : cutSlashes s = s := by
  by_cases alone : slash ∈ s
  · have whole := cutSlashes_of_mem (t := []) free alone nofun
    rwa [List.append_nil] at whole
  · have whole := cutSlashes_append alone []
    rwa [List.append_nil, cutSlashes, List.append_nil] at whole

theorem removeComments_self (free : NoComment s) : removeComments s = s := by
  rw [removeComments, cutAt_self free.hash_not_mem, cutAt_self free.semicolon_not_mem,
    cutSlashes_self free, cutAt_self free.hash_not_mem]

theorem removeComments_comment (free : NoComment s) (starts : StartsComment t)
    (slashes : t.head? = some slash → slash ∉ s) : removeComments (s ++ t) = s := by
  cases t with
  | nil => exact absurd starts not_startsComment_nil
  | cons c t =>
      have whole := removeComments_self free
      unfold removeComments at whole ⊢
      rw [cutAt_append free.hash_not_mem]
      rcases startsComment_cons.mp starts with rfl | rfl | ⟨rfl, second⟩
      · rw [cutAt_cons_self, List.append_nil]
        rwa [cutAt_self free.hash_not_mem] at whole
      · rw [cutAt_cons (by decide), cutAt_append free.semicolon_not_mem, cutAt_cons_self, List.append_nil,
          cutSlashes_self free, cutAt_self free.hash_not_mem]
      · obtain ⟨t, rfl⟩ : ∃ rest, t = slash :: rest := by
          cases t with
          | nil => cases second
          | cons d t => exact ⟨t, by rw [Option.some.inj second]⟩
        rw [cutAt_cons (by decide), cutAt_cons (by decide), cutAt_append free.semicolon_not_mem,
          cutAt_cons (by decide), cutAt_cons (by decide), cutSlashes_append (slashes rfl), cutSlashes,
          if_pos rfl, if_pos List.head?_cons, List.append_nil, cutAt_self free.hash_not_mem]

theorem removeComments_slashes (free : NoComment s) (alone : slash ∈ s)
    (joins : s.getLast? ≠ some slash) (t : Bytes) :
    ∃ rest, removeComments (s ++ slash :: slash :: t) = s ++ slash :: slash :: rest := by
  refine ⟨cutAt hash (cutAt semicolon (cutAt hash t)), ?_⟩
  unfold removeComments
  rw [cutAt_append free.hash_not_mem, cutAt_cons (by decide), cutAt_cons (by decide),
    cutAt_append free.semicolon_not_mem, cutAt_cons (by decide), cutAt_cons (by decide),
    cutSlashes_of_mem free alone fun last => absurd last joins, cutAt_append free.hash_not_mem,
    cutAt_cons (by decide), cutAt_cons (by decide)]

theorem prefix_cutSlashes (s : Bytes) : cutSlashes s <+: s := by
  induction s with
  | nil => exact List.nil_prefix
  | cons c s ih =>
      rw [cutSlashes]
      split_ifs
      · exact List.nil_prefix
      · exact List.prefix_refl _
      · exact List.prefix_cons_inj c |>.mpr ih

theorem prefix_removeComments (s : Bytes) : removeComments s <+: s :=
  (List.takeWhile_prefix _).trans <| (prefix_cutSlashes _).trans <|
    (List.takeWhile_prefix _).trans (List.takeWhile_prefix _)

theorem removeComments_cons (free : ¬ StartsComment (c :: s)) :
    ∃ rest, removeComments (c :: s) = c :: rest := by
  rw [startsComment_cons, not_or, not_or, not_and] at free
  obtain ⟨noHash, noSemicolon, noSlashes⟩ := free
  unfold removeComments
  rw [cutAt_cons noHash, cutAt_cons noSemicolon, cutSlashes]
  by_cases first : c = slash
  · have prefix' : cutAt semicolon (cutAt hash s) <+: s :=
      (List.takeWhile_prefix _).trans (List.takeWhile_prefix _)
    have single : (cutAt semicolon (cutAt hash s)).head? ≠ some slash := by
      intro second
      obtain ⟨cut, joined⟩ := prefix'
      refine noSlashes first ?_
      rw [← joined, List.head?_append, second, Option.some_or]
    rw [if_pos first, if_neg single, cutAt_cons noHash]
    exact ⟨_, rfl⟩
  · rw [if_neg first, cutAt_cons noHash]
    exact ⟨_, rfl⟩

/-! ## Trimming -/

/-- Something is left of the text when it is trimmed: its first character that is no blank begins
neither a section nor a comment. -/
def HasText (s : Bytes) : Prop :=
  s.dropWhile isSpace ≠ [] ∧ (s.dropWhile isSpace).head? ≠ some leftBracket ∧
    ¬ StartsComment (s.dropWhile isSpace)

instance (s : Bytes) : Decidable (HasText s) := inferInstanceAs (Decidable (_ ∧ _))

theorem mem_of_mem_gaConfTrim (member : c ∈ gaConfTrim s) : c ∈ s := by
  unfold gaConfTrim at member
  dsimp only at member
  split_ifs at member
  · cases member
  · have kept := (prefix_removeComments _).subset ((List.rdropWhile_prefix _ _).subset member)
    exact (List.dropWhile_suffix _).subset kept

theorem gaConfTrim_ne_nil_iff (s : Bytes) : gaConfTrim s ≠ [] ↔ HasText s := by
  unfold gaConfTrim HasText
  cases dropped : s.dropWhile isSpace with
  | nil => simp [removeComments, cutAt, cutSlashes]
  | cons c rest =>
      have nonblank := Text.not_head_dropWhile dropped
      by_cases section' : c = leftBracket
      · simp [section']
      · have open' : (c :: rest).head? ≠ some leftBracket := by simpa using section'
        dsimp only
        rw [if_neg open']
        by_cases starts : StartsComment (c :: rest)
        · have nothing := removeComments_comment (s := []) trivial starts fun _ => List.not_mem_nil
          rw [List.nil_append] at nothing
          simp [nothing, starts]
        · obtain ⟨more, kept⟩ := removeComments_cons starts
          rw [kept, ne_eq, List.rdropWhile_eq_nil_iff]
          simp [nonblank, starts, section']

structure Opens (s : Bytes) : Prop where
  nonblank : ¬ Text.All isSpace s
  noSection : (s.dropWhile isSpace).head? ≠ some leftBracket

theorem HasText.opens (text : HasText s) : Opens s :=
  ⟨fun blank => text.1 (Text.dropWhile_eq_nil_iff.mpr blank), text.2.1⟩

theorem NoComment.dropWhile (free : NoComment s) : NoComment (s.dropWhile isSpace) := by
  rw [← List.takeWhile_append_dropWhile (p := isSpace) (l := s)] at free
  exact free.right

theorem Opens.hasText (opens : Opens s) (free : NoComment s) : HasText s := by
  refine ⟨fun empty => opens.1 (Text.dropWhile_eq_nil_iff.mp empty), opens.2, ?_⟩
  have free' := free.dropWhile
  cases dropped : s.dropWhile isSpace with
  | nil => exact not_startsComment_nil
  | cons c rest =>
      rw [dropped] at free'
      exact free'.1

theorem gaConfTrim_self (free : NoComment s) (noSection : (s.dropWhile isSpace).head? ≠ some leftBracket) :
    gaConfTrim s = Text.trim isSpace s := by
  rw [gaConfTrim, if_neg noSection, removeComments_self free.dropWhile, Text.trim]

theorem Opens.append (opens : Opens s) (t : Bytes) : Opens (s ++ t) := by
  refine ⟨fun blank => opens.nonblank (Text.all_append.mp blank).1, ?_⟩
  rw [Text.dropWhile_append_of_not_all opens.nonblank]
  cases dropped : s.dropWhile isSpace with
  | nil => exact absurd (Text.dropWhile_eq_nil_iff.mp dropped) opens.nonblank
  | cons c rest =>
      have noSection := opens.noSection
      rw [dropped] at noSection
      exact noSection

theorem gaConfTrim_comment (opens : Opens s) (free : NoComment s) (starts : StartsComment t)
    (slashes : t.head? = some slash → slash ∉ s) :
    gaConfTrim (s ++ t) = Text.trim isSpace s := by
  have absent : t.head? = some slash → slash ∉ s.dropWhile isSpace :=
    fun first member => slashes first ((List.dropWhile_suffix _).subset member)
  have noSection := (opens.append t).noSection
  rw [gaConfTrim, if_neg noSection, Text.dropWhile_append_of_not_all opens.nonblank,
    removeComments_comment free.dropWhile starts absent, Text.trim]

end GamingAnywhere.Config
