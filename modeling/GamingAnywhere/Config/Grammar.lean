import GamingAnywhere.Config.Lines

namespace GamingAnywhere.Config
open Lib Text

def cutComments : Bytes → Bytes
  | [] => []
  | c :: rest => if StartsComment (c :: rest) then [] else c :: cutComments rest

def keyPart (line : Bytes) : Bytes := (cutComments line).takeWhile fun c => c ≠ equals

def valuePart (line : Bytes) : Bytes := ((cutComments line).dropWhile fun c => c ≠ equals).tail

def keyText (line : Bytes) : Bytes := trim isSpace (keyPart line)

def valueText (line : Bytes) : Bytes := trim isSpace (valuePart line)

def Silent (line : Bytes) : Prop :=
  ((cutComments line).dropWhile isSpace).head? = some leftBracket ∨ equals ∉ cutComments line ∨
    keyText line = [] ∨ valueText line = []

instance (line : Bytes) : Decidable (Silent line) := inferInstanceAs (Decidable (_ ∨ _))

structure SubKey (key name sub : Bytes) : Prop where
  form : key = name ++ leftBracket :: (sub ++ [rightBracket])
  noLeft : leftBracket ∉ name
  noRight : rightBracket ∉ sub
  nonempty : sub ≠ []

def Malformed (key : Bytes) : Prop := leftBracket ∈ key ∧ ∀ name sub, ¬ SubKey key name sub

inductive Meaning
  | nothing
  | store (key value : Bytes)
  | mapstore (name sub value : Bytes)
  | refuse

inductive Means (line : Bytes) : Meaning → Prop
  | nothing : Silent line → Means line .nothing
  | store : ¬ Silent line → leftBracket ∉ keyText line →
      Means line (.store (keyText line) (valueText line))
  | mapstore {name sub : Bytes} : ¬ Silent line → SubKey (keyText line) name sub →
      Means line (.mapstore name sub (valueText line))
  | refuse : ¬ Silent line → Malformed (keyText line) → Means line .refuse

def Meaning.effect (gaVars : GaVars) : Meaning → Int × GaVars
  | nothing => (0, gaVars)
  | store key value => (0, gaConfWritev gaVars key value)
  | mapstore name sub value => (0, gaConfMapwritev gaVars name sub value)
  | refuse => (-1, gaVars)

def ReadRight (line : Bytes) : Prop :=
  ∀ load gaVars, ∃ meaning, Means line meaning ∧
    gaConfParse load line gaVars = some (meaning.effect gaVars)

section
variable {key key' name sub value value' : Bytes} {c : UInt8} {s : Bytes}

theorem cutAt_split (member : c ∈ s) :
    s = cutAt c s ++ c :: s.drop ((cutAt c s).length + 1) := by
  induction s with
  | nil => cases member
  | cons d s ih =>
      by_cases here : d = c
      · rw [here, cutAt_cons_self]
        rfl
      · have later : c ∈ s := (List.mem_cons.mp member).resolve_left (Ne.symm here)
        rw [cutAt_cons here]
        exact congrArg (d :: ·) (ih later)

theorem cutAt_prefix (absent : c ∉ s) (t : Bytes) : cutAt c (s ++ c :: t) = s := by
  rw [cutAt_append absent, cutAt_cons_self, List.append_nil]

theorem not_mem_cutAt (c : UInt8) (s : Bytes) : c ∉ cutAt c s := by
  intro member
  have passed := List.mem_takeWhile_imp member
  simp at passed

theorem bracketed_of_subKey (form : SubKey key name sub) (value : Bytes) :
    bracketed key value = .mapassigned name sub value := by
  obtain ⟨rfl, noLeft, noRight, nonempty⟩ := form
  have member : leftBracket ∈ name ++ leftBracket :: (sub ++ [rightBracket]) := by simp
  have behind : (name ++ leftBracket :: (sub ++ [rightBracket])).drop (name.length + 1) =
      sub ++ [rightBracket] := by
    rw [← List.drop_drop, List.drop_left, List.drop_one, List.tail_cons]
  rw [bracketed, if_neg (not_not.mpr member), cutAt_prefix noLeft]
  dsimp only
  rw [behind, if_neg (by simp), cutAt_prefix noRight, if_neg nonempty, if_neg (by simp)]

theorem bracketed_cases (key value : Bytes) :
    (leftBracket ∉ key ∧ bracketed key value = .assigned key value) ∨
      (∃ name sub, SubKey key name sub ∧ bracketed key value = .mapassigned name sub value) ∨
      Malformed key ∧ bracketed key value = .malformed := by
  by_cases member : leftBracket ∈ key
  · refine .inr ?_
    by_cases form : ∃ name sub, SubKey key name sub
    · obtain ⟨name, sub, form⟩ := form
      exact .inl ⟨name, sub, form, bracketed_of_subKey form value⟩
    · have malformed : ∀ name sub, ¬ SubKey key name sub :=
        fun name sub shape => form ⟨name, sub, shape⟩
      refine .inr ⟨⟨member, malformed⟩, ?_⟩
      have split := cutAt_split member
      rw [bracketed, if_neg (not_not.mpr member)]
      dsimp only
      by_cases right : rightBracket ∈ key.drop ((cutAt leftBracket key).length + 1)
      · rw [if_neg (not_not.mpr right)]
        have split' := cutAt_split right
        split_ifs with empty garbage
        · rfl
        · rfl
        · rw [not_not.mp garbage] at split'
          refine absurd ⟨?_, not_mem_cutAt _ _, not_mem_cutAt _ _, empty⟩ (malformed (cutAt leftBracket key) _)
          rw [← split', ← split]
      · rw [if_pos right]
  · exact .inl ⟨member, if_pos member⟩

theorem bracketed_of_malformed (malformed : Malformed key) (value : Bytes) :
    bracketed key value = .malformed := by
  rcases bracketed_cases key value with ⟨none, -⟩ | ⟨name, sub, form, -⟩ | ⟨-, result⟩
  · exact absurd malformed.1 none
  · exact absurd form (malformed.2 name sub)
  · exact result

theorem bracketed_ne_ignored (key value : Bytes) : bracketed key value ≠ .ignored := by
  rcases bracketed_cases key value with ⟨-, result⟩ | ⟨_, _, -, result⟩ | ⟨-, result⟩
  all_goals
    rw [result]
    exact nofun

theorem bracketed_eq_iff :
    bracketed key value = bracketed key' value' ↔
      key = key' ∧ value = value' ∨ Malformed key ∧ Malformed key' := by
  constructor
  · intro same
    rcases bracketed_cases key value with ⟨-, first⟩ | ⟨name, sub, form, first⟩ | ⟨bad, first⟩ <;>
    rcases bracketed_cases key' value' with ⟨-, second⟩ | ⟨name', sub', form', second⟩ | ⟨bad', second⟩ <;>
    rw [first, second] at same <;> cases same
    · exact .inl ⟨rfl, rfl⟩
    · exact .inl ⟨form.form.trans form'.form.symm, rfl⟩
    · exact .inr ⟨bad, bad'⟩
  · rintro (⟨rfl, rfl⟩ | ⟨bad, bad'⟩)
    · rfl
    · rw [bracketed_of_malformed bad, bracketed_of_malformed bad']

end

def Meaning.parsed : Meaning → Parsed
  | nothing => .ignored
  | store key value => .assigned key value
  | mapstore name sub value => .mapassigned name sub value
  | refuse => .malformed

theorem parsed_of_effect {load : Bytes → GaVars → Option (Int × GaVars)} {line : Bytes}
    {meaning : Meaning} (noInclude : ∀ token, parsed line ≠ .included token)
    (result : gaConfParse load line .empty = some (meaning.effect .empty)) :
    parsed line = meaning.parsed := by
  unfold gaConfParse at result
  cases read : parsed line with
  | included token => exact absurd read (noInclude token)
  | ignored | malformed | assigned option token | mapassigned option key token =>
      rw [read] at result
      cases meaning
      all_goals
        simp [Meaning.effect, Meaning.parsed, gaConfWritev, gaConfMapwritev, OrderedMap.insert,
          OrderedMap.empty, OrderedMap.insertEntry, OrderedMap.find, GaConfVar.assign, GaConfVar.put,
          GaConfVar.clear] at result ⊢
      all_goals exact result

theorem readRight_iff {line : Bytes} (noInclude : ∀ token, parsed line ≠ .included token) :
    ReadRight line ↔
      parsed line = if Silent line then .ignored else bracketed (keyText line) (valueText line) := by
  constructor
  · intro right
    obtain ⟨meaning, means, result⟩ := right (fun _ _ => none) .empty
    rw [parsed_of_effect noInclude result]
    cases means with
    | nothing silent => rw [if_pos silent, Meaning.parsed]
    | store spoken plain => rw [if_neg spoken, Meaning.parsed, bracketed, if_pos plain]
    | mapstore spoken form => rw [if_neg spoken, Meaning.parsed, bracketed_of_subKey form]
    | refuse spoken bad => rw [if_neg spoken, Meaning.parsed, bracketed_of_malformed bad]
  · intro read load gaVars
    unfold gaConfParse
    rw [read]
    split_ifs with silent
    · exact ⟨.nothing, .nothing silent, rfl⟩
    · rcases bracketed_cases (keyText line) (valueText line) with
        ⟨plain, result⟩ | ⟨name, sub, form, result⟩ | ⟨bad, result⟩
      · exact ⟨_, .store silent plain, by rw [result]; rfl⟩
      · exact ⟨_, .mapstore silent form, by rw [result]; rfl⟩
      · exact ⟨_, .refuse silent bad, by rw [result]; rfl⟩

end GamingAnywhere.Config
