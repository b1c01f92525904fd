import GamingAnywhere.Config.Assignments
import GamingAnywhere.Config.Dictionary
import GamingAnywhere.Config.Loading

namespace GamingAnywhere.Config
open Lib Text

/-! ## Lines that say what they assign -/

inductive Assign
  | var (key value : Bytes)
  | entry (mapname key value : Bytes)

namespace Assign

def option : Assign → Bytes
  | var key _ => key
  | entry mapname key _ => mapname ++ leftBracket :: (key ++ [rightBracket])

def value : Assign → Bytes
  | var _ value | entry _ _ value => value

def call : Assign → Call
  | var key value => .writev key value
  | entry mapname key value => .mapwritev mapname key value

def line (a : Assign) : Bytes := assignment [] (a.option ++ [32]) [] [] (32 :: a.value) [10]

def HasForm : Assign → Prop
  | var key _ => leftBracket ∉ key
  | entry mapname key _ => leftBracket ∉ mapname ∧ rightBracket ∉ key ∧ key ≠ []

end Assign

def fileOf (as : List Assign) : Bytes := as.flatMap Assign.line

structure Writable (s : Bytes) : Prop where
  word : Word s
  trimmed : trim isSpace s = s
  plain : 0 ∉ s

structure Assign.Writable (a : Assign) : Prop where
  option : Config.Writable a.option
  value : Config.Writable a.value
  form : a.HasForm
  notInclude : a.option ≠ includeOption
  short : a.option.length + a.value.length ≤ 8187

section
variable {s : Bytes} {a : Assign} {as : List Assign}

theorem Writable.option (writable : Writable s) : Word (s ++ [32]) where
  inside := all_append.mpr ⟨writable.word.inside, by decide⟩
  free := writable.word.free.append (by decide) (.of_right (by decide))
  opens := writable.word.opens.append [32]

theorem Writable.value (writable : Writable s) : Word (32 :: s) where
  inside := all_cons.mpr ⟨by decide, writable.word.inside⟩
  free := ⟨fun starts => by simp [startsComment_cons, hash, semicolon, slash] at starts, writable.word.free⟩
  opens := writable.word.opens.append_left (e := [32]) (by decide)

theorem Assign.Writable.plain (writable : a.Writable) :
    PlainAssignment [] (a.option ++ [32]) [] [] (32 :: a.value) [10] :=
  ⟨all_nil, writable.option.option, all_nil, all_nil, writable.value.value, .ended (by decide) all_nil⟩

theorem Assign.HasForm.bracketed (form : a.HasForm) :
    ∀ load gaVars, parsed s = bracketed a.option a.value →
      gaConfParse load s gaVars = some (0, a.call.apply gaVars) := by
  intro load gaVars parses
  cases a with
  | var key value =>
      have reads : Config.bracketed (Assign.var key value).option value = .assigned key value := if_pos form
      rw [Assign.value, reads] at parses
      rw [gaConfParse, parses]
      rfl
  | entry mapname key value =>
      obtain ⟨noLeft, noRight, nonempty⟩ := form
      have reads := bracketed_of_subKey ⟨rfl, noLeft, noRight, nonempty⟩ value
      rw [Assign.value, Assign.option, reads] at parses
      rw [gaConfParse, parses]
      rfl

theorem Assign.Writable.parse (writable : a.Writable) (load : Bytes → GaVars → Option (Int × GaVars))
    (gaVars : GaVars) : gaConfParse load a.line gaVars = some (0, a.call.apply gaVars) := by
  obtain ⟨token, texts, key, value⟩ := writable.plain.tokens
  rw [trim_append_right (b := [32]) (by decide), writable.option.trimmed] at key
  rw [← List.singleton_append, trim_append_left (by decide), writable.value.trimmed] at value
  refine writable.form.bracketed load gaVars ?_
  rw [Assign.line, parsed_of_twoTexts texts (by rw [key]; exact writable.notInclude), key, value]

/-! ## The lines of the file -/

theorem Assign.line_eq (a : Assign) :
    a.line = a.option ++ 32 :: equals :: 32 :: a.value ++ [10] := by
  simp [line, assignment]

theorem Writable.newline_not_mem (writable : Config.Writable s) : 10 ∉ s :=
  fun member => absurd (writable.word.inside 10 member) (by decide)

theorem lineLength_append (absent : 10 ∉ s) (rest : Bytes) :
    lineLength (s ++ 10 :: rest) = s.length + 1 := by
  induction s with
  | nil => rfl
  | cons c s ih =>
      obtain ⟨other, absent⟩ := List.ne_and_not_mem_of_not_mem_cons absent
      rw [List.cons_append, lineLength, if_neg other.symm, ih absent, List.length_cons]

theorem Assign.Writable.fgets (writable : a.Writable) (rest : Bytes) :
    fgets (a.line ++ rest) = some (a.line, rest) := by
  have absent : 10 ∉ a.option ++ 32 :: equals :: 32 :: a.value := by
    have option := writable.option.newline_not_mem
    have value := writable.value.newline_not_mem
    simp [option, value, equals]
  have length : lineLength (a.line ++ rest) = a.line.length := by
    rw [a.line_eq, List.append_assoc, List.singleton_append, lineLength_append absent]
    simp only [List.length_append, List.length_singleton]
  have short : a.line.length ≤ 8191 := by
    have short := writable.short
    rw [a.line_eq]
    simp only [List.length_append, List.length_cons, List.length_nil]
    omega
  have some' : a.line ++ rest ≠ [] := by rw [a.line_eq]; simp
  rw [Config.fgets, if_neg some', length, Nat.min_eq_left short, List.take_left, List.drop_left]

theorem fileLines_fileOf (writable : ∀ a ∈ as, a.Writable) : fileLines (fileOf as) = as.map Assign.line := by
  induction as with
  | nil => exact fileLines_nil
  | cons a as ih =>
      obtain ⟨here, later⟩ := List.forall_mem_cons.mp writable
      rw [fileOf, List.flatMap_cons, fileLines_of_fgets (here.fgets _), List.map_cons]
      exact congrArg _ (ih later)

theorem Assign.Writable.cutAt (writable : a.Writable) : cutAt 0 a.line = a.line := by
  refine cutAt_self ?_
  have option := writable.option.plain
  have value := writable.value.plain
  rw [a.line_eq]
  simp [option, value, equals]

theorem loadLoop_lines (writable : ∀ a ∈ as, a.Writable) (load : Bytes → GaVars → Option (Int × GaVars))
    (lineno : Nat) (gaVars : GaVars) :
    loadLoop load (as.map Assign.line) lineno gaVars =
      some (int32 (lineno + as.length : Nat), (as.map Assign.call).foldl Call.apply gaVars) := by
  induction as generalizing lineno gaVars with
  | nil => rfl
  | cons a as ih =>
      obtain ⟨here, later⟩ := List.forall_mem_cons.mp writable
      rw [List.map_cons, loadLoop, here.cutAt, here.parse]
      dsimp only
      rw [if_neg (by decide), ih later, List.length_cons, Nat.add_assoc, Nat.add_comm 1]
      rfl

theorem gaConfLoad_fileOf (writable : ∀ a ∈ as, a.Writable) {fs : FileSystem} {filename : Bytes}
    (opened : fs.fopen filename = some (fileOf as)) (depth : Nat) (gaVars : GaVars) :
    gaConfLoad fs (depth + 1) (some filename) gaVars =
      some (int32 as.length, (as.map Assign.call).foldl Call.apply gaVars) := by
  rw [gaConfLoad, opened]
  dsimp only
  rw [fileLines_fileOf writable, loadLoop_lines writable, Nat.zero_add]

/-! ## What the assignments leave in the store -/

def Assign.name : Assign → Bytes
  | var key _ => key
  | entry mapname _ _ => mapname

theorem find_of_absent {gaVars : GaVars} {key : Bytes} (absent : ∀ a ∈ as, a.name ≠ key) :
    OrderedMap.find ((as.map Assign.call).foldl Call.apply gaVars) key = gaVars.find key := by
  induction as generalizing gaVars with
  | nil => rfl
  | cons a as ih =>
      obtain ⟨here, later⟩ := List.forall_mem_cons.mp absent
      rw [List.map_cons, List.foldl_cons, ih later]
      cases a with
      | var name value | entry name key' value =>
          exact (OrderedMap.find_insert ..).trans (if_neg (Ne.symm here))

theorem find_var {gaVars : GaVars} {key value : Bytes} {before after : List Assign}
    (split : as = before ++ .var key value :: after) (last : ∀ a ∈ after, a.name ≠ key) :
    OrderedMap.find ((as.map Assign.call).foldl Call.apply gaVars) key = some (.assign value) := by
  rw [split, List.map_append, List.map_cons, List.foldl_append, List.foldl_cons, find_of_absent last]
  exact (OrderedMap.find_insert ..).trans (if_pos rfl)

def entries (mapname : Bytes) (m : OrderedMap Bytes Bytes) : List Assign :=
  m.entries.map fun e => .entry mapname e.1 e.2

theorem find_entries_from {gaVars : GaVars} {mapname : Bytes} {v : GaConfVar} (rest : List (Bytes × Bytes))
    (found : gaVars.find mapname = some v) :
    OrderedMap.find (((rest.map fun e => Assign.entry mapname e.1 e.2).map Assign.call).foldl Call.apply gaVars)
      mapname = some { v with mapdata := rest.foldl (fun m e => m.insert e.1 e.2) v.mapdata } := by
  induction rest generalizing gaVars v with
  | nil => exact found
  | cons e rest ih =>
      have first : (Call.apply gaVars (.mapwritev mapname e.1 e.2)).find mapname = some (v.put e.1 e.2) := by
        refine (OrderedMap.find_insert ..).trans ((if_pos rfl).trans ?_)
        rw [found, Option.getD_some]
      exact ih first

theorem find_entries {gaVars : GaVars} {mapname : Bytes} (absent : gaVars.find mapname = none)
    (m : OrderedMap Bytes Bytes) :
    OrderedMap.find (((entries mapname m).map Assign.call).foldl Call.apply gaVars) mapname =
      if m.entries = [] then none else some { GaConfVar.clear with mapdata := m } := by
  cases split : m.entries with
  | nil =>
      rw [entries, split, if_pos rfl]
      exact absent
  | cons e rest =>
      have first : (Call.apply gaVars (.mapwritev mapname e.1 e.2)).find mapname =
          some (GaConfVar.clear.put e.1 e.2) := by
        refine (OrderedMap.find_insert ..).trans ((if_pos rfl).trans ?_)
        rw [absent, Option.getD_none]
      have all := find_entries_from rest first
      have again := m.foldl_insert
      rw [split] at again
      rw [entries, split, if_neg (List.cons_ne_nil _ _)]
      exact all.trans (congrArg (fun m => some { GaConfVar.clear with mapdata := m }) again)

end

end GamingAnywhere.Config
