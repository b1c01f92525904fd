import GamingAnywhere.Config.Lines
import GamingAnywhere.Lib.Acyclic
import Mathlib.Data.Set.Finite.List

/-!
# Loading configuration files

`ga_conf_load`, which reads a file line by line, and goes into each file that a line includes before it
reads on. Nothing counts how deep that is or remembers the files it is in: the number that the model is
given bounds the nesting, and a load that does not return has no result for any number.
-/

namespace GamingAnywhere.Config
open Lib Relation

structure FileSystem where
  fopen : Bytes → Option Bytes
  nameTooLong : ∀ name, 4096 ≤ name.length → fopen name = none

theorem finite_names (n : Nat) : {name : Bytes | name.length < n}.Finite := by
  have bytes : Finite UInt8 := Finite.of_injective UInt8.toFin fun _ _ => UInt8.toFin_inj.mp
  exact List.finite_length_lt UInt8 n

theorem FileSystem.finite (fs : FileSystem) : {name | fs.fopen name ≠ none}.Finite := by
  refine (finite_names 4096).subset ?_
  intro name opened
  by_contra long
  exact opened (fs.nameTooLong name (Nat.not_lt.mp long))

/-! ## Lines -/

def lineLength : Bytes → Nat
  | [] => 0
  | c :: rest => if c = 10 then 1 else lineLength rest + 1

/-- `fgets` into a buffer of 8192 characters: what it reads, and what is left of the file. -/
def fgets (file : Bytes) : Option (Bytes × Bytes) :=
  if file = [] then none
  else some (file.take (min (lineLength file) 8191), file.drop (min (lineLength file) 8191))

theorem lineLength_pos {file : Bytes} (nonempty : file ≠ []) : 0 < lineLength file := by
  cases file with
  | nil => exact absurd rfl nonempty
  | cons c rest =>
      rw [lineLength]
      split_ifs <;> omega

theorem fgets_length {file buf rest : Bytes} (read : fgets file = some (buf, rest)) :
    rest.length < file.length := by
  unfold fgets at read
  split_ifs at read with empty
  simp only [Option.some.injEq, Prod.mk.injEq] at read
  obtain ⟨-, rfl⟩ := read
  have some' := lineLength_pos empty
  have length := List.length_pos_iff.mpr empty
  rw [List.length_drop]
  omega

def fileLines (file : Bytes) : List Bytes :=
  match _read : fgets file with
  | none => []
  | some (buf, rest) => buf :: fileLines rest
termination_by file.length
decreasing_by exact fgets_length _read

theorem fileLines_nil : fileLines [] = [] := by
  rw [fileLines]
  rfl

theorem fileLines_of_fgets {file buf rest : Bytes} (read : fgets file = some (buf, rest)) :
    fileLines file = buf :: fileLines rest := by
  rw [fileLines]
  split
  · next none' => cases none'.symm.trans read
  · next read' =>
      cases read'.symm.trans read
      rfl

/-! ## `ga_conf_load` -/

/-- `dirname`: the name without its last component, and `"."` where that is all it has. -/
def dirname (path : Bytes) : Bytes :=
  let name := path.rdropWhile fun c => c = slash
  let before := if name = [] then path else name.rdropWhile fun c => c ≠ slash
  if before = [] then [46]
  else
    let directory := before.rdropWhile fun c => c = slash
    if directory ≠ [] then directory
    else if before.length = 2 then before
    else [slash]

/-- The name of an included file. A token that fills the buffer leaves it without a terminator; what is
read as the name is no shorter then. -/
def incfile (filename token : Bytes) : Bytes :=
  if token.head? = some slash then token.take 4096
  else (dirname filename ++ slash :: token).take 4095

def loadLoop (load : Bytes → GaVars → Option (Int × GaVars)) :
    List Bytes → Nat → GaVars → Option (Int × GaVars)
  | [], lineno, gaVars => some (int32 lineno, gaVars)
  | buf :: lines, lineno, gaVars =>
      match gaConfParse load (cutAt 0 buf) gaVars with
      | none => none
      | some (ret, gaVars) =>
          if ret < 0 then some (-1, gaVars) else loadLoop load lines (lineno + 1) gaVars

/-- `ga_conf_load`, with at most so many files open at a time. -/
def gaConfLoad (fs : FileSystem) : Nat → Option Bytes → GaVars → Option (Int × GaVars)
  | 0, _, _ => none
  | _ + 1, none, gaVars => some (-1, gaVars)
  | depth + 1, some filename, gaVars =>
      match fs.fopen filename with
      | none => some (-1, gaVars)
      | some file =>
          loadLoop (fun token => gaConfLoad fs depth (some (incfile filename token)))
            (fileLines file) 0 gaVars

def PassesOver (fs : FileSystem) (filename buf : Bytes) : Prop :=
  ∃ depth, ∀ gaVars, ∃ ret gaVars', 0 ≤ ret ∧
    gaConfParse (fun token => gaConfLoad fs depth (some (incfile filename token))) (cutAt 0 buf) gaVars =
      some (ret, gaVars')

def Includes (fs : FileSystem) (filename filename' : Bytes) : Prop :=
  ∃ file before buf after token, fs.fopen filename = some file ∧
    fileLines file = before ++ buf :: after ∧ (∀ line ∈ before, PassesOver fs filename line) ∧
    parsed (cutAt 0 buf) = .included token ∧ filename' = incfile filename token

/-- Loading the file returns, whatever the variables are: the number of its lines, or -1. -/
def LoadReturns (fs : FileSystem) (filename : Bytes) : Prop :=
  ∃ depth, ∀ gaVars, ∃ ret gaVars', gaConfLoad fs depth (some filename) gaVars = some (ret, gaVars') ∧
    (ret = -1 ∨ ∃ file, fs.fopen filename = some file ∧ ret = int32 (fileLines file).length)

/-! ## What is returned

It depends on the files alone. -/

def parseStatus (load : Bytes → Option Int) (buf : Bytes) : Option Int :=
  match parsed buf with
  | .included token => load token
  | .malformed => some (-1)
  | .ignored | .assigned _ _ | .mapassigned _ _ _ => some 0

def loopStatus (load : Bytes → Option Int) : List Bytes → Nat → Option Int
  | [], lineno => some (int32 lineno)
  | buf :: lines, lineno =>
      (parseStatus load (cutAt 0 buf)).bind fun ret =>
        if ret < 0 then some (-1) else loopStatus load lines (lineno + 1)

def loadStatus (fs : FileSystem) : Nat → Bytes → Option Int
  | 0, _ => none
  | depth + 1, filename =>
      match fs.fopen filename with
      | none => some (-1)
      | some file =>
          loopStatus (fun token => loadStatus fs depth (incfile filename token)) (fileLines file) 0

def includeStatus (fs : FileSystem) (depth : Nat) (filename token : Bytes) : Option Int :=
  loadStatus fs depth (incfile filename token)

section

variable {fs : FileSystem} {load : Bytes → GaVars → Option (Int × GaVars)} {load' : Bytes → Option Int}
  {filename filename' file buf token : Bytes} {before after lines : List Bytes} {depth depth' : Nat}
  {ret : Int}

theorem loadStatus_of_fopen_none (closed : fs.fopen filename = none) :
    loadStatus fs (depth + 1) filename = some (-1) := by
  rw [loadStatus, closed]

theorem loadStatus_of_fopen (opened : fs.fopen filename = some file) :
    loadStatus fs (depth + 1) filename = loopStatus (includeStatus fs depth filename) (fileLines file) 0 := by
  rw [loadStatus, opened]
  rfl

theorem gaConfParse_status (same : ∀ token gaVars, (load token gaVars).map Prod.fst = load' token)
    (buf : Bytes) (gaVars : GaVars) :
    (gaConfParse load buf gaVars).map Prod.fst = parseStatus load' buf := by
  unfold gaConfParse parseStatus
  cases parsed buf with
  | included token => exact same token gaVars
  | ignored | malformed | assigned | mapassigned => rfl

theorem loadLoop_status (same : ∀ token gaVars, (load token gaVars).map Prod.fst = load' token)
    (lines : List Bytes) (lineno : Nat) (gaVars : GaVars) :
    (loadLoop load lines lineno gaVars).map Prod.fst = loopStatus load' lines lineno := by
  induction lines generalizing lineno gaVars with
  | nil => rw [loadLoop, loopStatus, Option.map_some]
  | cons buf lines ih =>
      rw [loadLoop, loopStatus, ← gaConfParse_status same _ gaVars]
      cases gaConfParse load (cutAt 0 buf) gaVars with
      | none => rfl
      | some result =>
          obtain ⟨ret, gaVars⟩ := result
          rw [Option.map_some, Option.bind_some]
          dsimp only
          split_ifs
          · rfl
          · exact ih _ _

theorem gaConfLoad_status (fs : FileSystem) (depth : Nat) (filename : Bytes) (gaVars : GaVars) :
    (gaConfLoad fs depth (some filename) gaVars).map Prod.fst = loadStatus fs depth filename := by
  induction depth generalizing filename gaVars with
  | zero => rfl
  | succ depth ih =>
      rw [gaConfLoad, loadStatus]
      cases fs.fopen filename with
      | none => rfl
      | some file =>
          have same := loadLoop_status fun token gaVars => ih (incfile filename token) gaVars
          exact same _ _ _

/-! ## A greater depth -/

variable {less more : Bytes → Option Int}

theorem parseStatus_mono (le : ∀ token ret, less token = some ret → more token = some ret)
    (returned : parseStatus less buf = some ret) : parseStatus more buf = some ret := by
  unfold parseStatus at returned ⊢
  cases line : parsed buf with
  | included token =>
      rw [line] at returned
      exact le token ret returned
  | ignored | malformed | assigned | mapassigned =>
      rw [line] at returned
      exact returned

theorem loopStatus_mono (le : ∀ token ret, less token = some ret → more token = some ret) {lineno : Nat}
    (returned : loopStatus less lines lineno = some ret) :
    loopStatus more lines lineno = some ret := by
  induction lines generalizing lineno with
  | nil => exact returned
  | cons buf lines ih =>
      rw [loopStatus, Option.bind_eq_some_iff] at returned ⊢
      obtain ⟨first, read, rest⟩ := returned
      refine ⟨first, parseStatus_mono le read, ?_⟩
      split_ifs at rest ⊢
      · exact rest
      · exact ih rest

theorem loadStatus_mono (le : depth ≤ depth')
    (returned : loadStatus fs depth filename = some ret) : loadStatus fs depth' filename = some ret := by
  induction depth generalizing depth' filename ret with
  | zero => cases returned
  | succ depth ih =>
      obtain ⟨depth', rfl⟩ : ∃ d, depth' = d + 1 := ⟨depth' - 1, by omega⟩
      rw [loadStatus] at returned ⊢
      cases opened : fs.fopen filename with
      | none =>
          rw [opened] at returned
          exact returned
      | some file =>
          rw [opened] at returned
          exact loopStatus_mono (fun token ret => ih (by omega)) returned

theorem parseStatus_depth (le : depth ≤ depth')
    (returned : parseStatus (includeStatus fs depth filename) buf = some ret) :
    parseStatus (includeStatus fs depth' filename) buf = some ret :=
  parseStatus_mono (fun _ _ => loadStatus_mono le) returned

theorem loopStatus_depth (le : depth ≤ depth') {lineno : Nat}
    (returned : loopStatus (includeStatus fs depth filename) lines lineno = some ret) :
    loopStatus (includeStatus fs depth' filename) lines lineno = some ret :=
  loopStatus_mono (fun _ _ => loadStatus_mono le) returned

/-! ## The loop -/

theorem loopStatus_ret {lineno : Nat} (returned : loopStatus load' lines lineno = some ret) :
    ret = -1 ∨ ret = int32 (lineno + lines.length : Nat) := by
  induction lines generalizing lineno with
  | nil => exact .inr (Option.some.inj returned).symm
  | cons buf lines ih =>
      rw [loopStatus, Option.bind_eq_some_iff] at returned
      obtain ⟨first, -, rest⟩ := returned
      split_ifs at rest
      · exact .inl (Option.some.inj rest).symm
      · rw [List.length_cons, Nat.add_comm lines.length, ← Nat.add_assoc]
        exact ih rest

theorem passesOver_iff :
    PassesOver fs filename buf ↔
      ∃ depth ret, 0 ≤ ret ∧ parseStatus (includeStatus fs depth filename) (cutAt 0 buf) = some ret := by
  have status (depth : Nat) (gaVars : GaVars) := gaConfParse_status
    (fun token gaVars => gaConfLoad_status fs depth (incfile filename token) gaVars) (cutAt 0 buf) gaVars
  constructor
  · rintro ⟨depth, passes⟩
    obtain ⟨ret, gaVars', nonneg, read⟩ := passes .empty
    refine ⟨depth, ret, nonneg, ?_⟩
    have same := status depth .empty
    rw [read, Option.map_some] at same
    exact same.symm
  · rintro ⟨depth, ret, nonneg, read⟩
    refine ⟨depth, fun gaVars => ?_⟩
    have same := (status depth gaVars).trans read
    rw [Option.map_eq_some_iff] at same
    obtain ⟨⟨ret, gaVars'⟩, read', rfl⟩ := same
    exact ⟨ret, gaVars', nonneg, read'⟩

theorem loopStatus_append {lineno : Nat} (passed : ∀ line ∈ before, PassesOver fs filename line)
    (ends : loopStatus (includeStatus fs depth filename) (before ++ lines) lineno ≠ none) :
    ∃ lineno', loopStatus (includeStatus fs depth filename) lines lineno' ≠ none := by
  induction before generalizing lineno with
  | nil => exact ⟨lineno, ends⟩
  | cons buf before ih =>
      rw [List.cons_append, loopStatus] at ends
      obtain ⟨depth', ret', nonneg, passes⟩ := passesOver_iff.mp (passed buf List.mem_cons_self)
      cases read : parseStatus (includeStatus fs depth filename) (cutAt 0 buf) with
      | none =>
          rw [read] at ends
          exact absurd rfl ends
      | some ret =>
          have here := parseStatus_depth (le_max_left depth depth') read
          have there := parseStatus_depth (le_max_right depth depth') passes
          obtain rfl := Option.some.inj (here.symm.trans there)
          rw [read, Option.bind_some, if_neg (by omega)] at ends
          exact ih (fun line member => passed line (List.mem_cons_of_mem _ member)) ends

theorem loadStatus_includes (includes : Includes fs filename filename')
    (returns : loadStatus fs (depth + 1) filename ≠ none) : loadStatus fs depth filename' ≠ none := by
  obtain ⟨file, before, buf, after, token, opened, lines, passed, line, rfl⟩ := includes
  rw [loadStatus_of_fopen opened, lines] at returns
  obtain ⟨lineno, returns⟩ := loopStatus_append passed returns
  intro stuck
  have read : parseStatus (includeStatus fs depth filename) (cutAt 0 buf) = none := by
    rw [parseStatus, line]
    exact stuck
  rw [loopStatus, read] at returns
  exact returns rfl

theorem exists_loopStatus (opened : fs.fopen filename = some file)
    (loads : ∀ filename', Includes fs filename filename' → ∃ depth, loadStatus fs depth filename' ≠ none)
    (split : fileLines file = before ++ lines) (passed : ∀ line ∈ before, PassesOver fs filename line)
    (lineno : Nat) : ∃ depth, loopStatus (includeStatus fs depth filename) lines lineno ≠ none := by
  induction lines generalizing before lineno with
  | nil => exact ⟨0, Option.some_ne_none _⟩
  | cons buf lines ih =>
      obtain ⟨depth, ret, read⟩ : ∃ depth ret,
          parseStatus (includeStatus fs depth filename) (cutAt 0 buf) = some ret := by
        cases line : parsed (cutAt 0 buf) with
        | included token =>
            have includes : Includes fs filename (incfile filename token) :=
              ⟨file, before, buf, lines, token, opened, split, passed, line, rfl⟩
            obtain ⟨depth, returns⟩ := loads _ includes
            obtain ⟨ret, returned⟩ := Option.ne_none_iff_exists'.mp returns
            refine ⟨depth, ret, ?_⟩
            rw [parseStatus, line]
            exact returned
        | malformed => exact ⟨0, -1, by rw [parseStatus, line]⟩
        | ignored | assigned | mapassigned => exact ⟨0, 0, by rw [parseStatus, line]⟩
      by_cases error : ret < 0
      · refine ⟨depth, ?_⟩
        rw [loopStatus, read, Option.bind_some, if_pos error]
        exact Option.some_ne_none _
      · have passed' : ∀ line ∈ before ++ [buf], PassesOver fs filename line := by
          intro line member
          rcases List.mem_append.mp member with earlier | here
          · exact passed line earlier
          · rw [List.mem_singleton.mp here]
            exact passesOver_iff.mpr ⟨depth, ret, not_lt.mp error, read⟩
        have split' : fileLines file = (before ++ [buf]) ++ lines := by
          rw [split, List.append_assoc, List.singleton_append]
        obtain ⟨depth', ends⟩ := ih split' passed' (lineno + 1)
        obtain ⟨ret', ends⟩ := Option.ne_none_iff_exists'.mp ends
        refine ⟨max depth depth', ?_⟩
        rw [loopStatus, parseStatus_depth (le_max_left depth depth') read, Option.bind_some, if_neg error,
          loopStatus_depth (le_max_right depth depth') ends]
        exact Option.some_ne_none _

/-! ## Loading returns -/

theorem loadReturns_iff : LoadReturns fs filename ↔ ∃ depth, loadStatus fs depth filename ≠ none := by
  constructor
  · rintro ⟨depth, returns⟩
    obtain ⟨ret, gaVars', returned, -⟩ := returns .empty
    refine ⟨depth, ?_⟩
    rw [← gaConfLoad_status fs depth filename .empty, returned]
    exact Option.some_ne_none _
  · rintro ⟨depth, returns⟩
    refine ⟨depth, fun gaVars => ?_⟩
    obtain ⟨ret, returned⟩ := Option.ne_none_iff_exists'.mp returns
    have same := (gaConfLoad_status fs depth filename gaVars).trans returned
    rw [Option.map_eq_some_iff] at same
    obtain ⟨⟨ret, gaVars'⟩, loaded, rfl⟩ := same
    refine ⟨ret, gaVars', loaded, ?_⟩
    cases depth with
    | zero => cases returned
    | succ depth =>
        cases opened : fs.fopen filename with
        | none =>
            rw [loadStatus_of_fopen_none opened] at returned
            exact .inl (Option.some.inj returned).symm
        | some file =>
            rw [loadStatus_of_fopen opened] at returned
            rcases loopStatus_ret returned with failed | count
            · exact .inl failed
            · rw [Nat.zero_add] at count
              exact .inr ⟨file, rfl, count⟩

theorem incfile_length (filename token : Bytes) : (incfile filename token).length < 4097 := by
  unfold incfile
  split_ifs
  · exact (List.length_take_le _ _).trans_lt (by omega)
  · exact (List.length_take_le _ _).trans_lt (by omega)

theorem finite_reached (fs : FileSystem) (filename : Bytes) :
    {name | ReflTransGen (Includes fs) filename name}.Finite := by
  refine ((finite_names 4097).insert filename).subset ?_
  intro name reached
  rcases reached.cases_tail with same | ⟨_, _, included⟩
  · exact .inl same
  · obtain ⟨_, _, _, _, token, _, _, _, _, rfl⟩ := included
    exact .inr (incfile_length _ _)

end

theorem gaConfLoad_returns_iff (fs : FileSystem) (filename : Bytes) :
    LoadReturns fs filename ↔ ¬ ReachesCycle (Includes fs) filename := by
  rw [loadReturns_iff]
  constructor
  · rintro ⟨depth, returns⟩
    refine not_reachesCycle_of_lower (D := fun depth name => loadStatus fs depth name ≠ none) ?_ ?_ returns
    · intro name loads
      exact loads rfl
    · intro depth name name' loads includes
      exact loadStatus_includes includes loads
  · intro acyclic
    refine acyclic_induction (P := fun name => ∃ depth, loadStatus fs depth name ≠ none)
      (finite_reached fs filename) acyclic ?_
    intro name _ loads
    cases opened : fs.fopen name with
    | none => exact ⟨1, by rw [loadStatus_of_fopen_none opened]; exact Option.some_ne_none _⟩
    | some file =>
        obtain ⟨depth, ends⟩ := exists_loopStatus opened loads (List.nil_append _).symm
          (fun _ member => absurd member List.not_mem_nil) 0
        exact ⟨depth + 1, by rwa [loadStatus_of_fopen opened]⟩

def selfInclude : Bytes := [105, 110, 99, 108, 117, 100, 101, 61, 47, 97]

def selfIncluding : FileSystem where
  fopen name := if name = [47, 97] then some selfInclude else none
  nameTooLong name long := by
    have other : name ≠ [47, 97] := by
      rintro rfl
      exact absurd long (by decide)
    exact if_neg other

theorem not_gaConfLoad_returns : ¬ ∀ (fs : FileSystem) (filename : Bytes), LoadReturns fs filename := by
  intro returns
  obtain ⟨depth, loads⟩ := loadReturns_iff.mp (returns selfIncluding [47, 97])
  have read : fgets selfInclude = some (selfInclude, []) := by decide
  have lines : fileLines selfInclude = [] ++ selfInclude :: [] := by
    rw [fileLines_of_fgets read, fileLines_nil, List.nil_append]
  have line : parsed (cutAt 0 selfInclude) = .included [47, 97] := by decide +kernel
  have includes : Includes selfIncluding [47, 97] [47, 97] :=
    ⟨selfInclude, [], selfInclude, [], [47, 97], rfl, lines, nofun, line, by decide⟩
  induction depth with
  | zero => exact loads rfl
  | succ depth ih => exact ih (loadStatus_includes includes loads)

end GamingAnywhere.Config
