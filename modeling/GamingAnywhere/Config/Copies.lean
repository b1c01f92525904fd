import GamingAnywhere.Config.Dictionary
import GamingAnywhere.Config.Readers

namespace GamingAnywhere.Config
open Lib

/-! ## `strncpy` -/

def Terminated (value buf : Bytes) (slen : Nat) : Prop :=
  buf.length = slen ∧ ∃ p rest, p <+: value ∧ buf = p ++ 0 :: rest

section
variable {s : Bytes} {n : Nat}

theorem length_strncpy (s : Bytes) (n : Nat) : (strncpy s n).length = n := by
  rw [strncpy, List.length_append, List.length_take, List.length_replicate]
  omega

theorem strncpy_of_lt (lt : s.length < n) :
    strncpy s n = s ++ 0 :: List.replicate (n - s.length - 1) 0 := by
  have room : n - s.length = n - s.length - 1 + 1 := by omega
  rw [strncpy, List.take_of_length_le (Nat.le_of_lt lt), room, List.replicate_succ, Nat.add_sub_cancel]

theorem strncpy_of_le (le : n ≤ s.length) : strncpy s n = s.take n := by
  rw [strncpy, Nat.sub_eq_zero_of_le le, List.replicate_zero, List.append_nil]

theorem cstr_strncpy (plain : 0 ∉ s) (lt : s.length < n) (behind : Bytes) :
    cstr (strncpy s n ++ behind) = s := by
  rw [strncpy_of_lt lt, List.append_assoc, cstr_append plain, List.cons_append, cstr_zero,
    List.append_nil]

theorem strncpy_append (s t : Bytes) (n : Nat) :
    strncpy (s ++ t) n = s.take n ++ strncpy t (n - s.length) := by
  rw [strncpy, strncpy, List.take_append, List.length_append, Nat.sub_add_eq, List.append_assoc]

theorem strncpy_append_of_le (le : n ≤ s.length) (t : Bytes) : strncpy (s ++ t) n = s.take n := by
  rw [strncpy_append, Nat.sub_eq_zero_of_le le, strncpy_of_le (Nat.zero_le _), List.take_zero,
    List.append_nil]

theorem strncpy_append_of_lt (lt : s.length < n) (t : Bytes) :
    strncpy (s ++ t) n = s ++ strncpy t (n - s.length) := by
  rw [strncpy_append, List.take_of_length_le (Nat.le_of_lt lt)]

theorem strncpy_nil_succ (n : Nat) : strncpy [] (n + 1) = 0 :: strncpy [] n := by
  simp [strncpy, List.replicate_succ]

theorem strncpy_cons_succ (c : UInt8) (s : Bytes) (n : Nat) :
    strncpy (c :: s) (n + 1) = c :: strncpy s n := by
  rw [strncpy, strncpy, List.take_succ_cons, List.length_cons, Nat.add_sub_add_right, List.cons_append]

theorem strncpy_terminated_iff (plain : 0 ∉ s) : Terminated s (strncpy s n) n ↔ s.length < n := by
  constructor
  · rintro ⟨-, p, rest, -, filled⟩
    by_contra long
    rw [strncpy_of_le (Nat.le_of_not_lt long)] at filled
    have ended : 0 ∈ s.take n := by
      rw [filled]
      exact List.mem_append_right _ List.mem_cons_self
    exact plain (List.mem_of_mem_take ended)
  · intro lt
    exact ⟨length_strncpy s n, s, _, List.prefix_refl s, strncpy_of_lt lt⟩

end

/-! ## Strings without a zero -/

structure GaConfVar.Plain (v : GaConfVar) : Prop where
  data : 0 ∉ v.data
  mapdata : ∀ k s, v.mapdata.find k = some s → 0 ∉ k ∧ 0 ∉ s
  mi : ∀ k, v.mi = some k → 0 ∉ k

def Plain (gaVars : GaVars) : Prop := ∀ name v, gaVars.find name = some v → v.Plain

def Call.PlainArgs : Call → Prop
  | writev _ value => 0 ∉ value
  | mapwritev _ key value => 0 ∉ key ∧ 0 ∉ value
  | erase _ | maperase _ _ | clear | mapreset _ | mapnextkey _ _ => True

namespace GaConfVar
variable {v : GaConfVar} {key value : Bytes}

theorem Plain.assign (plain : 0 ∉ value) : (GaConfVar.assign value).Plain := ⟨plain, nofun, nofun⟩

theorem plain_clear : GaConfVar.clear.Plain := .assign List.not_mem_nil

theorem Plain.put (plain : v.Plain) (key_plain : 0 ∉ key) (value_plain : 0 ∉ value) :
    (v.put key value).Plain := by
  refine ⟨plain.data, ?_, plain.mi⟩
  intro k s found
  rw [find_put, Function.update_apply] at found
  split_ifs at found with same
  · cases found
    exact ⟨same ▸ key_plain, value_plain⟩
  · exact plain.mapdata k s found

theorem Plain.key_of_mem (plain : v.Plain) {k : Bytes} (member : k ∈ v.mapdata.keys) : 0 ∉ k := by
  rw [v.mapdata.mem_keys, Option.isSome_iff_exists] at member
  obtain ⟨s, found⟩ := member
  exact (plain.mapdata k s found).1

theorem Plain.mreset (plain : v.Plain) : v.mreset.Plain :=
  ⟨plain.data, plain.mapdata, fun _ first => plain.key_of_mem (List.mem_of_head? first)⟩

theorem Plain.mnextkey (plain : v.Plain) : v.mnextkey.1.Plain := by
  unfold GaConfVar.mnextkey
  cases v.mi with
  | none => exact plain
  | some k => exact ⟨plain.data, plain.mapdata, fun _ next => plain.key_of_mem (List.mem_of_find?_eq_some next)⟩

theorem Plain.mkey (plain : v.Plain) : 0 ∉ v.mkey := by
  unfold GaConfVar.mkey
  cases here : v.mi with
  | none => exact List.not_mem_nil
  | some k => exact plain.mi k here

theorem Plain.mvalue (plain : v.Plain) : 0 ∉ v.mvalue := by
  unfold GaConfVar.mvalue
  cases found : v.mi.bind v.mapdata.find with
  | none => exact List.not_mem_nil
  | some s =>
      obtain ⟨k, -, entry⟩ := Option.bind_eq_some_iff.mp found
      exact (plain.mapdata k s entry).2

theorem Plain.get (plain : v.Plain) (key : Bytes) : 0 ∉ (v.get key).2 := by
  unfold GaConfVar.get
  cases found : v.mapdata.find key with
  | none => exact List.not_mem_nil
  | some s => exact (plain.mapdata key s found).2

end GaConfVar

section
variable {gaVars : GaVars} {name : Bytes} {v : GaConfVar}

theorem plain_empty : Plain .empty := nofun

theorem Plain.insert (plain : Plain gaVars) (var_plain : v.Plain) : Plain (gaVars.insert name v) := by
  intro other w found
  rw [OrderedMap.find_insert] at found
  split_ifs at found
  · cases found
    exact var_plain
  · exact plain other w found

theorem Plain.erase (plain : Plain gaVars) : Plain (gaVars.erase name) := by
  intro other w found
  rw [OrderedMap.find_erase] at found
  split_ifs at found
  exact plain other w found

theorem Call.plain {call : Call} (args : call.PlainArgs) (plain : Plain gaVars) :
    Plain (call.apply gaVars) := by
  cases call with
  | writev key value => exact plain.insert (.assign args)
  | mapwritev mapname key value =>
      have var_plain : ((gaVars.find mapname).getD .clear).Plain := by
        cases found : gaVars.find mapname with
        | none => exact GaConfVar.plain_clear
        | some v => exact plain mapname v found
      exact plain.insert (var_plain.put args.1 args.2)
  | erase key => exact plain.erase
  | maperase mapname key =>
      rw [apply, gaConfMaperase]
      cases gaVars.find mapname with
      | none => exact plain
      | some v => exact plain.erase
  | clear => exact plain_empty
  | mapreset mapname =>
      rw [apply, gaConfMapreset]
      cases found : gaVars.find mapname with
      | none => exact plain
      | some v => exact plain.insert (plain mapname v found).mreset
  | mapnextkey mapname keystore =>
      rw [apply, gaConfMapnextkey]
      cases found : gaVars.find mapname with
      | none => exact plain
      | some v => exact plain.insert (plain mapname v found).mnextkey

theorem plain_stored {calls : List Call} (args : ∀ call ∈ calls, call.PlainArgs) : Plain (stored calls) := by
  induction calls using List.reverseRecOn with
  | nil => exact plain_empty
  | append_singleton calls call ih =>
      rw [stored_concat]
      have last := args call (List.mem_append_right _ List.mem_cons_self)
      exact Call.plain last (ih fun earlier member => args earlier (List.mem_append_left _ member))

end

/-! ## The copies -/

inductive Copy
  | readv (key : Bytes)
  | mapreadv (mapname key : Bytes)
  | mapkey (mapname : Bytes)
  | mapvalue (mapname : Bytes)
  | mapnextkey (mapname : Bytes)

def Copy.read (gaVars : GaVars) (store : Option Nat) : Copy → Option Bytes
  | readv key => gaConfReadv gaVars key store
  | mapreadv mapname key => (gaConfMapreadv gaVars mapname key store).2
  | mapkey mapname => gaConfMapkey gaVars mapname store
  | mapvalue mapname => gaConfMapvalue gaVars mapname store
  | mapnextkey mapname => (gaConfMapnextkey gaVars mapname store).2

section
variable {gaVars : GaVars} {value : Bytes}

theorem copied_eq (p : Prop) [Decidable p] (store : Option Nat) (s : Bytes) :
    (if p then none else some (copyOut store s)) =
      (if p then none else some (copyOut none s)).map (copyOut store) := by
  split_ifs <;> rfl

theorem Copy.read_eq (gaVars : GaVars) (store : Option Nat) (copy : Copy) :
    copy.read gaVars store = (copy.read gaVars none).map (copyOut store) := by
  cases copy with
  | readv key =>
      rw [read, read, gaConfReadv, gaConfReadv, Option.map_map]
      rfl
  | mapreadv mapname key =>
      rw [read, read, gaConfMapreadv, gaConfMapreadv]
      cases gaVars.find mapname with
      | none => rfl
      | some v => exact copied_eq ..
  | mapkey mapname =>
      rw [read, read, gaConfMapkey, gaConfMapkey]
      cases gaVars.find mapname with
      | none => rfl
      | some v => exact copied_eq ..
  | mapvalue mapname =>
      rw [read, read, gaConfMapvalue, gaConfMapvalue]
      cases gaVars.find mapname with
      | none => rfl
      | some v => exact copied_eq ..
  | mapnextkey mapname =>
      rw [read, read, gaConfMapnextkey, gaConfMapnextkey]
      cases gaVars.find mapname with
      | none => rfl
      | some v => exact copied_eq ..

theorem some_of_not {p : Prop} [Decidable p] {s : Bytes}
    (read : (if p then none else some (copyOut none s)) = some value) : s = value := by
  split_ifs at read
  exact Option.some.inj read

theorem Plain.read (plain : Plain gaVars) {copy : Copy} (read : copy.read gaVars none = some value) :
    0 ∉ value := by
  cases copy with
  | readv key =>
      obtain ⟨v, found, rfl⟩ := Option.map_eq_some_iff.mp read
      exact (plain key v found).data
  | mapreadv mapname key =>
      rw [Copy.read, gaConfMapreadv] at read
      cases found : gaVars.find mapname with
      | none => simp [found] at read
      | some v =>
          rw [found] at read
          exact some_of_not read ▸ (plain mapname v found).get key
  | mapkey mapname =>
      rw [Copy.read, gaConfMapkey] at read
      cases found : gaVars.find mapname with
      | none => simp [found] at read
      | some v =>
          rw [found] at read
          exact some_of_not read ▸ (plain mapname v found).mkey
  | mapvalue mapname =>
      rw [Copy.read, gaConfMapvalue] at read
      cases found : gaVars.find mapname with
      | none => simp [found] at read
      | some v =>
          rw [found] at read
          exact some_of_not read ▸ (plain mapname v found).mvalue
  | mapnextkey mapname =>
      rw [Copy.read, gaConfMapnextkey] at read
      cases found : gaVars.find mapname with
      | none => simp [found] at read
      | some v =>
          rw [found] at read
          have next : v.mnextkey.2 = v.mnextkey.1.mkey := by
            unfold GaConfVar.mnextkey GaConfVar.mkey
            cases here : v.mi with
            | none => rw [here]; rfl
            | some k => rfl
          exact some_of_not read ▸ next ▸ (plain mapname v found).mnextkey.mkey

end

/-! ## What is done with a filled buffer -/

def rtspconfObjectSize : Nat := 128

def rtspconfTitleSize : Nat := 256

def rtspconfDisplaySize : Nat := 16

def fieldOf (ptr : Option Bytes) (dflt : Bytes) (size : Nat) (behind : Bytes) : Bytes :=
  ptr.elim (strncpy dflt size) fun buf => strncpy (cstr (buf ++ behind)) size

def rtspconfField (gaVars : GaVars) (key dflt : Bytes) (size : Nat) (behind : Bytes) : Bytes :=
  fieldOf (gaConfReadv gaVars key (some 1024)) dflt size behind

def rtspconfObject (gaVars : GaVars) (behind : Bytes) : Bytes :=
  rtspconfField gaVars (literal "base-object") (literal "/desktop") rtspconfObjectSize behind

def rtspconfTitle (gaVars : GaVars) (behind : Bytes) : Bytes :=
  rtspconfField gaVars (literal "title") (literal "Real-Time Desktop") rtspconfTitleSize behind

def rtspconfDisplay (gaVars : GaVars) (behind : Bytes) : Bytes :=
  rtspconfField gaVars (literal "display") (literal ":0") rtspconfDisplaySize behind

inductive Reading
  | copy (c : Copy) (slen : Nat)
  | readint (key : Bytes)
  | readints (key : Bytes) (n : Int)
  | readbool (key : Bytes) (defval : Int)
  | mapreadint (mapname key : Bytes)
  | mapreadints (mapname key : Bytes) (n : Int)
  | mapreadbool (mapname key : Bytes) (defval : Int)
  | object
  | title
  | display

namespace Reading

def source : Reading → Copy
  | copy c _ => c
  | readint key | readints key _ | readbool key _ => .readv key
  | mapreadint mapname key | mapreadints mapname key _ | mapreadbool mapname key _ =>
      .mapreadv mapname key
  | object => .readv (literal "base-object")
  | title => .readv (literal "title")
  | display => .readv (literal "display")

def size : Reading → Nat
  | copy _ slen => slen
  | readint _ | readbool _ _ | mapreadint _ _ | mapreadbool _ _ _ => 64
  | readints _ _ | mapreadints _ _ _ | object | title | display => 1024

inductive Result
  | buffer (buf : Option Bytes)
  | int (n : Int)
  | ints (val : List Int) (reads : Nat)
  | field (chars : Bytes)

def result (gaVars : GaVars) (behind : Bytes) : Reading → Result
  | copy c slen => .buffer (c.read gaVars (some slen))
  | readint key => .int (gaConfReadint gaVars key behind)
  | readints key n =>
      let r := gaConfReadints gaVars key n behind
      .ints r.1 r.2
  | readbool key defval => .int (gaConfReadbool gaVars key defval behind)
  | mapreadint mapname key => .int (gaConfMapreadint gaVars mapname key behind).2
  | mapreadints mapname key n =>
      let r := gaConfMapreadints gaVars mapname key n behind
      .ints r.2.1 r.2.2
  | mapreadbool mapname key defval => .int (gaConfMapreadbool gaVars mapname key defval behind).2
  | object => .field (rtspconfObject gaVars behind)
  | title => .field (rtspconfTitle gaVars behind)
  | display => .field (rtspconfDisplay gaVars behind)

def use (filled : Option Bytes) (behind : Bytes) : Reading → Result
  | copy _ _ => .buffer filled
  | readint _ | mapreadint _ _ => .int (intOf filled behind)
  | readints _ n | mapreadints _ _ n =>
      let r := intsOf filled n behind
      .ints r.1 r.2
  | readbool _ defval | mapreadbool _ _ defval => .int (boolOf filled defval behind)
  | object => .field (fieldOf filled (literal "/desktop") rtspconfObjectSize behind)
  | title => .field (fieldOf filled (literal "Real-Time Desktop") rtspconfTitleSize behind)
  | display => .field (fieldOf filled (literal ":0") rtspconfDisplaySize behind)

structure Right (gaVars : GaVars) (r : Reading) : Prop where
  terminated : ∀ value buf, r.source.read gaVars none = some value →
    r.source.read gaVars (some r.size) = some buf → Terminated value buf r.size
  inside : ∀ buf behind, r.source.read gaVars (some r.size) = some buf →
    (cstr (buf ++ behind)).length < r.size
  depends : ∀ gaVars' behind behind', r.source.read gaVars' none = r.source.read gaVars none →
    r.result gaVars' behind' = r.result gaVars behind

section
variable {gaVars : GaVars} {filled : Option Bytes}

theorem result_eq (r : Reading) (gaVars : GaVars) (behind : Bytes) :
    r.result gaVars behind = r.use (r.source.read gaVars (some r.size)) behind := by
  cases r <;> rfl

theorem use_congr (r : Reading) {behind behind' : Bytes}
    (same : ∀ buf, filled = some buf → cstr (buf ++ behind) = cstr (buf ++ behind')) :
    r.use filled behind = r.use filled behind' := by
  cases filled with
  | none => cases r <;> rfl
  | some buf =>
      have string := same buf rfl
      cases r with
      | copy => rfl
      | readint | mapreadint => simp only [use, intOf, Option.elim_some, string]
      | readints | mapreadints => simp only [use, intsOf, Option.elim_some, string]
      | readbool | mapreadbool => simp only [use, boolOf, Option.elim_some, string]
      | object | title | display => simp only [use, fieldOf, Option.elim_some, string]

theorem filled_eq (r : Reading) {value buf : Bytes} (text : r.source.read gaVars none = some value)
    (filled : r.source.read gaVars (some r.size) = some buf) : buf = strncpy value r.size := by
  rw [Copy.read_eq, text] at filled
  exact (Option.some.inj filled).symm

theorem gaConf_reading_right_iff (plain : Plain gaVars) (r : Reading) :
    r.Right gaVars ↔ ∀ value, r.source.read gaVars none = some value → value.length < r.size := by
  constructor
  · intro right value text
    have filled : r.source.read gaVars (some r.size) = some (strncpy value r.size) := by
      rw [Copy.read_eq, text]
      rfl
    exact (strncpy_terminated_iff (plain.read text)).mp (right.terminated value _ text filled)
  · intro fits
    have string : ∀ buf behind, r.source.read gaVars (some r.size) = some buf →
        ∃ value, r.source.read gaVars none = some value ∧ cstr (buf ++ behind) = value := by
      intro buf behind filled
      rw [Copy.read_eq] at filled
      obtain ⟨value, text, rfl⟩ := Option.map_eq_some_iff.mp filled
      exact ⟨value, text, cstr_strncpy (plain.read text) (fits value text) behind⟩
    refine ⟨?_, ?_, ?_⟩
    · intro value buf text filled
      rw [r.filled_eq text filled]
      exact (strncpy_terminated_iff (plain.read text)).mpr (fits value text)
    · intro buf behind filled
      obtain ⟨value, text, whole⟩ := string buf behind filled
      rw [whole]
      exact fits value text
    · intro gaVars' behind behind' same
      rw [result_eq, result_eq, Copy.read_eq gaVars', same, ← Copy.read_eq gaVars]
      apply use_congr
      intro buf filled
      obtain ⟨value, text, whole⟩ := string buf behind filled
      obtain ⟨value', text', whole'⟩ := string buf behind' filled
      rw [text] at text'
      rw [whole, whole', Option.some.inj text']

theorem gaConf_reading_right_short : (readint [112]).Right (stored [.writev [112] [49, 50]]) := by
  have args : ∀ call ∈ [Call.writev [112] [49, 50]], call.PlainArgs := by
    intro call member
    rw [List.mem_singleton.mp member]
    change 0 ∉ _
    decide
  apply (gaConf_reading_right_iff (plain_stored args) (readint [112])).mpr
  intro value text
  have read : Copy.read (stored [.writev [112] [49, 50]]) none (.readv [112]) = some [49, 50] := rfl
  rw [show (readint [112]).source = .readv [112] from rfl, read] at text
  cases text
  decide

/-- A value of 64 characters, of which `ga_conf_readint` reads on. -/
theorem not_gaConf_reading_right :
    ¬ ∀ gaVars (r : Reading), Plain gaVars → 0 < r.size → r.Right gaVars := by
  intro right
  have value_plain : 0 ∉ List.replicate 64 (48 : UInt8) := by decide
  have plain : Plain (OrderedMap.empty.insert [112] (.assign (List.replicate 64 48))) :=
    plain_empty.insert (.assign value_plain)
  have depends := (right _ (.readint [112]) plain (by decide)).depends _ [] [55, 0] rfl
  exact absurd (Result.int.inj depends) (by decide +kernel)

end

end Reading

end GamingAnywhere.Config
