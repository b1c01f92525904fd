import GamingAnywhere.Lib.Bytes
import GamingAnywhere.Lib.OrderedMap
import Mathlib.Data.List.Lex

/-!
# The configuration store

`ga-conf.cpp` over `ga-confvar.cpp`: a map of variables, each of them a string and a map of strings
with one iterator in it. A string is its bytes up to the terminating zero; `none` is a NULL result.
Where a caller passes no buffer to be filled, the result is an allocated copy.
-/

namespace GamingAnywhere.Config
open Lib

/-- `std::string` compares its characters as unsigned. -/
scoped instance charOrder : LinearOrder UInt8 where
  le_refl := UInt8.le_refl
  le_trans _ _ _ := UInt8.le_trans
  lt_iff_le_not_ge a b := by
    rw [UInt8.not_le]
    exact ⟨fun lt => ⟨UInt8.le_of_lt lt, lt⟩, fun both => both.2⟩
  le_antisymm _ _ := UInt8.le_antisymm
  le_total := UInt8.le_total
  toDecidableLE := inferInstance
  toDecidableLT := inferInstance
  toDecidableEq := inferInstance

/-- `mi` is the entry of `mapdata` that the iterator is at, `none` at the end. -/
structure GaConfVar where
  data : Bytes
  mapdata : OrderedMap Bytes Bytes
  mi : Option Bytes

namespace GaConfVar

def clear : GaConfVar := ⟨[], .empty, none⟩

/-- `operator=(const char *)` -/
def assign (value : Bytes) : GaConfVar := ⟨value, .empty, none⟩

def put (v : GaConfVar) (key value : Bytes) : GaConfVar :=
  { v with mapdata := v.mapdata.insert key value }

def haskey (v : GaConfVar) (key : Bytes) : Int := if (v.mapdata.find key).isSome then 1 else 0

def msize (v : GaConfVar) : Int := int32 v.mapdata.entries.length

def mreset (v : GaConfVar) : GaConfVar := { v with mi := v.mapdata.first? }

def mkey (v : GaConfVar) : Bytes := v.mi.getD []

def mnextkey (v : GaConfVar) : GaConfVar × Bytes :=
  match v.mi with
  | none => (v, [])
  | some k =>
      let next := v.mapdata.next? k
      ({ v with mi := next }, next.getD [])

end GaConfVar

abbrev GaVars := OrderedMap Bytes GaConfVar

def strncpy (s : Bytes) (n : Nat) : Bytes := s.take n ++ List.replicate (n - s.length) 0

/-- What a reader returns for `s`: a copy, or the `n` bytes of the buffer that it has filled. -/
def copyOut (store : Option Nat) (s : Bytes) : Bytes := store.elim s (strncpy s)

def gaConfClear (_ : GaVars) : GaVars := .empty

def gaConfReadv (gaVars : GaVars) (key : Bytes) (store : Option Nat) : Option Bytes :=
  (gaVars.find key).map fun v => copyOut store v.data

def gaConfWritev (gaVars : GaVars) (key value : Bytes) : GaVars := gaVars.insert key (.assign value)

def gaConfErase (gaVars : GaVars) (key : Bytes) : GaVars := gaVars.erase key

def gaConfHaskey (gaVars : GaVars) (mapname key : Bytes) : Int :=
  match gaVars.find mapname with
  | none => 0
  | some v => v.haskey key

def gaConfMapsize (gaVars : GaVars) (mapname : Bytes) : Int :=
  match gaVars.find mapname with
  | none => 0
  | some v => v.msize

def gaConfMapwritev (gaVars : GaVars) (mapname key value : Bytes) : GaVars :=
  gaVars.insert mapname (((gaVars.find mapname).getD .clear).put key value)

/-- The variable goes, whatever the key. -/
def gaConfMaperase (gaVars : GaVars) (mapname _key : Bytes) : GaVars :=
  match gaVars.find mapname with
  | none => gaVars
  | some _ => gaVars.erase mapname

def gaConfMapreset (gaVars : GaVars) (mapname : Bytes) : GaVars :=
  match gaVars.find mapname with
  | none => gaVars
  | some v => gaVars.insert mapname v.mreset

def gaConfMapkey (gaVars : GaVars) (mapname : Bytes) (keystore : Option Nat) : Option Bytes :=
  match gaVars.find mapname with
  | none => none
  | some v => if v.mkey = [] then none else some (copyOut keystore v.mkey)

def gaConfMapnextkey (gaVars : GaVars) (mapname : Bytes) (keystore : Option Nat) :
    GaVars × Option Bytes :=
  match gaVars.find mapname with
  | none => (gaVars, none)
  | some v =>
      let next := v.mnextkey
      (gaVars.insert mapname next.1, if next.2 = [] then none else some (copyOut keystore next.2))

/-- The keys from `key` on, asked for until a NULL; `none` where `fuel` calls do not reach it. -/
def mapkeysFrom (mapname : Bytes) (keystore : Option Nat) :
    Nat → GaVars → Option Bytes → Option (List Bytes)
  | _, _, none => some []
  | 0, _, some _ => none
  | fuel + 1, gaVars, some key =>
      let next := gaConfMapnextkey gaVars mapname keystore
      (mapkeysFrom mapname keystore fuel next.1 next.2).map (key :: ·)

def mapkeys (fuel : Nat) (gaVars : GaVars) (mapname : Bytes) (keystore : Option Nat) :
    Option (List Bytes) :=
  let reset := gaConfMapreset gaVars mapname
  mapkeysFrom mapname keystore fuel reset (gaConfMapkey reset mapname keystore)

section
variable {gaVars : GaVars} {mapname : Bytes} {keystore : Option Nat} {v : GaConfVar}

theorem gaConfMapnextkey_eq {k : Bytes} (found : gaVars.find mapname = some v) (at_k : v.mi = some k) :
    gaConfMapnextkey gaVars mapname keystore =
      (gaVars.insert mapname { v with mi := v.mapdata.next? k },
        if (v.mapdata.next? k).getD [] = [] then none
        else some (copyOut keystore ((v.mapdata.next? k).getD []))) := by
  simp only [gaConfMapnextkey, found, GaConfVar.mnextkey, at_k]

theorem mapkeysFrom_eq {before rest : List Bytes} {k : Bytes} {fuel : Nat}
    (found : gaVars.find mapname = some v) (at_k : v.mi = some k)
    (visited : v.mapdata.keys = before ++ k :: rest) (named : [] ∉ rest) (enough : rest.length < fuel) :
    mapkeysFrom mapname keystore fuel gaVars (some (copyOut keystore k)) =
      some ((k :: rest).map (copyOut keystore)) := by
  induction rest generalizing gaVars v before k fuel with
  | nil =>
      obtain _ | fuel := fuel
      · exact absurd enough (Nat.not_lt_zero _)
      · rw [mapkeysFrom, gaConfMapnextkey_eq found at_k, v.mapdata.next?_eq visited]
        simp [mapkeysFrom]
  | cons k' rest ih =>
      obtain _ | fuel := fuel
      · exact absurd enough (Nat.not_lt_zero _)
      · have nonempty : k' ≠ [] := fun empty => named (empty ▸ List.mem_cons_self)
        have next := v.mapdata.next?_eq visited
        have shown : (some k').getD [] ≠ [] := nonempty
        rw [mapkeysFrom, gaConfMapnextkey_eq found at_k, next, List.head?_cons, if_neg shown,
          Option.getD_some]
        have here : (gaVars.insert mapname { v with mi := some k' }).find mapname =
            some { v with mi := some k' } := by
          rw [OrderedMap.find_insert, if_pos rfl]
        have visited' : v.mapdata.keys = (before ++ [k]) ++ k' :: rest := by
          rw [visited, List.append_assoc, List.singleton_append]
        rw [ih here rfl visited' (List.not_mem_of_not_mem_cons named) (Nat.lt_of_succ_lt_succ enough)]
        rfl

theorem mapkeys_of_none (fuel : Nat) (absent : gaVars.find mapname = none) :
    mapkeys fuel gaVars mapname keystore = some [] := by
  simp [mapkeys, gaConfMapreset, gaConfMapkey, absent, mapkeysFrom]

theorem find_mapreset (found : gaVars.find mapname = some v) :
    (gaConfMapreset gaVars mapname).find mapname = some v.mreset := by
  simp only [gaConfMapreset, found, OrderedMap.find_insert, if_pos]

theorem mapkeys_of_named {fuel : Nat} (found : gaVars.find mapname = some v)
    (named : [] ∉ v.mapdata.keys) (enough : v.mapdata.keys.length ≤ fuel) :
    mapkeys fuel gaVars mapname keystore = some (v.mapdata.keys.map (copyOut keystore)) := by
  have reset := find_mapreset found
  rw [mapkeys]
  cases keys : v.mapdata.keys with
  | nil =>
      have at_end : v.mreset.mkey = [] := by simp [GaConfVar.mreset, GaConfVar.mkey, OrderedMap.first?, keys]
      simp [gaConfMapkey, reset, at_end, mapkeysFrom]
  | cons k rest =>
      have first : v.mreset.mi = some k := by simp [GaConfVar.mreset, OrderedMap.first?, keys]
      have nonempty : k ≠ [] := fun empty => named (by rw [keys, empty]; exact List.mem_cons_self)
      have key : gaConfMapkey (gaConfMapreset gaVars mapname) mapname keystore =
          some (copyOut keystore k) := by
        simp [gaConfMapkey, reset, GaConfVar.mkey, first, nonempty]
      rw [keys] at named enough
      rw [key]
      have visited : v.mreset.mapdata.keys = [] ++ k :: rest := keys
      exact mapkeysFrom_eq reset first visited (List.not_mem_of_not_mem_cons named) enough

/-- An empty key comes first, and reads as the end. -/
theorem mapkeys_of_unnamed (fuel : Nat) (found : gaVars.find mapname = some v)
    (unnamed : [] ∈ v.mapdata.keys) : mapkeys fuel gaVars mapname keystore = some [] := by
  have reset := find_mapreset found
  have first : v.mreset.mkey = [] := by
    have sorted := v.mapdata.sorted_keys
    rw [GaConfVar.mreset, GaConfVar.mkey, OrderedMap.first?]
    cases keys : v.mapdata.keys with
    | nil => rfl
    | cons k rest =>
        rw [keys] at unnamed sorted
        obtain here | later := List.mem_cons.mp unnamed
        · exact here.symm
        · have least := (List.pairwise_cons.mp sorted).1 [] later
          exact absurd least (List.not_lt_nil k)
  simp [mapkeys, gaConfMapkey, reset, first, mapkeysFrom]

end

end GamingAnywhere.Config
