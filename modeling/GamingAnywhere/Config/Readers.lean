import GamingAnywhere.Config.Store
import GamingAnywhere.Lib.CString

/-!
# The readers of the store

What `ga-conf.cpp` reads a variable or an entry with. Most readers look the entry up with `find`, and
`ga_conf_mapreadv` with `operator[]`, which makes the entry where there is none. `behind` is the memory
that follows a local buffer.
-/

namespace GamingAnywhere.Config
open Lib

namespace GaConfVar

def get (v : GaConfVar) (key : Bytes) : GaConfVar × Bytes :=
  match v.mapdata.find key with
  | some s => (v, s)
  | none => (v.put key [], [])

def mvalue (v : GaConfVar) : Bytes := (v.mi.bind v.mapdata.find).getD []

end GaConfVar

/-! ## Variables -/

def intMin : Int := -2147483648

/-- `val` as far as it is written, and the number of values read. -/
def gaConfMultipleInt : Nat → Bytes → List Int × Nat
  | 0, _ => ([], 0)
  | n + 1, ptr =>
      let next := strtol ptr
      if next.2 = ptr then ([int32 next.1], 0)
      else
        let more := gaConfMultipleInt n next.2
        (int32 next.1 :: more.1, more.2 + 1)

def gaConfBoolval (ptr : Bytes) (defval : Int) : Int :=
  if ["true", "1", "y", "yes", "enabled", "enable"].any fun w => sameWord ptr (literal w) then 1
  else if ["false", "0", "n", "no", "disabled", "disable"].any fun w => sameWord ptr (literal w) then 0
  else defval

def intOf (ptr : Option Bytes) (behind : Bytes) : Int :=
  ptr.elim intMin fun buf => int32 (strtol (cstr (buf ++ behind))).1

def intsOf (ptr : Option Bytes) (n : Int) (behind : Bytes) : List Int × Nat :=
  ptr.elim ([], 0) fun buf => gaConfMultipleInt n.toNat (cstr (buf ++ behind))

def boolOf (ptr : Option Bytes) (defval : Int) (behind : Bytes) : Int :=
  ptr.elim defval fun buf => gaConfBoolval (cstr (buf ++ behind)) defval

def gaConfReadint (gaVars : GaVars) (key behind : Bytes) : Int :=
  intOf (gaConfReadv gaVars key (some 64)) behind

def gaConfReadints (gaVars : GaVars) (key : Bytes) (n : Int) (behind : Bytes) : List Int × Nat :=
  intsOf (gaConfReadv gaVars key (some 1024)) n behind

def gaConfReadbool (gaVars : GaVars) (key : Bytes) (defval : Int) (behind : Bytes) : Int :=
  boolOf (gaConfReadv gaVars key (some 64)) defval behind

/-! ## Entries -/

def gaConfIsmap (gaVars : GaVars) (key : Bytes) : Int := if 0 < gaConfMapsize gaVars key then 1 else 0

def gaConfMapreadv (gaVars : GaVars) (mapname key : Bytes) (store : Option Nat) : GaVars × Option Bytes :=
  match gaVars.find mapname with
  | none => (gaVars, none)
  | some v =>
      let entry := v.get key
      (gaVars.insert mapname entry.1, if entry.2 = [] then none else some (copyOut store entry.2))

def gaConfMapreadint (gaVars : GaVars) (mapname key behind : Bytes) : GaVars × Int :=
  let read := gaConfMapreadv gaVars mapname key (some 64)
  (read.1, intOf read.2 behind)

def gaConfMapreadints (gaVars : GaVars) (mapname key : Bytes) (n : Int) (behind : Bytes) :
    GaVars × List Int × Nat :=
  let read := gaConfMapreadv gaVars mapname key (some 1024)
  (read.1, intsOf read.2 n behind)

def gaConfMapreadbool (gaVars : GaVars) (mapname key : Bytes) (defval : Int) (behind : Bytes) :
    GaVars × Int :=
  let read := gaConfMapreadv gaVars mapname key (some 64)
  (read.1, boolOf read.2 defval behind)

def gaConfMapvalue (gaVars : GaVars) (mapname : Bytes) (valstore : Option Nat) : Option Bytes :=
  match gaVars.find mapname with
  | none => none
  | some v => if v.mkey = [] then none else some (copyOut valstore v.mvalue)

/-! ## An enumeration with the values -/

def mapentriesFrom (mapname : Bytes) (keystore valstore : Option Nat) :
    Nat → GaVars → Option Bytes → Option (List (Bytes × Option Bytes))
  | _, _, none => some []
  | 0, _, some _ => none
  | fuel + 1, gaVars, some key =>
      let next := gaConfMapnextkey gaVars mapname keystore
      (mapentriesFrom mapname keystore valstore fuel next.1 next.2).map
        ((key, gaConfMapvalue gaVars mapname valstore) :: ·)

def mapentries (fuel : Nat) (gaVars : GaVars) (mapname : Bytes) (keystore valstore : Option Nat) :
    Option (List (Bytes × Option Bytes)) :=
  let reset := gaConfMapreset gaVars mapname
  mapentriesFrom mapname keystore valstore fuel reset (gaConfMapkey reset mapname keystore)

/-! ## What a read does to the store -/

inductive Read
  | readv (key : Bytes) (store : Option Nat)
  | readint (key : Bytes)
  | readints (key : Bytes) (n : Int)
  | readbool (key : Bytes) (defval : Int)
  | ismap (key : Bytes)
  | haskey (mapname key : Bytes)
  | mapsize (mapname : Bytes)
  | mapreadv (mapname key : Bytes) (store : Option Nat)
  | mapreadint (mapname key : Bytes)
  | mapreadints (mapname key : Bytes) (n : Int)
  | mapreadbool (mapname key : Bytes) (defval : Int)

def Read.apply (gaVars : GaVars) (behind : Bytes) : Read → GaVars
  | mapreadv mapname key store => (gaConfMapreadv gaVars mapname key store).1
  | mapreadint mapname key => (gaConfMapreadint gaVars mapname key behind).1
  | mapreadints mapname key n => (gaConfMapreadints gaVars mapname key n behind).1
  | mapreadbool mapname key defval => (gaConfMapreadbool gaVars mapname key defval behind).1
  | readv .. | readint .. | readints .. | readbool .. | ismap .. | haskey .. | mapsize .. => gaVars

/-- The variable and the key that `operator[]` is asked for. -/
def Read.subscript : Read → Option (Bytes × Bytes)
  | mapreadv mapname key _ | mapreadint mapname key | mapreadints mapname key _
  | mapreadbool mapname key _ => some (mapname, key)
  | readv .. | readint .. | readints .. | readbool .. | ismap .. | haskey .. | mapsize .. => none

def Read.Finds (gaVars : GaVars) (read : Read) : Prop :=
  ∀ mapname key v, read.subscript = some (mapname, key) → gaVars.find mapname = some v →
    (v.mapdata.find key).isSome

structure SameAnswers (gaVars gaVars' : GaVars) : Prop where
  haskey : ∀ mapname key, gaConfHaskey gaVars' mapname key = gaConfHaskey gaVars mapname key
  mapsize : ∀ mapname, gaConfMapsize gaVars' mapname = gaConfMapsize gaVars mapname
  names : gaVars'.keys = gaVars.keys
  entries : ∀ fuel mapname keystore valstore,
    mapentries fuel gaVars' mapname keystore valstore = mapentries fuel gaVars mapname keystore valstore

section
variable {gaVars : GaVars} {mapname key : Bytes} {v : GaConfVar}

theorem SameAnswers.refl (gaVars : GaVars) : SameAnswers gaVars gaVars :=
  ⟨fun _ _ => rfl, fun _ => rfl, rfl, fun _ _ _ _ => rfl⟩

theorem GaConfVar.get_of_find {s : Bytes} (present : v.mapdata.find key = some s) :
    v.get key = (v, s) := by
  simp only [get, present]

theorem GaConfVar.get_of_none (absent : v.mapdata.find key = none) : v.get key = (v.put key [], []) := by
  simp only [get, absent]

theorem mapreadv_fst (store : Option Nat) :
    (gaConfMapreadv gaVars mapname key store).1 =
      match gaVars.find mapname with
      | none => gaVars
      | some v =>
          if (v.mapdata.find key).isSome then gaVars else gaVars.insert mapname (v.put key []) := by
  unfold gaConfMapreadv
  cases found : gaVars.find mapname with
  | none => rfl
  | some v =>
      dsimp only
      cases entry : v.mapdata.find key with
      | none => rw [GaConfVar.get_of_none entry, Option.isSome_none, if_neg Bool.false_ne_true]
      | some s => rw [GaConfVar.get_of_find entry, Option.isSome_some, if_pos rfl,
          gaVars.insert_of_find found]

theorem Read.apply_eq (read : Read) (behind : Bytes) :
    read.apply gaVars behind =
      read.subscript.elim gaVars fun e => (gaConfMapreadv gaVars e.1 e.2 none).1 := by
  cases read with
  | mapreadv | mapreadint | mapreadints | mapreadbool => exact (mapreadv_fst _).trans (mapreadv_fst _).symm
  | readv | readint | readints | readbool | ismap | haskey | mapsize => rfl

theorem haskey_put (v : GaConfVar) (key value : Bytes) : (v.put key value).haskey key = 1 := by
  rw [GaConfVar.haskey, GaConfVar.put, OrderedMap.find_insert, if_pos rfl]
  rfl

theorem haskey_insert (v : GaConfVar) : gaConfHaskey (gaVars.insert mapname v) mapname key = v.haskey key := by
  simp only [gaConfHaskey, OrderedMap.find_insert, if_pos]

theorem gaConf_read_unchanged_iff (gaVars : GaVars) (read : Read) (behind : Bytes) :
    SameAnswers gaVars (read.apply gaVars behind) ↔ read.Finds gaVars := by
  rw [read.apply_eq behind]
  constructor
  · intro same mapname key v subscript found
    rw [subscript] at same
    have haskey := same.haskey mapname key
    rw [Option.elim_some, mapreadv_fst, found] at haskey
    dsimp only at haskey
    cases entry : v.mapdata.find key with
    | some s => rfl
    | none =>
        rw [entry, Option.isSome_none, if_neg Bool.false_ne_true, haskey_insert, haskey_put] at haskey
        simp [gaConfHaskey, found, GaConfVar.haskey, entry] at haskey
  · intro finds
    cases subscript : read.subscript with
    | none => exact .refl gaVars
    | some e =>
        rw [Option.elim_some, mapreadv_fst]
        cases found : gaVars.find e.1 with
        | none => exact .refl gaVars
        | some v =>
            have present := finds e.1 e.2 v subscript found
            dsimp only
            rw [if_pos present]
            exact .refl gaVars

theorem not_gaConf_read_unchanged :
    ¬ ∀ gaVars read behind, SameAnswers gaVars (Read.apply gaVars behind read) := by
  intro unchanged
  have same := (unchanged (OrderedMap.empty.insert [109] .clear) (.mapreadint [109] [97]) []).haskey
    [109] [97]
  exact absurd same (by decide +kernel)

end

end GamingAnywhere.Config
