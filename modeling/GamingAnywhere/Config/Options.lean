import GamingAnywhere.Config.Copies
import Mathlib.Data.Finset.Sort
import Mathlib.Data.Fintype.BigOperators
import Mathlib.Data.Fintype.Pi

/-!
# Options of the video encoder

The last part of `rtspconf_parse` collects the entries of `video-specific` in `conf->vso`, a vector of
keys and values in turn, and `ga_avcodec_vencoder_init` hands them on in pairs. `behind` and `valbehind`
are the memory that follows `buf` and `valbuf`.
-/

namespace GamingAnywhere.Config
open Lib

def videoSpecific : Bytes := literal "video-specific"

def pushOption (behind valbehind : Bytes) (gaVars : GaVars) (buf : Bytes) (vso : List Bytes) :
    List Bytes :=
  match gaConfMapvalue gaVars videoSpecific (some 1024) with
  | none => vso
  | some valbuf =>
      let val := cstr (valbuf ++ valbehind)
      if val = [] then vso else vso ++ [cstr (buf ++ behind), val]

/-- The loop from `ptr` on; `none` where `fuel` rounds do not reach its end. -/
def pushOptions (behind valbehind : Bytes) : Nat → GaVars → Option Bytes → List Bytes → Option (List Bytes)
  | _, _, none, vso => some vso
  | 0, _, some _, _ => none
  | fuel + 1, gaVars, some buf, vso =>
      let vso := pushOption behind valbehind gaVars buf vso
      let next := gaConfMapnextkey gaVars videoSpecific (some 1024)
      pushOptions behind valbehind fuel next.1 next.2 vso

def rtspconfVso (behind valbehind : Bytes) (fuel : Nat) (gaVars : GaVars) : Option (List Bytes) :=
  if 0 < gaConfMapsize gaVars videoSpecific then
    let reset := gaConfMapreset gaVars videoSpecific
    pushOptions behind valbehind fuel reset (gaConfMapkey reset videoSpecific (some 1024)) []
  else some []

/-- The pairs that `av_dict_set` gets from `i` on; `none` where an index is not one of the vector's, or
`fuel` rounds do not reach the end. `i` and `n` are unsigned. -/
def gaAvcodecVencoderOptions (vso : List Bytes) : Nat → Nat → Option (List (Bytes × Bytes))
  | 0, _ => none
  | fuel + 1, i =>
      if i < vso.length % 4294967296 then
        match vso[i]?, vso[(i + 1) % 4294967296]? with
        | some key, some value =>
            (gaAvcodecVencoderOptions vso fuel ((i + 2) % 4294967296)).map ((key, value) :: ·)
        | _, _ => none
      else some []

/-! ## What the options are -/

def inTurn (pairs : List (Bytes × Bytes)) : List Bytes := pairs.flatMap fun e => [e.1, e.2]

/-- The entries that have a value, in the order of their keys and each once. -/
structure Options (gaVars : GaVars) (pairs : List (Bytes × Bytes)) : Prop where
  ascending : pairs.Pairwise fun e e' => e.1 < e'.1
  members : ∀ k s, (k, s) ∈ pairs ↔ s ≠ [] ∧ (dictOf gaVars).sub videoSpecific k = some s

def optionsOf (entries : List (Bytes × Bytes)) : List (Bytes × Bytes) := entries.filter fun e => e.2 ≠ []

structure Short (gaVars : GaVars) : Prop where
  named : (dictOf gaVars).sub videoSpecific [] = none
  short : ∀ k s, (dictOf gaVars).sub videoSpecific k = some s → k.length < 1024 ∧ s.length < 1024

section
variable {gaVars : GaVars} {v : GaConfVar} {behind valbehind k s : Bytes} {vso : List Bytes}
variable {before rest : List (Bytes × Bytes)}

theorem inTurn_cons (e : Bytes × Bytes) (pairs : List (Bytes × Bytes)) :
    inTurn (e :: pairs) = e.1 :: e.2 :: inTurn pairs := rfl

theorem length_inTurn (pairs : List (Bytes × Bytes)) : (inTurn pairs).length = 2 * pairs.length := by
  induction pairs with
  | nil => rfl
  | cons e pairs ih =>
      rw [inTurn_cons, List.length_cons, List.length_cons, ih, List.length_cons]
      omega

structure Fits (e : Bytes × Bytes) : Prop where
  named : e.1 ≠ []
  plain : 0 ∉ e.1 ∧ 0 ∉ e.2
  short : e.1.length < 1024 ∧ e.2.length < 1024

theorem pushOption_eq (found : gaVars.find videoSpecific = some v) (at_k : v.mi = some k)
    (entry : v.mapdata.find k = some s) (fits : Fits (k, s)) :
    pushOption behind valbehind gaVars (copyOut (some 1024) k) vso =
      vso ++ inTurn (optionsOf [(k, s)]) := by
  have key : v.mkey = k := by rw [GaConfVar.mkey, at_k, Option.getD_some]
  have value : v.mvalue = s := by rw [GaConfVar.mvalue, at_k, Option.bind_some, entry, Option.getD_some]
  have mapvalue : gaConfMapvalue gaVars videoSpecific (some 1024) = some (strncpy s 1024) := by
    simp only [gaConfMapvalue, found, key, if_neg fits.named, value]
    rfl
  have key_string := cstr_strncpy fits.plain.1 fits.short.1 behind
  have value_string := cstr_strncpy fits.plain.2 fits.short.2 valbehind
  unfold pushOption
  rw [mapvalue]
  dsimp only
  rw [value_string]
  change (if s = [] then vso else vso ++ [cstr (strncpy k 1024 ++ behind), s]) = _
  rw [key_string]
  by_cases empty : s = []
  · rw [if_pos empty, optionsOf, List.filter_cons_of_neg (by simpa using empty)]
    exact (List.append_nil vso).symm
  · rw [if_neg empty, optionsOf, List.filter_cons_of_pos (by simpa using empty)]
    rfl

theorem optionsOf_cons (e : Bytes × Bytes) (rest : List (Bytes × Bytes)) :
    inTurn (optionsOf (e :: rest)) = inTurn (optionsOf [e]) ++ inTurn (optionsOf rest) := by
  rw [← List.singleton_append, optionsOf, List.filter_append, inTurn, List.flatMap_append]
  rfl

theorem pushOptions_eq {fuel : Nat} (found : gaVars.find videoSpecific = some v) (at_k : v.mi = some k)
    (visited : v.mapdata.entries = before ++ (k, s) :: rest) (fits : ∀ e ∈ (k, s) :: rest, Fits e)
    (enough : rest.length < fuel) :
    pushOptions behind valbehind fuel gaVars (some (copyOut (some 1024) k)) vso =
      some (vso ++ inTurn (optionsOf ((k, s) :: rest))) := by
  induction rest generalizing gaVars v before k s fuel vso with
  | nil =>
      obtain _ | fuel := fuel
      · exact absurd enough (Nat.not_lt_zero _)
      · have entry : v.mapdata.find k = some s := by
          rw [v.mapdata.find_eq_some_iff, visited]
          exact List.mem_append_right _ List.mem_cons_self
        have keys : v.mapdata.keys = before.map Prod.fst ++ k :: [] := by
          rw [OrderedMap.keys, visited, List.map_append]
          rfl
        rw [pushOptions, pushOption_eq found at_k entry (fits _ List.mem_cons_self),
          gaConfMapnextkey_eq found at_k, v.mapdata.next?_eq keys]
        simp [pushOptions]
  | cons e rest ih =>
      obtain ⟨k', s'⟩ := e
      obtain _ | fuel := fuel
      · exact absurd enough (Nat.not_lt_zero _)
      · have entry : v.mapdata.find k = some s := by
          rw [v.mapdata.find_eq_some_iff, visited]
          exact List.mem_append_right _ List.mem_cons_self
        have keys : v.mapdata.keys = before.map Prod.fst ++ k :: k' :: rest.map Prod.fst := by
          rw [OrderedMap.keys, visited, List.map_append]
          rfl
        have later : ∀ e ∈ (k', s') :: rest, Fits e := fun e member => fits e (List.mem_cons_of_mem _ member)
        have shown : (some k').getD [] ≠ [] := (later _ List.mem_cons_self).named
        have here : (gaVars.insert videoSpecific { v with mi := some k' }).find videoSpecific =
            some { v with mi := some k' } := by
          rw [OrderedMap.find_insert, if_pos rfl]
        have visited' : v.mapdata.entries = (before ++ [(k, s)]) ++ (k', s') :: rest := by
          rw [visited, List.append_assoc, List.singleton_append]
        rw [pushOptions, pushOption_eq found at_k entry (fits _ List.mem_cons_self),
          gaConfMapnextkey_eq found at_k, v.mapdata.next?_eq keys, List.head?_cons]
        dsimp only
        rw [if_neg shown, Option.getD_some, ih here rfl visited' later (Nat.lt_of_succ_lt_succ enough),
          List.append_assoc, ← optionsOf_cons]

theorem gaAvcodecVencoderOptions_eq (done : List (Bytes × Bytes)) {pairs : List (Bytes × Bytes)}
    {fuel : Nat} (short : (done ++ pairs).length < 2147483648) (enough : pairs.length < fuel) :
    gaAvcodecVencoderOptions (inTurn (done ++ pairs)) fuel (2 * done.length) = some pairs := by
  induction pairs generalizing done fuel with
  | nil =>
      obtain _ | fuel := fuel
      · exact absurd enough (Nat.not_lt_zero _)
      · rw [List.append_nil] at short ⊢
        have counted : (inTurn done).length % 4294967296 = 2 * done.length := by
          rw [length_inTurn]
          omega
        rw [gaAvcodecVencoderOptions, counted, if_neg (Nat.lt_irrefl _)]
  | cons e pairs ih =>
      obtain _ | fuel := fuel
      · exact absurd enough (Nat.not_lt_zero _)
      · have total : (done ++ e :: pairs).length = done.length + pairs.length + 1 := by
          rw [List.length_append, List.length_cons]
          omega
        have counted : (inTurn (done ++ e :: pairs)).length % 4294967296 =
            2 * (done.length + pairs.length + 1) := by
          rw [length_inTurn, total]
          omega
        have split : inTurn (done ++ e :: pairs) = inTurn done ++ e.1 :: e.2 :: inTurn pairs := by
          rw [inTurn, List.flatMap_append]
          rfl
        have key : (inTurn (done ++ e :: pairs))[2 * done.length]? = some e.1 := by
          rw [split, List.getElem?_append_right (Nat.le_of_eq (length_inTurn done)), length_inTurn,
            Nat.sub_self]
          rfl
        have value : (inTurn (done ++ e :: pairs))[(2 * done.length + 1) % 4294967296]? = some e.2 := by
          have index : (2 * done.length + 1) % 4294967296 = 2 * done.length + 1 := by omega
          rw [index, split, List.getElem?_append_right (by rw [length_inTurn]; omega), length_inTurn,
            Nat.add_sub_cancel_left]
          rfl
        have further : (2 * done.length + 2) % 4294967296 = 2 * (done ++ [e]).length := by
          rw [List.length_append, List.length_singleton]
          omega
        have moved : done ++ e :: pairs = (done ++ [e]) ++ pairs := by
          rw [List.append_assoc, List.singleton_append]
        rw [gaAvcodecVencoderOptions, counted, if_pos (by omega), key, value, further]
        dsimp only
        rw [moved] at short ⊢
        rw [ih _ short (Nat.lt_of_succ_lt_succ enough)]
        rfl

theorem optionsOf_entries (found : gaVars.find videoSpecific = some v) :
    Options gaVars (optionsOf v.mapdata.entries) := by
  constructor
  · exact v.mapdata.sorted.filter _
  · intro k s
    rw [sub_dictOf found, v.mapdata.find_eq_some_iff, optionsOf, List.mem_filter, and_comm]
    simp

theorem Short.fits (short : Short gaVars) (plain : Plain gaVars)
    (found : gaVars.find videoSpecific = some v) : ∀ e ∈ v.mapdata.entries, Fits e := by
  rintro ⟨k, s⟩ member
  have entry := v.mapdata.find_eq_some_iff.mpr member
  have named := short.named
  rw [sub_dictOf found] at named
  refine ⟨?_, (plain _ v found).mapdata k s entry, ?_⟩
  · rintro rfl
    rw [entry] at named
    cases named
  · exact short.short k s (by rw [sub_dictOf found]; exact entry)

theorem rtspconfVso_eq (plain : Plain gaVars) (short : Short gaVars)
    (found : gaVars.find videoSpecific = some v) (few : v.mapdata.entries.length < 2147483648) {fuel : Nat}
    (enough : v.mapdata.entries.length ≤ fuel) :
    rtspconfVso behind valbehind fuel gaVars = some (inTurn (optionsOf v.mapdata.entries)) := by
  have fits := short.fits plain found
  have size : gaConfMapsize gaVars videoSpecific = v.mapdata.entries.length := by
    simp only [gaConfMapsize, found, GaConfVar.msize]
    exact int32_of_lt (by omega) (by omega)
  have reset := find_mapreset found
  rw [rtspconfVso, size]
  cases entries : v.mapdata.entries with
  | nil => rfl
  | cons e rest =>
      obtain ⟨k, s⟩ := e
      rw [entries] at fits enough
      have first : v.mreset.mi = some k := by
        rw [GaConfVar.mreset, OrderedMap.first?, OrderedMap.keys, entries]
        rfl
      have nonempty := (fits _ List.mem_cons_self).named
      have key : gaConfMapkey (gaConfMapreset gaVars videoSpecific) videoSpecific (some 1024) =
          some (copyOut (some 1024) k) := by
        simp [gaConfMapkey, reset, GaConfVar.mkey, first, nonempty]
      have visited : v.mreset.mapdata.entries = [] ++ (k, s) :: rest := entries
      have some_entry : (0 : Int) < ((k, s) :: rest).length := Int.natCast_pos.mpr (Nat.succ_pos _)
      rw [if_pos some_entry]
      dsimp only
      rw [key, pushOptions_eq reset first visited fits enough, List.nil_append]

structure Collected (gaVars : GaVars) (pairs : List (Bytes × Bytes)) : Prop where
  options : Options gaVars pairs
  vso : ∃ enough, ∀ behind valbehind, ∀ fuel ≥ enough,
    rtspconfVso behind valbehind fuel gaVars = some (inTurn pairs)
  passed : ∀ fuel > pairs.length, gaAvcodecVencoderOptions (inTurn pairs) fuel 0 = some pairs

theorem rtspconf_vso_collected (plain : Plain gaVars) (short : Short gaVars)
    (few : ∀ v, gaVars.find videoSpecific = some v → v.mapdata.entries.length < 2147483648) :
    ∃ pairs, Collected gaVars pairs := by
  cases found : gaVars.find videoSpecific with
  | none =>
      refine ⟨[], ⟨⟨.nil, ?_⟩, ⟨0, ?_⟩, ?_⟩⟩
      · intro k s
        simp [sub_dictOf_none found]
      · intro behind valbehind fuel _
        have size : gaConfMapsize gaVars videoSpecific = 0 := by simp only [gaConfMapsize, found]
        rw [rtspconfVso, size]
        rfl
      · intro fuel enough
        exact gaAvcodecVencoderOptions_eq [] (by decide) enough
  | some v =>
      have counted := few v found
      have fewer : (optionsOf v.mapdata.entries).length < 2147483648 :=
        Nat.lt_of_le_of_lt (List.length_filter_le ..) counted
      refine ⟨optionsOf v.mapdata.entries, optionsOf_entries found, ⟨v.mapdata.entries.length, ?_⟩, ?_⟩
      · intro behind valbehind fuel enough
        exact rtspconfVso_eq plain short found counted enough
      · intro fuel enough
        exact gaAvcodecVencoderOptions_eq [] fewer enough

def twoOptions : List Call := [.mapwritev videoSpecific [98] [49], .mapwritev videoSpecific [97] [50]]

theorem rtspconf_vso_collected_two : ∃ pairs, Collected (stored twoOptions) pairs := by
  have found : (stored twoOptions).find videoSpecific =
      some ((GaConfVar.clear.put [98] [49]).put [97] [50]) := by rfl
  have entries : ((GaConfVar.clear.put [98] [49]).put [97] [50]).mapdata.entries =
      [([97], [50]), ([98], [49])] := by rfl
  have plain : Plain (stored twoOptions) := by
    apply plain_stored
    intro call member
    rcases List.mem_pair.mp member with rfl | rfl
    · exact ⟨by decide, by decide⟩
    · exact ⟨by decide, by decide⟩
  have short : Short (stored twoOptions) := by
    constructor
    · rw [sub_dictOf found]
      rfl
    · intro k s entry
      rw [sub_dictOf found, OrderedMap.find_eq_some_iff, entries] at entry
      rcases List.mem_pair.mp entry with same | same
      · obtain ⟨rfl, rfl⟩ := Prod.mk.inj same
        decide
      · obtain ⟨rfl, rfl⟩ := Prod.mk.inj same
        decide
  apply rtspconf_vso_collected plain short
  intro v found'
  rw [found] at found'
  obtain rfl := Option.some.inj found'
  rw [entries]
  decide

/-! ## More options than an `int` can count -/

def constantMap (keys : Finset Bytes) (s : Bytes) : OrderedMap Bytes Bytes :=
  ⟨(keys.sort (· ≤ ·)).map fun k => (k, s), by
    rw [List.pairwise_map]
    exact keys.sortedLT_sort.pairwise⟩

theorem length_constantMap (keys : Finset Bytes) (s : Bytes) :
    (constantMap keys s).entries.length = keys.card := by
  rw [constantMap, List.length_map, Finset.length_sort]

theorem find_constantMap (keys : Finset Bytes) {s s' : Bytes} :
    (constantMap keys s).find k = some s' ↔ k ∈ keys ∧ s' = s := by
  rw [OrderedMap.find_eq_some_iff, constantMap, List.mem_map]
  constructor
  · rintro ⟨k', member, same⟩
    obtain ⟨rfl, rfl⟩ := Prod.mk.inj same
    exact ⟨(Finset.mem_sort _).mp member, rfl⟩
  · rintro ⟨member, rfl⟩
    exact ⟨k, (Finset.mem_sort _).mpr member, rfl⟩

def longKey (n : Nat) (bits : Fin n → Bool) : Bytes := List.ofFn fun i => if bits i then 2 else 1

theorem longKey_injective (n : Nat) : Function.Injective (longKey n) := by
  intro bits bits' same
  funext i
  have char := congrFun (List.ofFn_injective same) i
  cases left : bits i <;> cases right : bits' i <;> simp [left, right] at char ⊢

theorem zero_notMem_longKey {n : Nat} (bits : Fin n → Bool) : 0 ∉ longKey n bits := by
  intro zero
  obtain ⟨i, char⟩ := (List.mem_ofFn' ..).mp zero
  dsimp only at char
  split_ifs at char <;> cases char

theorem exists_longKeys (n : Nat) :
    ∃ keys : Finset Bytes, keys.card = 2 ^ n ∧ ∀ k ∈ keys, k.length = n ∧ 0 ∉ k := by
  refine ⟨Finset.univ.image (longKey n), ?_, ?_⟩
  · rw [Finset.card_image_of_injective _ (longKey_injective n), Finset.card_univ, Fintype.card_fun,
      Fintype.card_bool, Fintype.card_fin]
  · intro k member
    obtain ⟨bits, -, rfl⟩ := Finset.mem_image.mp member
    exact ⟨List.length_ofFn, zero_notMem_longKey bits⟩

theorem find_longMap (m : OrderedMap Bytes Bytes) :
    (OrderedMap.empty.insert videoSpecific ⟨[], m, none⟩ : GaVars).find videoSpecific =
      some ⟨[], m, none⟩ := by
  rw [OrderedMap.find_insert, if_pos rfl]

/-- With 2³¹ entries, `ga_conf_mapsize` is negative and none of them is collected. -/
theorem not_rtspconf_vso_collected :
    ¬ ∀ gaVars, Plain gaVars → Short gaVars → ∃ pairs, Collected gaVars pairs := by
  intro collected
  obtain ⟨keys, card, long⟩ := exists_longKeys 31
  have found := find_longMap (constantMap keys [49])
  have length := length_constantMap keys [49]
  have entries (k s : Bytes) : (constantMap keys [49]).find k = some s ↔ k ∈ keys ∧ s = [49] :=
    find_constantMap keys
  generalize constantMap keys [49] = m at found length entries
  have plain : Plain (OrderedMap.empty.insert videoSpecific ⟨[], m, none⟩) := by
    apply plain_empty.insert
    refine ⟨List.not_mem_nil, ?_, nofun⟩
    intro k s entry
    obtain ⟨member, rfl⟩ := (entries k s).mp entry
    exact ⟨(long k member).2, by decide⟩
  have short : Short (OrderedMap.empty.insert videoSpecific ⟨[], m, none⟩) := by
    constructor
    · rw [sub_dictOf found, Option.eq_none_iff_forall_ne_some]
      intro s entry
      cases (long [] ((entries [] s).mp entry).1).1
    · intro k s entry
      rw [sub_dictOf found] at entry
      obtain ⟨member, rfl⟩ := (entries k s).mp entry
      rw [(long k member).1]
      decide
  obtain ⟨pairs, options, ⟨enough, vso⟩, -⟩ := collected _ plain short
  have size : gaConfMapsize (OrderedMap.empty.insert videoSpecific ⟨[], m, none⟩) videoSpecific =
      int32 2147483648 := by
    simp only [gaConfMapsize, found, GaConfVar.msize, length, card]
    rfl
  have nothing := vso [] [] enough (Nat.le_refl _)
  rw [rtspconfVso, size, if_neg (by decide)] at nothing
  have no_pairs : pairs = [] := by
    have length := congrArg List.length (Option.some.inj nothing)
    rw [length_inTurn, List.length_nil] at length
    exact List.eq_nil_of_length_eq_zero (by omega)
  obtain ⟨k, member⟩ : ∃ k, k ∈ keys := by
    have positive : 0 < keys.card := by
      rw [card]
      decide
    exact Finset.card_pos.mp positive
  have entry := (entries k [49]).mpr ⟨member, rfl⟩
  rw [← sub_dictOf found] at entry
  have pair := (options.members k [49]).mpr ⟨by decide, entry⟩
  rw [no_pairs] at pair
  cases pair

end

end GamingAnywhere.Config
