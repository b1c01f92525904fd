import GamingAnywhere.Config.Store
import Mathlib.Data.List.Induction

namespace GamingAnywhere.Config
open Lib

/-! ## Dictionaries -/

structure Variable where
  scalar : Bytes
  sub : Bytes → Option Bytes

abbrev Dict := Bytes → Option Variable

namespace Dict

def sub (d : Dict) (name : Bytes) : Bytes → Option Bytes :=
  (d name).elim (fun _ => none) Variable.sub

def writev (d : Dict) (name value : Bytes) : Dict :=
  Function.update d name (some ⟨value, fun _ => none⟩)

def mapwritev (d : Dict) (name key value : Bytes) : Dict :=
  let x := (d name).getD ⟨[], fun _ => none⟩
  Function.update d name (some { x with sub := Function.update x.sub key (some value) })

def erase (d : Dict) (name : Bytes) : Dict := Function.update d name none

def maperase (d : Dict) (name key : Bytes) : Dict :=
  Function.update d name
    ((d name).map fun x => { x with sub := Function.update x.sub key none })

end Dict

structure Lists (keys : List Bytes) (sub : Bytes → Option Bytes) : Prop where
  sorted : keys.Pairwise (· < ·)
  members : ∀ k, k ∈ keys ↔ (sub k).isSome

structure Answers (gaVars : GaVars) (d : Dict) : Prop where
  readv : ∀ name store, gaConfReadv gaVars name store = (d name).map fun x => copyOut store x.scalar
  haskey : ∀ name key, gaConfHaskey gaVars name key = if (d.sub name key).isSome then 1 else 0
  listing : ∀ name, ∃ keys, Lists keys (d.sub name) ∧
    gaConfMapsize gaVars name = int32 keys.length ∧
    ∀ store, ∀ fuel ≥ keys.length, mapkeys fuel gaVars name store = some (keys.map (copyOut store))

/-! ## Calls -/

inductive Call
  | writev (key value : Bytes)
  | mapwritev (mapname key value : Bytes)
  | erase (key : Bytes)
  | maperase (mapname key : Bytes)
  | clear
  | mapreset (mapname : Bytes)
  | mapnextkey (mapname : Bytes) (keystore : Option Nat)

def Call.apply (gaVars : GaVars) : Call → GaVars
  | writev key value => gaConfWritev gaVars key value
  | mapwritev mapname key value => gaConfMapwritev gaVars mapname key value
  | erase key => gaConfErase gaVars key
  | maperase mapname key => gaConfMaperase gaVars mapname key
  | clear => gaConfClear gaVars
  | mapreset mapname => gaConfMapreset gaVars mapname
  | mapnextkey mapname keystore => (gaConfMapnextkey gaVars mapname keystore).1

def Call.meaning (d : Dict) : Call → Dict
  | writev key value => d.writev key value
  | mapwritev mapname key value => d.mapwritev mapname key value
  | erase key => d.erase key
  | maperase mapname key => d.maperase mapname key
  | clear => fun _ => none
  | mapreset _ | mapnextkey _ _ => d

def stored (calls : List Call) : GaVars := calls.foldl Call.apply .empty

def meant (calls : List Call) : Dict := calls.foldl Call.meaning fun _ => none

def Call.Harmless (gaVars : GaVars) : Call → Prop
  | maperase mapname _ => gaVars.find mapname = none
  | mapwritev _ key _ => key ≠ []
  | _ => True

/-! ## The abstraction -/

def variableOf (v : GaConfVar) : Variable := ⟨v.data, v.mapdata.find⟩

def dictOf (gaVars : GaVars) : Dict := fun name => (gaVars.find name).map variableOf

section
variable {gaVars : GaVars} {name key value : Bytes} {v : GaConfVar}

theorem dictOf_insert (gaVars : GaVars) (name : Bytes) (v : GaConfVar) :
    dictOf (gaVars.insert name v) = Function.update (dictOf gaVars) name (some (variableOf v)) := by
  funext other
  rw [dictOf, OrderedMap.find_insert, Function.update_apply]
  split_ifs <;> rfl

theorem dictOf_erase (gaVars : GaVars) (name : Bytes) :
    dictOf (gaVars.erase name) = (dictOf gaVars).erase name := by
  funext other
  rw [dictOf, OrderedMap.find_erase, Dict.erase, Function.update_apply]
  split_ifs <;> rfl

theorem find_put (v : GaConfVar) (key value : Bytes) :
    (v.put key value).mapdata.find = Function.update v.mapdata.find key (some value) := by
  funext other
  rw [GaConfVar.put, OrderedMap.find_insert, Function.update_apply]
  split_ifs <;> rfl

theorem dictOf_mapwritev (gaVars : GaVars) (name key value : Bytes) :
    dictOf (gaConfMapwritev gaVars name key value) = (dictOf gaVars).mapwritev name key value := by
  rw [gaConfMapwritev, dictOf_insert, Dict.mapwritev, variableOf, find_put]
  cases found : gaVars.find name <;> simp only [dictOf, found] <;> rfl

theorem dictOf_insert_iterator {mi : Option Bytes} (found : gaVars.find name = some v) :
    dictOf (gaVars.insert name { v with mi := mi }) = dictOf gaVars := by
  rw [dictOf_insert, Function.update_eq_self_iff, dictOf, found]
  rfl

theorem dictOf_mapreset (gaVars : GaVars) (name : Bytes) :
    dictOf (gaConfMapreset gaVars name) = dictOf gaVars := by
  unfold gaConfMapreset
  cases found : gaVars.find name with
  | none => rfl
  | some v => exact dictOf_insert_iterator found

theorem dictOf_mapnextkey (gaVars : GaVars) (name : Bytes) (keystore : Option Nat) :
    dictOf (gaConfMapnextkey gaVars name keystore).1 = dictOf gaVars := by
  unfold gaConfMapnextkey
  cases found : gaVars.find name with
  | none => rfl
  | some v =>
      have moved : ∃ mi, v.mnextkey.1 = { v with mi := mi } := by
        unfold GaConfVar.mnextkey
        cases v.mi with
        | none => exact ⟨v.mi, rfl⟩
        | some k => exact ⟨_, rfl⟩
      obtain ⟨mi, moved⟩ := moved
      dsimp only
      rw [moved]
      exact dictOf_insert_iterator found

theorem Call.refines {call : Call} (harmless : call.Harmless gaVars) :
    dictOf (call.apply gaVars) = call.meaning (dictOf gaVars) := by
  cases call with
  | writev key value => exact dictOf_insert gaVars key _
  | mapwritev mapname key value => exact dictOf_mapwritev gaVars mapname key value
  | erase key => exact dictOf_erase gaVars key
  | maperase mapname key =>
      have absent : gaVars.find mapname = none := harmless
      have nothing : dictOf gaVars mapname = none := by rw [dictOf, absent, Option.map_none]
      rw [apply, gaConfMaperase, absent, meaning, Dict.maperase, nothing, Option.map_none, eq_comm,
        Function.update_eq_self_iff, nothing]
  | clear => rfl
  | mapreset mapname => exact dictOf_mapreset gaVars mapname
  | mapnextkey mapname keystore => exact dictOf_mapnextkey gaVars mapname keystore

/-! ## The answers of one store -/

def Named (gaVars : GaVars) : Prop := ∀ name, (dictOf gaVars).sub name [] = none

theorem lists_keys (v : GaConfVar) : Lists v.mapdata.keys v.mapdata.find :=
  ⟨v.mapdata.sorted_keys, fun _ => v.mapdata.mem_keys⟩

theorem sub_dictOf (found : gaVars.find name = some v) :
    (dictOf gaVars).sub name = v.mapdata.find := by
  simp [Dict.sub, dictOf, found, variableOf]

theorem sub_dictOf_none (absent : gaVars.find name = none) :
    (dictOf gaVars).sub name = fun _ => none := by
  simp [Dict.sub, dictOf, absent]

theorem answers_dictOf (named : Named gaVars) : Answers gaVars (dictOf gaVars) := by
  refine ⟨?_, ?_, ?_⟩
  · intro name store
    rw [gaConfReadv, dictOf, Option.map_map]
    rfl
  · intro name key
    unfold gaConfHaskey
    cases found : gaVars.find name with
    | none => simp [sub_dictOf_none found]
    | some v => simp only [sub_dictOf found, GaConfVar.haskey]
  · intro name
    cases found : gaVars.find name with
    | none =>
        refine ⟨[], ⟨.nil, fun k => by simp [sub_dictOf_none found]⟩, ?_, ?_⟩
        · simp only [gaConfMapsize, found]
          rfl
        · intro store fuel _
          exact mapkeys_of_none fuel found
    | some v =>
        have unnamed : [] ∉ v.mapdata.keys := by
          rw [v.mapdata.mem_keys, ← sub_dictOf found, named name]
          exact Bool.false_ne_true
        refine ⟨v.mapdata.keys, ?_, ?_, ?_⟩
        · rw [sub_dictOf found]
          exact lists_keys v
        · simp only [gaConfMapsize, found, GaConfVar.msize, OrderedMap.keys, List.length_map]
        · intro store fuel enough
          exact mapkeys_of_named found unnamed enough

theorem Answers.named (answers : Answers gaVars (dictOf gaVars)) : Named gaVars := by
  intro name
  cases found : gaVars.find name with
  | none => rw [sub_dictOf_none found]
  | some v =>
      rw [sub_dictOf found, ← Option.not_isSome_iff_eq_none, ← v.mapdata.mem_keys]
      intro unnamed
      obtain ⟨keys, lists, -, listed⟩ := answers.listing name
      have member : [] ∈ keys := by
        rw [lists.members, sub_dictOf found, ← v.mapdata.mem_keys]
        exact unnamed
      have nothing := (mapkeys_of_unnamed keys.length found unnamed).symm.trans
        (listed none keys.length (Nat.le_refl _))
      have empty := List.map_eq_nil_iff.mp (Option.some.inj nothing).symm
      rw [empty] at member
      cases member

/-! ## Empty keys -/

theorem Dict.sub_update (d : Dict) (name : Bytes) (x : Option Variable) (other : Bytes) :
    Dict.sub (Function.update d name x) other =
      if other = name then x.elim (fun _ => none) Variable.sub else d.sub other := by
  unfold Dict.sub
  rw [Function.update_apply]
  split_ifs <;> rfl

theorem Dict.getD_sub (d : Dict) (name : Bytes) :
    ((d name).getD ⟨[], fun _ => none⟩).sub = d.sub name := by
  unfold Dict.sub
  cases d name <;> rfl

theorem Call.named {call : Call} (harmless : call.Harmless gaVars) (named : Named gaVars) :
    Named (call.apply gaVars) := by
  intro other
  rw [call.refines harmless]
  cases call with
  | writev key value =>
      rw [meaning, Dict.writev, Dict.sub_update]
      split_ifs
      · rfl
      · exact named other
  | mapwritev mapname key value =>
      have nonempty : key ≠ [] := harmless
      rw [meaning, Dict.mapwritev, Dict.sub_update]
      split_ifs
      · rw [Dict.getD_sub, Option.elim_some]
        exact (Function.update_of_ne nonempty.symm ..).trans (named mapname)
      · exact named other
  | erase key =>
      rw [meaning, Dict.erase, Dict.sub_update]
      split_ifs
      · rfl
      · exact named other
  | maperase mapname key =>
      have absent : gaVars.find mapname = none := harmless
      rw [meaning, Dict.maperase, Dict.sub_update, dictOf, absent]
      split_ifs
      · rfl
      · exact named other
  | clear => rfl
  | mapreset mapname => exact named other
  | mapnextkey mapname keystore => exact named other

/-! ## Runs -/

theorem Call.harmless_of_answers {call : Call}
    (answers : Answers (call.apply gaVars) (call.meaning (dictOf gaVars))) :
    call.Harmless gaVars := by
  cases call with
  | maperase mapname key =>
      change gaVars.find mapname = none
      cases found : gaVars.find mapname with
      | none => rfl
      | some v =>
          have erased := answers.readv mapname none
          rw [apply, gaConfMaperase, found, meaning, Dict.maperase, dictOf, found, gaConfReadv,
            OrderedMap.find_erase, if_pos rfl, Function.update_self] at erased
          cases erased
  | mapwritev mapname key value =>
      rintro rfl
      have done : dictOf ((mapwritev mapname [] value).apply gaVars) =
          (mapwritev mapname [] value).meaning (dictOf gaVars) := dictOf_mapwritev ..
      rw [← done] at answers
      have named := answers.named mapname
      rw [done, meaning, Dict.mapwritev, Dict.sub_update, if_pos rfl, Option.elim_some] at named
      dsimp only at named
      rw [Function.update_self] at named
      cases named
  | writev | erase | clear | mapreset | mapnextkey => trivial

end

def Harmless (calls : List Call) : Prop :=
  ∀ before call, before ++ [call] <+: calls → call.Harmless (stored before)

theorem stored_concat (calls : List Call) (call : Call) :
    stored (calls ++ [call]) = call.apply (stored calls) := List.foldl_concat ..

theorem meant_concat (calls : List Call) (call : Call) :
    meant (calls ++ [call]) = call.meaning (meant calls) := List.foldl_concat ..

theorem Harmless.initial {before calls : List Call} (harmless : Harmless calls)
    (prefix' : before <+: calls) : Harmless before :=
  fun earlier call within => harmless earlier call (within.trans prefix')

theorem Harmless.refines {calls : List Call} (harmless : Harmless calls) :
    dictOf (stored calls) = meant calls ∧ Named (stored calls) := by
  induction calls using List.reverseRecOn with
  | nil => exact ⟨rfl, fun _ => rfl⟩
  | append_singleton calls call ih =>
      obtain ⟨same, named⟩ := ih (harmless.initial (List.prefix_append _ _))
      have last := harmless calls call (List.prefix_refl _)
      rw [stored_concat, meant_concat, ← same]
      exact ⟨call.refines last, call.named last named⟩

theorem gaConf_answers_iff (calls : List Call) :
    (∀ before, before <+: calls → Answers (stored before) (meant before)) ↔ Harmless calls := by
  constructor
  · intro answers
    induction calls using List.reverseRecOn with
    | nil =>
        intro before call within
        simp at within
    | append_singleton calls call ih =>
        have harmless := ih fun before within => answers before (within.trans (List.prefix_append _ _))
        intro before last within
        rcases List.prefix_concat_iff.mp within with here | earlier
        · obtain ⟨rfl, singleton⟩ := List.append_inj' here rfl
          obtain rfl := List.singleton_inj.mp singleton
          have whole := answers _ (List.prefix_refl _)
          rw [stored_concat, meant_concat, ← harmless.refines.1] at whole
          exact Call.harmless_of_answers whole
        · exact harmless before last earlier
  · intro harmless before within
    obtain ⟨same, named⟩ := (harmless.initial within).refines
    rw [← same]
    exact answers_dictOf named

theorem not_gaConf_answers : ¬ ∀ calls, Answers (stored calls) (meant calls) := by
  intro answers
  have kept := (answers [.mapwritev [109] [97] [49], .mapwritev [109] [98] [50],
    .maperase [109] [97]]).haskey [109] [98]
  exact absurd kept (by decide +kernel)

end GamingAnywhere.Config
