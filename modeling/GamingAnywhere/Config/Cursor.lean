import GamingAnywhere.Config.Dictionary
import GamingAnywhere.Lib.Transition

namespace GamingAnywhere.Config
open Lib

/-! ## Iterators -/

/-- An iterator of `ga_vars`, `invalid` once its entry is erased. -/
inductive Iterator
  | atEnd
  | entry (name : Bytes)
  | invalid

namespace Iterator

def ofEntry : Option Bytes → Iterator
  | none => atEnd
  | some name => entry name

def kept (gaVars : GaVars) : Iterator → Iterator
  | entry name => if (gaVars.find name).isSome then entry name else invalid
  | i => i

def Valid (gaVars : GaVars) : Iterator → Prop
  | atEnd => True
  | entry name => (gaVars.find name).isSome
  | invalid => False

end Iterator

/-! ## Calls -/

structure Conf where
  gaVars : GaVars
  gaVmi : Iterator

inductive Answer
  | null
  | name (key : Bytes)
  | undefined

def Answer.Present (gaVars : GaVars) : Answer → Prop
  | null => True
  | name key => (gaVars.find key).isSome
  | undefined => False

namespace Conf

/-- `ga_vmi` is initialised with `ga_vars.begin()`. -/
def start : Conf :=
  let gaVars : GaVars := .empty
  ⟨gaVars, .ofEntry gaVars.first?⟩

def gaConfReset (s : Conf) : Conf := { s with gaVmi := .ofEntry s.gaVars.first? }

def gaConfKey (s : Conf) : Answer :=
  match s.gaVmi with
  | .atEnd => .null
  | .entry name => .name name
  | .invalid => .undefined

def gaConfNextkey (s : Conf) : Conf × Answer :=
  match s.gaVmi with
  | .atEnd => (s, .null)
  | .entry name =>
      let moved := { s with gaVmi := .ofEntry (s.gaVars.next? name) }
      (moved, moved.gaConfKey)
  | .invalid => (s, .undefined)

/-- A call that knows nothing of the cursor, except that `ga_conf_clear` sets it. -/
def call (s : Conf) (c : Call) : Conf :=
  let gaVars := c.apply s.gaVars
  match c with
  | .clear => ⟨gaVars, .ofEntry gaVars.first?⟩
  | _ => ⟨gaVars, s.gaVmi.kept gaVars⟩

def Valid (s : Conf) : Prop := s.gaVmi.Valid s.gaVars

end Conf

inductive Op
  | call (c : Call)
  | reset
  | key
  | nextkey

def Op.apply (s : Conf) : Op → Conf × Option Answer
  | call c => (s.call c, none)
  | reset => (s.gaConfReset, none)
  | key => (s, some s.gaConfKey)
  | nextkey => (s.gaConfNextkey.1, some s.gaConfNextkey.2)

def cursor : System Conf Op where
  Init s := s = .start
  Step s op t := t = (op.apply s).1

def InStore (s : Conf) (op : Op) (t : Conf) : Prop :=
  t.Valid ∧ ∀ a, (op.apply s).2 = some a → a.Present t.gaVars

def SparesCursor (s : Conf) (op : Op) (_ : Conf) : Prop :=
  match op with
  | .call (.erase key) => s.gaVmi ≠ .entry key
  | .call (.maperase mapname _) => s.gaVmi ≠ .entry mapname
  | _ => True

/-! ## Validity -/

section
variable {gaVars : GaVars} {s : Conf}

theorem Iterator.valid_first (gaVars : GaVars) : (ofEntry gaVars.first?).Valid gaVars := by
  cases first : gaVars.first? with
  | none => trivial
  | some name => exact gaVars.mem_keys.mp (List.mem_of_head? first)

theorem Iterator.valid_next (gaVars : GaVars) (name : Bytes) :
    (ofEntry (gaVars.next? name)).Valid gaVars := by
  cases next : gaVars.next? name with
  | none => trivial
  | some key => exact gaVars.mem_keys.mp (List.mem_of_find?_eq_some next)

theorem Iterator.valid_kept {i : Iterator} (found : ∀ name, i = entry name → (gaVars.find name).isSome)
    (valid : i ≠ invalid) : (i.kept gaVars).Valid gaVars := by
  cases i with
  | atEnd => trivial
  | entry name =>
      have here := found name rfl
      rw [kept, if_pos here]
      exact here
  | invalid => exact absurd rfl valid

theorem Iterator.not_valid_kept {name : Bytes} (gone : gaVars.find name = none) :
    ¬((entry name).kept gaVars).Valid gaVars := by
  rw [kept, gone]
  exact id

theorem find_gaConfMaperase (gaVars : GaVars) (mapname key name : Bytes) :
    (gaConfMaperase gaVars mapname key).find name = if name = mapname then none else gaVars.find name := by
  rw [gaConfMaperase]
  cases found : gaVars.find mapname with
  | none =>
      split_ifs with same
      · rw [same]
        exact found
      · rfl
  | some v =>
      change (gaVars.erase mapname).find name = _
      rw [OrderedMap.find_erase]
      split_ifs <;> rfl

theorem find_insert_isSome {name key : Bytes} {v : GaConfVar} (found : (gaVars.find name).isSome) :
    ((gaVars.insert key v).find name).isSome := by
  rw [OrderedMap.find_insert]
  split_ifs
  · rfl
  · exact found

theorem Call.find_isSome {c : Call} {name : Bytes} (found : (gaVars.find name).isSome)
    (not_erase : c ≠ .erase name) (not_maperase : ∀ key, c ≠ .maperase name key) (not_clear : c ≠ .clear) :
    ((c.apply gaVars).find name).isSome := by
  cases c with
  | writev key value => exact find_insert_isSome found
  | mapwritev mapname key value => exact find_insert_isSome found
  | erase key =>
      have other : name ≠ key := fun same => not_erase (same ▸ rfl)
      rw [apply, gaConfErase, OrderedMap.find_erase, if_neg other]
      exact found
  | maperase mapname key =>
      have other : name ≠ mapname := fun same => not_maperase key (same ▸ rfl)
      rw [apply, find_gaConfMaperase, if_neg other]
      exact found
  | clear => exact absurd rfl not_clear
  | mapreset mapname =>
      rw [apply, gaConfMapreset]
      cases gaVars.find mapname with
      | none => exact found
      | some v => exact find_insert_isSome found
  | mapnextkey mapname keystore =>
      rw [apply, gaConfMapnextkey]
      cases gaVars.find mapname with
      | none => exact found
      | some v => exact find_insert_isSome found

theorem Conf.call_of_ne {c : Call} (not_clear : c ≠ .clear) :
    s.call c = ⟨c.apply s.gaVars, s.gaVmi.kept (c.apply s.gaVars)⟩ := by
  cases c <;> first | rfl | exact absurd rfl not_clear

theorem Conf.valid_call {c : Call} (valid : s.Valid) (spared : SparesCursor s (.call c) (s.call c)) :
    (s.call c).Valid := by
  by_cases clear : c = .clear
  · rw [clear]
    exact Iterator.valid_first _
  · rw [Conf.call_of_ne clear]
    apply Iterator.valid_kept
    · intro name at_name
      have found : (s.gaVars.find name).isSome := by
        rw [Conf.Valid, at_name] at valid
        exact valid
      apply Call.find_isSome found _ _ clear
      · rintro rfl
        exact spared at_name
      · rintro key rfl
        exact spared at_name
    · intro invalid
      rw [Conf.Valid, invalid] at valid
      exact valid

theorem Conf.present_key (valid : s.Valid) : s.gaConfKey.Present s.gaVars := by
  rw [Conf.Valid] at valid
  rw [gaConfKey]
  cases here : s.gaVmi with
  | atEnd => trivial
  | entry name =>
      rw [here] at valid
      exact valid
  | invalid =>
      rw [here] at valid
      exact valid.elim

theorem Conf.nextkey_of_valid (valid : s.Valid) :
    s.gaConfNextkey.1.Valid ∧ s.gaConfNextkey.2.Present s.gaConfNextkey.1.gaVars := by
  rw [gaConfNextkey]
  cases here : s.gaVmi with
  | atEnd => exact ⟨valid, trivial⟩
  | entry name =>
      have moved : Conf.Valid { s with gaVmi := .ofEntry (s.gaVars.next? name) } :=
        Iterator.valid_next s.gaVars name
      exact ⟨moved, Conf.present_key moved⟩
  | invalid =>
      rw [Conf.Valid, here] at valid
      exact valid.elim

theorem inStore_of_spares {op : Op} (valid : s.Valid) (spared : SparesCursor s op (op.apply s).1) :
    InStore s op (op.apply s).1 := by
  cases op with
  | call c => exact ⟨Conf.valid_call valid spared, nofun⟩
  | reset => exact ⟨Iterator.valid_first _, nofun⟩
  | key =>
      refine ⟨valid, ?_⟩
      rintro a ⟨⟩
      exact Conf.present_key valid
  | nextkey =>
      obtain ⟨kept, present⟩ := Conf.nextkey_of_valid valid
      refine ⟨kept, ?_⟩
      rintro a ⟨⟩
      exact present

theorem spares_of_inStore {op : Op} (inStore : InStore s op (op.apply s).1) :
    SparesCursor s op (op.apply s).1 := by
  have valid := inStore.1
  cases op with
  | call c =>
      cases c with
      | erase key =>
          intro at_key
          have gone : (gaConfErase s.gaVars key).find key = none := by
            rw [gaConfErase, OrderedMap.find_erase, if_pos rfl]
          have not_clear : Call.erase key ≠ .clear := nofun
          change (s.call (.erase key)).Valid at valid
          rw [Conf.call_of_ne not_clear, Conf.Valid, at_key] at valid
          exact Iterator.not_valid_kept gone valid
      | maperase mapname key =>
          intro at_name
          have gone : (gaConfMaperase s.gaVars mapname key).find mapname = none := by
            rw [find_gaConfMaperase, if_pos rfl]
          have not_clear : Call.maperase mapname key ≠ .clear := nofun
          change (s.call (.maperase mapname key)).Valid at valid
          rw [Conf.call_of_ne not_clear, Conf.Valid, at_name] at valid
          exact Iterator.not_valid_kept gone valid
      | writev | mapwritev | clear | mapreset | mapnextkey => trivial
  | reset | key | nextkey => trivial

theorem gaConf_cursor_inStore_iff (ops : List Op) (t : Conf) :
    (cursor.restrict InStore).Run .start ops t ↔ (cursor.restrict SparesCursor).Run .start ops t := by
  have first : Conf.start.Valid := Iterator.valid_first _
  constructor
  · intro run
    refine run.restrict_imp (I := Conf.Valid) ?_ ?_ first
    · intro s op t _ inStore _
      exact inStore.1
    · rintro s op t _ inStore rfl
      exact spares_of_inStore inStore
  · intro run
    refine run.restrict_imp (I := Conf.Valid) ?_ ?_ first
    · rintro s op t valid spared rfl
      exact (inStore_of_spares valid spared).1
    · rintro s op t valid spared rfl
      exact inStore_of_spares valid spared

theorem not_gaConf_cursor_inStore :
    ¬∀ ops t, cursor.Run .start ops t → (cursor.restrict InStore).Run .start ops t := by
  intro inStore
  have run : cursor.Run .start [.call (.writev [97] []), .reset, .call (.erase [97])] ⟨_, .invalid⟩ :=
    .cons rfl (.cons rfl (.cons rfl (.nil _)))
  obtain _ | ⟨_, obtained⟩ := inStore _ _ run
  obtain _ | ⟨_, obtained⟩ := obtained
  obtain _ | ⟨erased, obtained⟩ := obtained
  obtain _ | _ := obtained
  exact erased.1.1

end

end GamingAnywhere.Config
