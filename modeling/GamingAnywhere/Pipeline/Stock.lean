import GamingAnywhere.Lib.Transition
import Mathlib.Data.List.Perm.Basic

namespace GamingAnywhere.Pipeline
open Lib

/-- `storing` is the call of `store_data` and `store` the moment at which the data can be loaded. -/
inductive PoolEvent (ι α : Type*)
  | allocate (i : ι) (data : α) (stolen : Bool)
  | abort (i : ι)
  | storing (i : ι) (data : α)
  | store (i : ι) (data : α)
  | load (i : ι) (data : Option α)
  | release (i : ι) (data : α)

structure Stock (ι α : Type*) where
  free : List α
  data : List α
  held : List (ι × α)
  exited : Bool

section
variable {ι α : Type*} [DecidableEq ι] [DecidableEq α]

inductive StockStep : Stock ι α → PoolEvent ι α → Stock ι α → Prop
  | allocate {i : ι} {p : α} {free data : List α} {held : List (ι × α)} :
      StockStep ⟨p :: free, data, held, false⟩ (.allocate i p false)
        ⟨free, data, (i, p) :: held, false⟩
  | steal {i : ι} {p : α} {data : List α} {held : List (ι × α)} :
      StockStep ⟨[], p :: data, held, false⟩ (.allocate i p true) ⟨[], data, (i, p) :: held, false⟩
  | abort {i : ι} {held : List (ι × α)} :
      StockStep ⟨[], [], held, false⟩ (.abort i) ⟨[], [], held, true⟩
  | storing {i : ι} {p : α} {free data : List α} {held : List (ι × α)} : (i, p) ∈ held →
      StockStep ⟨free, data, held, false⟩ (.storing i p) ⟨free, data, held, false⟩
  | store {i : ι} {p : α} {free data : List α} {held : List (ι × α)} : (i, p) ∈ held →
      StockStep ⟨free, data, held, false⟩ (.store i p)
        ⟨free, data ++ [p], held.erase (i, p), false⟩
  | load {i : ι} {p : α} {free data : List α} {held : List (ι × α)} :
      StockStep ⟨free, p :: data, held, false⟩ (.load i (some p))
        ⟨free, data, (i, p) :: held, false⟩
  | loadNull {i : ι} {free : List α} {held : List (ι × α)} :
      StockStep ⟨free, [], held, false⟩ (.load i none) ⟨free, [], held, false⟩
  | release {i : ι} {p : α} {free data : List α} {held : List (ι × α)} : (i, p) ∈ held →
      StockStep ⟨free, data, held, false⟩ (.release i p)
        ⟨p :: free, data, held.erase (i, p), false⟩

def stock (free : List α) : System (Stock ι α) (PoolEvent ι α) where
  Init s := s = ⟨free, [], [], false⟩
  Step := StockStep

end

section
variable {ι α : Type*}

def Stock.all (s : Stock ι α) : List α := s.free ++ s.data ++ s.held.map Prod.snd

variable [DecidableEq ι] [DecidableEq α] {s t : Stock ι α} {l : PoolEvent ι α}

theorem perm_of_held {held : List (ι × α)} {i : ι} {p : α} (mine : (i, p) ∈ held) :
    (held.map Prod.snd).Perm (p :: (held.erase (i, p)).map Prod.snd) :=
  (List.perm_cons_erase mine).map Prod.snd

theorem StockStep.perm (step : StockStep s l t) : t.all.Perm s.all := by
  cases step with
  | allocate => exact List.perm_middle
  | steal => exact List.perm_middle
  | abort => exact .refl _
  | storing mine => exact .refl _
  | @store i p free data held mine =>
      have later : (free ++ data ++ held.map Prod.snd).Perm
          (free ++ data ++ p :: (held.erase (i, p)).map Prod.snd) :=
        (perm_of_held mine).append_left _
      simpa [Stock.all] using later.symm
  | @load i p free data held =>
      have before : (free ++ p :: (data ++ held.map Prod.snd)).Perm
          (p :: (free ++ (data ++ held.map Prod.snd))) := List.perm_middle
      have after : (free ++ data ++ p :: held.map Prod.snd).Perm
          (p :: (free ++ data ++ held.map Prod.snd)) := List.perm_middle
      simpa [Stock.all] using after.trans (by simpa using before.symm)
  | loadNull => exact .refl _
  | @release i p free data held mine =>
      have later : (free ++ data ++ held.map Prod.snd).Perm
          (free ++ data ++ p :: (held.erase (i, p)).map Prod.snd) :=
        (perm_of_held mine).append_left _
      exact (later.trans List.perm_middle).symm

theorem stock_perm {free : List α} {ls : List (PoolEvent ι α)}
    (run : (stock free).Run ⟨free, [], [], false⟩ ls s) : s.all.Perm free := by
  have start : (⟨free, [], [], false⟩ : Stock ι α).all.Perm free := by simp [Stock.all]
  exact run.invariant (I := fun s => s.all.Perm free)
    (fun _ _ _ before step => (StockStep.perm step).trans before) start

def PoolEvent.stored : PoolEvent ι α → Option α
  | .store _ data => some data
  | _ => none

def PoolEvent.taken : PoolEvent ι α → Option α
  | .allocate _ data true => some data
  | .load _ data => data
  | _ => none

theorem StockStep.order (step : StockStep s l t) :
    s.data ++ l.stored.toList = l.taken.toList ++ t.data := by
  cases step with
  | store mine => rfl
  | allocate | steal | abort | storing | load | loadNull | release =>
      simp [PoolEvent.stored, PoolEvent.taken]

theorem stock_order {free : List α} {ls : List (PoolEvent ι α)} (run : (stock free).Run s ls t) :
    s.data ++ ls.filterMap PoolEvent.stored = ls.filterMap PoolEvent.taken ++ t.data :=
  run.balance_option (I := fun _ => True) Stock.data (fun _ _ _ _ _ => trivial)
    (fun _ _ _ _ step => StockStep.order step) trivial

theorem StockStep.data_ne_nil (step : StockStep s l t) (untaken : l.taken = none) (filled : s.data ≠ []) :
    t.data ≠ [] := by
  have order := step.order
  rw [untaken, Option.toList_none, List.nil_append] at order
  rw [← order]
  exact List.append_ne_nil_of_left_ne_nil filled _

def PoolEvent.gained : PoolEvent ι α → Nat
  | .allocate .. | .load _ (some _) => 1
  | _ => 0

def PoolEvent.given : PoolEvent ι α → Nat
  | .store .. | .release .. => 1
  | _ => 0

theorem StockStep.length_held (step : StockStep s l t) :
    t.held.length + l.given = s.held.length + l.gained := by
  cases step with
  | store mine | release mine => exact List.length_erase_add_one mine
  | allocate | steal | abort | storing | load | loadNull => rfl

end

end GamingAnywhere.Pipeline
