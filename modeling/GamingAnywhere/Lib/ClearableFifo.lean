import GamingAnywhere.Lib.Fifo

namespace Lib

inductive Holding (α : Type*)
  | idle
  | stored (x : α)
  | outlived (x : α)

def Holding.clear {α : Type*} : Holding α → Holding α
  | .stored x => .outlived x
  | holding => holding

def Holding.element {α : Type*} : Holding α → Option α
  | .idle => none
  | .stored x | .outlived x => some x

structure ClearableFifo (α : Type*) where
  stored : List α
  holding : Holding α

namespace ClearableFifo

inductive Event (α : Type*)
  | call (e : Fifo.Event α)
  | clear

variable {α : Type*}

def empty : ClearableFifo α := ⟨[], .idle⟩

inductive Step : ClearableFifo α → Event α → ClearableFifo α → Prop
  | accept {stored : List α} {holding : Holding α} {x : α} :
      Step ⟨stored, holding⟩ (.call (.write x true)) ⟨stored ++ [x], holding⟩
  | refuse {f : ClearableFifo α} {x : α} : Step f (.call (.write x false)) f
  | none : Step ⟨[], .idle⟩ (.call (.read none)) ⟨[], .idle⟩
  | read {x : α} {rest : List α} :
      Step ⟨x :: rest, .idle⟩ (.call (.read (some x))) ⟨x :: rest, .stored x⟩
  | release {x : α} {rest : List α} : Step ⟨x :: rest, .stored x⟩ (.call .release) ⟨rest, .idle⟩
  | releaseOutlived {x : α} {stored : List α} :
      Step ⟨stored, .outlived x⟩ (.call .release) ⟨stored, .idle⟩
  | clear {f : ClearableFifo α} : Step f .clear ⟨[], f.holding.clear⟩

def system : System (ClearableFifo α) (Event α) where
  Init f := f = empty
  Step := Step

def Event.accepted : Event α → Option α
  | .call e => e.accepted
  | .clear => none

def Event.delivered : Event α → Option α
  | .call e => e.delivered
  | .clear => none

def unread (f : ClearableFifo α) : List α :=
  match f.holding with
  | .stored _ => f.stored.tail
  | _ => f.stored

def Oldest (f : ClearableFifo α) : Prop := ∀ x, f.holding = .stored x → f.stored.head? = some x

theorem Oldest.exists_cons {f : ClearableFifo α} (oldest : f.Oldest) {x : α} (holding : f.holding = .stored x) :
    ∃ rest, f.stored = x :: rest := by
  have first := oldest x holding
  cases here : f.stored with
  | nil =>
      rw [here] at first
      cases first
  | cons y rest =>
      rw [here] at first
      exact ⟨rest, by rw [Option.some.inj first]⟩

theorem oldest_empty : (empty : ClearableFifo α).Oldest := nofun

theorem Step.oldest {f g : ClearableFifo α} {l : Event α} (step : Step f l g) (oldest : f.Oldest) :
    g.Oldest := by
  cases step with
  | @accept stored holding x =>
      intro y reading
      have first := oldest y reading
      dsimp only at first ⊢
      rw [List.head?_append, first]
      rfl
  | refuse => exact oldest
  | none => exact oldest
  | read =>
      rintro y ⟨⟩
      rfl
  | release => nofun
  | releaseOutlived => nofun
  | @clear f =>
      intro y reading
      obtain ⟨stored, holding⟩ := f
      cases holding <;> cases reading

theorem Step.unread {f g : ClearableFifo α} {l : Event α} (step : Step f l g) (oldest : f.Oldest)
    (kept : l ≠ .clear) :
    f.unread ++ l.accepted.toList = l.delivered.toList ++ g.unread := by
  cases step with
  | @accept stored holding x =>
      cases holding with
      | stored y =>
          obtain ⟨rest, rfl⟩ : ∃ rest, stored = y :: rest := oldest.exists_cons rfl
          rfl
      | _ => rfl
  | clear => exact absurd rfl kept
  | _ => exact List.append_nil _

theorem accepted_eq {f g : ClearableFifo α} {ls : List (Event α)} (run : system.Run f ls g)
    (oldest : f.Oldest) (kept : Event.clear ∉ ls) :
    f.unread ++ ls.filterMap Event.accepted = ls.filterMap Event.delivered ++ g.unread := by
  rw [List.filterMap_eq_flatMap_toList, List.filterMap_eq_flatMap_toList]
  induction run with
  | nil => simp
  | cons step _ ih =>
      obtain ⟨first, later⟩ := List.ne_and_not_mem_of_not_mem_cons kept
      have now := Step.unread step oldest first.symm
      have rest := ih (Step.oldest step oldest) later
      rw [List.flatMap_cons, ← List.append_assoc, now, List.append_assoc, rest, List.flatMap_cons,
        List.append_assoc]

end ClearableFifo
end Lib
