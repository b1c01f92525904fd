import GamingAnywhere.Lib.Transition

namespace Lib

structure Fifo (α : Type*) where
  stored : List α
  held : Option α

namespace Fifo

inductive Event (α : Type*)
  | write (x : α) (accepted : Bool)
  | read (found : Option α)
  | release

variable {α : Type*} {cap : Nat}

def empty : Fifo α := ⟨[], none⟩

inductive Step (cap : Nat) : Fifo α → Event α → Fifo α → Prop
  | accept {stored : List α} {held : Option α} {x : α} : stored.length < cap →
      Step cap ⟨stored, held⟩ (.write x true) ⟨stored ++ [x], held⟩
  | drop {f : Fifo α} {x : α} : cap ≤ f.stored.length → Step cap f (.write x false) f
  | none : Step cap ⟨[], none⟩ (.read none) ⟨[], none⟩
  | read {x : α} {rest : List α} :
      Step cap ⟨x :: rest, none⟩ (.read (some x)) ⟨x :: rest, some x⟩
  | release {x : α} {rest : List α} : Step cap ⟨x :: rest, some x⟩ .release ⟨rest, none⟩

def system (cap : Nat) : System (Fifo α) (Event α) where
  Init f := f = empty
  Step := Step cap

def Event.accepted : Event α → Option α
  | .write x true => some x
  | _ => none

def Event.delivered : Event α → Option α
  | .read found => found
  | _ => none

def Oldest (f : Fifo α) : Prop := f.held.toList <+: f.stored

theorem Step.oldest {f g : Fifo α} {l : Event α} (step : Step cap f l g) (oldest : f.Oldest) :
    g.Oldest := by
  cases step with
  | accept room => exact oldest.trans (List.prefix_append _ _)
  | drop full => exact oldest
  | none => exact oldest
  | read => exact ⟨_, rfl⟩
  | release => exact List.nil_prefix

theorem contents {f g : Fifo α} {ls : List (Event α)} (run : (system cap).Run f ls g) :
    ∃ gone, f.stored ++ ls.filterMap Event.accepted = gone ++ g.stored ∧
      f.held.toList ++ ls.filterMap Event.delivered = gone ++ g.held.toList := by
  induction run with
  | nil => exact ⟨[], by simp⟩
  | cons step _ ih =>
      obtain ⟨gone, accepted, delivered⟩ := ih
      cases step with
      | accept room => exact ⟨gone, by simpa [Event.accepted] using accepted, delivered⟩
      | drop full => exact ⟨gone, accepted, delivered⟩
      | none => exact ⟨gone, accepted, delivered⟩
      | read => exact ⟨gone, accepted, delivered⟩
      | @release x rest =>
          refine ⟨x :: gone, ?_, ?_⟩
          · exact congrArg (x :: ·) accepted
          · exact congrArg (x :: ·) delivered

theorem delivered_prefix_accepted {f : Fifo α} {ls : List (Event α)}
    (run : (system cap).Run empty ls f) :
    ls.filterMap Event.delivered <+: ls.filterMap Event.accepted := by
  obtain ⟨gone, accepted, delivered⟩ := contents run
  have oldest : f.Oldest :=
    run.invariant (I := Oldest) (fun _ _ _ before step => Step.oldest step before) List.nil_prefix
  change ls.filterMap Event.accepted = _ at accepted
  change ls.filterMap Event.delivered = _ at delivered
  rw [accepted, delivered]
  exact (List.prefix_append_right_inj gone).mpr oldest

end Fifo
end Lib
