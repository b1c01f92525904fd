import Mathlib.Data.List.TakeDrop
import GamingAnywhere.Lib.Fifo

namespace Lib

/-- `sent` is between the offer and the release; after an offer that failed the reader is `stopped`. -/
inductive Outbox.Phase
  | running
  | sent
  | stopped
  deriving DecidableEq

structure Outbox (β : Type*) where
  fifo : Fifo (List β)
  phase : Outbox.Phase
  wire : List β

namespace Outbox

inductive Event (β : Type*)
  | queue (e : Fifo.Event (List β))
  | send (msg : List β) (taken : Nat)
  | fail

variable {β : Type*} {cap : Nat}

def empty : Outbox β := ⟨.empty, .running, []⟩

inductive Step (cap : Nat) : Outbox β → Event β → Outbox β → Prop
  | write {f g : Fifo (List β)} {phase : Phase} {wire msg : List β} {accepted : Bool} :
      phase ≠ .stopped → Fifo.Step cap f (.write msg accepted) g →
      Step cap ⟨f, phase, wire⟩ (.queue (.write msg accepted)) ⟨g, phase, wire⟩
  | read {f g : Fifo (List β)} {wire : List β} {found : Option (List β)} :
      Fifo.Step cap f (.read found) g →
      Step cap ⟨f, .running, wire⟩ (.queue (.read found)) ⟨g, .running, wire⟩
  | send {f : Fifo (List β)} {wire msg : List β} {taken : Nat} :
      f.held = some msg → taken ≤ msg.length →
      Step cap ⟨f, .running, wire⟩ (.send msg taken) ⟨f, .sent, wire ++ msg.take taken⟩
  | fail {f : Fifo (List β)} {wire : List β} :
      Step cap ⟨f, .running, wire⟩ .fail ⟨f, .stopped, wire⟩
  | release {f g : Fifo (List β)} {wire : List β} :
      Fifo.Step cap f .release g →
      Step cap ⟨f, .sent, wire⟩ (.queue .release) ⟨g, .running, wire⟩

def system (cap : Nat) : System (Outbox β) (Event β) where
  Init o := o = empty
  Step := Step cap

def Event.accepted : Event β → Option (List β)
  | queue e => e.accepted
  | _ => none

def Event.offered : Event β → Option (List β)
  | send msg _ => some msg
  | _ => none

def Event.put : Event β → List β
  | send msg taken => msg.take taken
  | _ => []

def unsent (o : Outbox β) : List (List β) :=
  if o.phase = .sent then o.fifo.stored.tail else o.fifo.stored

structure Valid (o : Outbox β) : Prop where
  oldest : o.fifo.Oldest
  sent : o.phase = .sent → o.fifo.stored ≠ []

theorem Step.valid {o o' : Outbox β} {l : Event β} (step : Step cap o l o') (valid : o.Valid) :
    o'.Valid := by
  cases step with
  | write running written =>
      refine ⟨written.oldest valid.oldest, fun sent => ?_⟩
      have filled := valid.sent sent
      cases written with
      | accept room => exact List.append_ne_nil_of_right_ne_nil _ (List.cons_ne_nil _ _)
      | drop full => exact filled
  | read found => exact ⟨found.oldest valid.oldest, nofun⟩
  | @send f wire msg taken held within =>
      refine ⟨valid.oldest, fun _ => ?_⟩
      obtain ⟨rest, stored⟩ := valid.oldest
      dsimp only at stored ⊢
      rw [← stored, held]
      exact List.cons_ne_nil _ _
  | fail => exact ⟨valid.oldest, nofun⟩
  | release released => exact ⟨released.oldest valid.oldest, nofun⟩

theorem Step.balance {o o' : Outbox β} {l : Event β} (valid : o.Valid) (step : Step cap o l o') :
    o.unsent ++ l.accepted.toList = l.offered.toList ++ o'.unsent := by
  cases step with
  | @write f g phase wire msg accepted running written =>
      cases written with
      | accept room =>
          by_cases sent : phase = .sent
          · have filled := valid.sent sent
            simp [unsent, sent, Event.accepted, Event.offered, Fifo.Event.accepted,
              List.tail_append_of_ne_nil filled]
          · simp [unsent, sent, Event.accepted, Event.offered, Fifo.Event.accepted]
      | drop full => simp [unsent, Event.accepted, Event.offered, Fifo.Event.accepted]
  | read found =>
      cases found <;> simp [unsent, Event.accepted, Event.offered, Fifo.Event.accepted]
  | @send f wire msg taken held within =>
      obtain ⟨rest, stored⟩ := valid.oldest
      dsimp only at stored
      rw [held] at stored
      simp [unsent, ← stored, Event.accepted, Event.offered]
  | fail => simp [unsent, Event.accepted, Event.offered]
  | release released =>
      cases released
      simp [unsent, Event.accepted, Event.offered, Fifo.Event.accepted]

theorem Step.wire {o o' : Outbox β} {l : Event β} (step : Step cap o l o') :
    o'.wire = o.wire ++ l.put := by
  cases step <;> simp [Event.put]

def Event.Whole : Event β → Prop
  | send msg taken => taken = msg.length
  | _ => True

def Event.isSend (l : Event β) : Bool := l.offered.isSome

theorem Event.put_prefix (l : Event β) : l.put <+: l.offered.toList.flatten := by
  cases l with
  | send msg taken =>
      rw [Event.offered, Option.toList_some, List.flatten_singleton]
      exact List.take_prefix _ _
  | _ => exact List.nil_prefix

theorem Step.put_eq_iff {o o' : Outbox β} {l : Event β} (step : Step cap o l o') :
    l.put = l.offered.toList.flatten ↔ l.Whole := by
  cases step with
  | @send f wire msg taken held within =>
      rw [Event.put, Event.offered, Option.toList_some, List.flatten_singleton, List.take_eq_self_iff]
      exact ⟨fun all => Nat.le_antisymm within all, Nat.le_of_eq ∘ Eq.symm⟩
  | _ => exact ⟨fun _ => trivial, fun _ => rfl⟩

variable {o : Outbox β} {ls : List (Event β)}

theorem valid_empty : (empty : Outbox β).Valid := ⟨List.nil_prefix, nofun⟩

theorem accepted_eq (run : (system cap).Run empty ls o) :
    ls.filterMap Event.accepted = ls.filterMap Event.offered ++ o.unsent :=
  run.balance_option unsent (fun _ _ _ valid step => Step.valid step valid)
    (fun _ _ _ valid step => Step.balance valid step) valid_empty

theorem wire_eq (run : (system cap).Run empty ls o) : o.wire = ls.flatMap Event.put := by
  have all : (empty : Outbox β).wire ++ ls.flatMap Event.put = (ls.flatMap fun _ => []) ++ o.wire :=
    run.balance (I := fun _ => True) wire (fun _ _ _ _ _ => trivial)
      (fun _ _ _ _ step => (Step.wire step).symm) trivial
  have nothing : (ls.flatMap fun _ => ([] : List β)) = [] := by simp
  rw [nothing] at all
  exact all.symm

theorem wire_eq_offered_iff (run : (system cap).Run empty ls o) :
    o.wire = (ls.filterMap Event.offered).flatten ↔ ∀ l ∈ ls, l.Whole := by
  rw [wire_eq run, System.flatten_filterMap, flatMap_eq_iff Event.put_prefix]
  refine forall₂_congr fun l member => ?_
  obtain ⟨_, _, step⟩ := run.step_of_mem member
  exact Step.put_eq_iff step

theorem offered_eq_take (run : (system cap).Run empty ls o) :
    ls.filterMap Event.offered = (ls.filterMap Event.accepted).take (ls.countP Event.isSend) := by
  have sends : (ls.filterMap Event.offered).length = ls.countP Event.isSend :=
    List.length_filterMap_eq_countP
  rw [accepted_eq run, ← sends, List.take_left]

end Outbox
end Lib
