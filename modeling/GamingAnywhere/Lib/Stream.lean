import GamingAnywhere.Lib.Transition

namespace Lib.Stream

inductive Event (α : Type*)
  | write (xs : List α) (accepted : Bool)
  | read (xs : List α)

variable {α : Type*} {cap : Nat}

inductive Step (cap : Nat) : List α → Event α → List α → Prop
  | accept {stored xs : List α} : stored.length + xs.length ≤ cap →
      Step cap stored (.write xs true) (stored ++ xs)
  | drop {stored xs : List α} : cap < stored.length + xs.length →
      Step cap stored (.write xs false) stored
  | read {xs rest : List α} : Step cap (xs ++ rest) (.read xs) rest

def system (cap : Nat) : System (List α) (Event α) where
  Init stored := stored = []
  Step := Step cap

def Event.accepted : Event α → List α
  | .write xs true => xs
  | _ => []

def Event.delivered : Event α → List α
  | .read xs => xs
  | _ => []

theorem conservation {stored rest : List α} {ls : List (Event α)}
    (run : (system cap).Run stored ls rest) :
    stored ++ ls.flatMap Event.accepted = ls.flatMap Event.delivered ++ rest := by
  induction run with
  | nil => simp
  | cons step _ ih =>
      cases step with
      | accept room =>
          rw [List.append_assoc] at ih
          exact ih
      | drop full => exact ih
      | @read xs rest =>
          simp only [List.flatMap_cons, Event.accepted, Event.delivered, List.nil_append,
            List.append_assoc]
          rw [ih]

theorem delivered_prefix_accepted {rest : List α} {ls : List (Event α)}
    (run : (system cap).Run [] ls rest) :
    ls.flatMap Event.delivered <+: ls.flatMap Event.accepted := by
  have kept := conservation run
  rw [List.nil_append] at kept
  exact ⟨rest, kept.symm⟩

end Lib.Stream
