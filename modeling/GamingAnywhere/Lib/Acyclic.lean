import Mathlib.Data.Fintype.Card
import Mathlib.Data.Set.Finite.Basic
import Mathlib.Logic.Relation
import Mathlib.Order.WellFounded

namespace Lib
open Relation

variable {α : Type*} {R : α → α → Prop} {a : α}

def ReachesCycle (R : α → α → Prop) (a : α) : Prop := ∃ b, ReflTransGen R a b ∧ TransGen R b b

theorem exists_lower {D : Nat → α → Prop} (first : ∀ a, ¬ D 0 a)
    (step : ∀ n a b, D (n + 1) a → R a b → D n b) {n : Nat} {b : α} (holds : D n a)
    (reached : TransGen R a b) : ∃ m < n, D m b := by
  have lower {n : Nat} {a b : α} (holds : D n a) (taken : R a b) : ∃ m < n, D m b := by
    obtain _ | n := n
    · exact absurd holds (first a)
    · exact ⟨n, Nat.lt_succ_self n, step n a b holds taken⟩
  induction reached with
  | single taken => exact lower holds taken
  | tail _ taken ih =>
      obtain ⟨m, below, holds⟩ := ih
      obtain ⟨m', below', holds⟩ := lower holds taken
      exact ⟨m', below'.trans below, holds⟩

theorem not_reachesCycle_of_lower {D : Nat → α → Prop} (first : ∀ a, ¬ D 0 a)
    (step : ∀ n a b, D (n + 1) a → R a b → D n b) {n : Nat} (holds : D n a) : ¬ ReachesCycle R a := by
  have none (n : Nat) : ∀ b, D n b → ¬ TransGen R b b := by
    induction n using Nat.strong_induction_on with
    | _ n ih =>
        intro b holds cycle
        obtain ⟨m, below, holds⟩ := exists_lower first step holds cycle
        exact ih m below b holds cycle
  rintro ⟨b, reached, cycle⟩
  rcases reflTransGen_iff_eq_or_transGen.mp reached with rfl | reached
  · exact none n _ holds cycle
  · obtain ⟨m, -, holds⟩ := exists_lower first step holds reached
    exact none m b holds cycle

theorem acyclic_induction {P : α → Prop} (finite : {b | ReflTransGen R a b}.Finite)
    (acyclic : ¬ ReachesCycle R a)
    (step : ∀ b, ReflTransGen R a b → (∀ c, R b c → P c) → P b) : P a := by
  let Reached := {b // ReflTransGen R a b}
  have finite' : Finite Reached := finite.to_subtype
  let Later : Reached → Reached → Prop := fun c b => TransGen R b.val c.val
  have trans : IsTrans Reached Later := ⟨fun _ _ _ first second => second.trans first⟩
  have irrefl : Std.Irrefl Later := ⟨fun b cycle => acyclic ⟨b.val, b.property, cycle⟩⟩
  have wellFounded : WellFounded Later := Finite.wellFounded_of_trans_of_irrefl Later
  have all (b : Reached) : P b.val := by
    induction b using wellFounded.induction with
    | _ b ih =>
        refine step b.val b.property ?_
        intro c taken
        exact ih ⟨c, b.property.tail taken⟩ (.single taken)
  exact all ⟨a, .refl⟩

end Lib
