import Mathlib.Data.List.Basic
import Mathlib.Tactic.Common

/-!
# Labelled transition systems

Reachable states and finite runs of a system whose steps carry labels, and the rules the proofs
about one use: an invariant is preserved step by step, a simulation carries the runs of one system to
another, a guard singles out some of the runs, and a rank that only a party's own steps decrease bounds
how many of them a run can hold.
-/

namespace Lib

theorem length_flatMap_le {ℓ β : Type*} {f g : ℓ → List β} (prefixes : ∀ l, f l <+: g l) (ls : List ℓ) :
    (ls.flatMap f).length ≤ (ls.flatMap g).length := by
  induction ls with
  | nil => exact Nat.le_refl 0
  | cons l ls ih =>
      rw [List.flatMap_cons, List.flatMap_cons, List.length_append, List.length_append]
      exact Nat.add_le_add (prefixes l).length_le ih

theorem flatMap_eq_iff {ℓ β : Type*} {f g : ℓ → List β} (prefixes : ∀ l, f l <+: g l) (ls : List ℓ) :
    ls.flatMap f = ls.flatMap g ↔ ∀ l ∈ ls, f l = g l := by
  induction ls with
  | nil => simp
  | cons l ls ih =>
      rw [List.flatMap_cons, List.flatMap_cons, List.forall_mem_cons, ← ih]
      constructor
      · intro same
        have lengths := congrArg List.length same
        rw [List.length_append, List.length_append] at lengths
        have here := (prefixes l).length_le
        have later := length_flatMap_le prefixes ls
        exact List.append_inj same (by omega)
      · rintro ⟨here, later⟩
        rw [here, later]

structure System (σ : Type*) (ℓ : Type*) where
  Init : σ → Prop
  Step : σ → ℓ → σ → Prop

namespace System

variable {σ ℓ : Type*} (S : System σ ℓ)

inductive Reachable : σ → Prop
  | init {s : σ} : S.Init s → Reachable s
  | step {s t : σ} {l : ℓ} : Reachable s → S.Step s l t → Reachable t

inductive Run : σ → List ℓ → σ → Prop
  | nil (s : σ) : Run s [] s
  | cons {s t u : σ} {l : ℓ} {ls : List ℓ} : S.Step s l t → Run t ls u → Run s (l :: ls) u

variable {S}

/-! ## Invariants -/

theorem Reachable.invariant {I : σ → Prop} (init : ∀ s, S.Init s → I s)
    (step : ∀ s l t, I s → S.Step s l t → I t) {s : σ} (reachable : S.Reachable s) : I s := by
  induction reachable with
  | init first => exact init _ first
  | step _ taken ih => exact step _ _ _ ih taken

theorem Reachable.invariant_of {I J : σ → Prop} (init : ∀ s, S.Init s → J s)
    (known : ∀ s, S.Reachable s → I s) (step : ∀ s l t, I s → J s → S.Step s l t → J t) {s : σ}
    (reachable : S.Reachable s) : J s := by
  induction reachable with
  | init first => exact init _ first
  | step before taken ih => exact step _ _ _ (known _ before) ih taken

theorem Run.invariant {I : σ → Prop} (step : ∀ s l t, I s → S.Step s l t → I t) {s t : σ}
    {ls : List ℓ} (run : S.Run s ls t) (holds : I s) : I t := by
  induction run with
  | nil => exact holds
  | cons taken _ ih => exact ih (step _ _ _ holds taken)

theorem Run.step_of_mem {s t : σ} {ls : List ℓ} (run : S.Run s ls t) {l : ℓ} (member : l ∈ ls) :
    ∃ u v, S.Step u l v := by
  induction run with
  | nil => cases member
  | cons taken _ ih =>
      rcases List.mem_cons.mp member with rfl | later
      · exact ⟨_, _, taken⟩
      · exact ih later

theorem Run.of_append {s t : σ} {first second : List ℓ} (run : S.Run s (first ++ second) t) :
    ∃ u, S.Run s first u ∧ S.Run u second t := by
  induction first generalizing s with
  | nil => exact ⟨s, .nil s, run⟩
  | cons l first ih =>
      obtain _ | ⟨taken, rest⟩ := run
      obtain ⟨u, before, behind⟩ := ih rest
      exact ⟨u, .cons taken before, behind⟩

theorem Run.append {s t u : σ} {first second : List ℓ} (before : S.Run s first t) (behind : S.Run t second u) :
    S.Run s (first ++ second) u := by
  induction before with
  | nil => exact behind
  | cons taken _ ih => exact .cons taken (ih behind)

theorem Run.snoc {s t u : σ} {ls : List ℓ} {l : ℓ} (before : S.Run s ls t) (taken : S.Step t l u) :
    S.Run s (ls ++ [l]) u :=
  before.append (.cons taken (.nil u))

theorem Run.history {I : List ℓ → σ → Prop} (step : ∀ ls s l t, I ls s → S.Step s l t → I (ls ++ [l]) t)
    {s t : σ} {ls : List ℓ} (run : S.Run s ls t) (earlier : List ℓ) (holds : I earlier s) :
    I (earlier ++ ls) t := by
  induction run generalizing earlier with
  | nil => rwa [List.append_nil]
  | cons taken _ ih =>
      have all := ih _ (step _ _ _ _ holds taken)
      rwa [List.append_assoc] at all

/-! ## What the labels of a run add up to -/

theorem Run.balance {β : Type*} {I : σ → Prop} (content : σ → List β) {gain loss : ℓ → List β}
    (kept : ∀ s l t, I s → S.Step s l t → I t)
    (step : ∀ s l t, I s → S.Step s l t → content s ++ gain l = loss l ++ content t)
    {s t : σ} {ls : List ℓ} (run : S.Run s ls t) (holds : I s) :
    content s ++ ls.flatMap gain = ls.flatMap loss ++ content t := by
  induction run with
  | nil => simp
  | @cons s t u l ls taken _ ih =>
      calc content s ++ (l :: ls).flatMap gain
          = content s ++ gain l ++ ls.flatMap gain := by rw [List.flatMap_cons, List.append_assoc]
        _ = loss l ++ (content t ++ ls.flatMap gain) := by
            rw [step s l t holds taken, List.append_assoc]
        _ = (l :: ls).flatMap loss ++ content u := by
            rw [ih (kept s l t holds taken), List.flatMap_cons, List.append_assoc]

theorem Run.balance_option {β : Type*} {I : σ → Prop} (content : σ → List β) {gain loss : ℓ → Option β}
    (kept : ∀ s l t, I s → S.Step s l t → I t)
    (step : ∀ s l t, I s → S.Step s l t → content s ++ (gain l).toList = (loss l).toList ++ content t)
    {s t : σ} {ls : List ℓ} (run : S.Run s ls t) (holds : I s) :
    content s ++ ls.filterMap gain = ls.filterMap loss ++ content t := by
  have all := run.balance content kept step holds
  rwa [← List.filterMap_eq_flatMap_toList, ← List.filterMap_eq_flatMap_toList] at all

theorem flatten_filterMap {β : Type*} (f : ℓ → Option (List β)) (ls : List ℓ) :
    (ls.filterMap f).flatten = ls.flatMap fun l => (f l).toList.flatten := by
  rw [List.filterMap_eq_flatMap_toList, List.flatten_eq_flatMap, List.flatMap_assoc]
  simp only [List.flatten_eq_flatMap]

/-- Each output of a run relates to the one before it, which `last` knows of a state. -/
theorem Run.isChain {β : Type*} {I : σ → Prop} {R : β → β → Prop} {out : ℓ → Option β}
    (last : σ → β → Prop) (kept : ∀ s l t, I s → S.Step s l t → I t)
    (silent : ∀ s l t b, I s → S.Step s l t → out l = none → last s b → last t b)
    (next : ∀ s l t b e, I s → S.Step s l t → out l = some e → last s b → R b e ∧ last t e)
    {s t : σ} {ls : List ℓ} (run : S.Run s ls t) (holds : I s) {b : β} (before : last s b) :
    (b :: ls.filterMap out).IsChain R := by
  induction run generalizing b with
  | nil => exact .singleton b
  | @cons s t u l ls taken _ ih =>
      cases shown : out l with
      | none =>
          rw [List.filterMap_cons_none shown]
          exact ih (kept s l t holds taken) (silent s l t b holds taken shown before)
      | some e =>
          obtain ⟨related, after⟩ := next s l t b e holds taken shown before
          rw [List.filterMap_cons_some shown]
          exact .cons_cons related (ih (kept s l t holds taken) after)

/-! ## Simulation -/

def Simulates {τ : Type*} (S : System σ ℓ) (T : System τ ℓ) (R : σ → τ → Prop) : Prop :=
  ∀ s a l t, R s a → S.Step s l t → ∃ b, T.Step a l b ∧ R t b

theorem Run.projected {τ m : Type*} {T : System τ m} {R : σ → τ → Prop} {f : ℓ → Option m}
    (shown : ∀ s a l t e, R s a → S.Step s l t → f l = some e → ∃ b, T.Step a e b ∧ R t b)
    (hidden : ∀ s a l t, R s a → S.Step s l t → f l = none → R t a)
    {s t : σ} {ls : List ℓ} (run : S.Run s ls t) {a : τ} (related : R s a) :
    ∃ b, T.Run a (ls.filterMap f) b ∧ R t b := by
  induction run generalizing a with
  | nil => exact ⟨a, .nil a, related⟩
  | @cons s t u l ls taken _ ih =>
      cases image : f l with
      | none =>
          rw [List.filterMap_cons_none image]
          exact ih (hidden s a l t related taken image)
      | some e =>
          obtain ⟨b, step, related⟩ := shown s a l t e related taken image
          obtain ⟨c, rest, related⟩ := ih related
          rw [List.filterMap_cons_some image]
          exact ⟨c, .cons step rest, related⟩

theorem Run.simulated {τ : Type*} {T : System τ ℓ} {R : σ → τ → Prop} (simulates : Simulates S T R)
    {s t : σ} {ls : List ℓ} (run : S.Run s ls t) {a : τ} (related : R s a) :
    ∃ b, T.Run a ls b ∧ R t b := by
  have same : ls.filterMap some = ls := List.filterMap_some
  rw [← same]
  refine run.projected ?_ nofun related
  intro s a l t e related taken image
  obtain rfl := Option.some.inj image
  exact simulates s a l t related taken

/-! ## Restricting the runs -/

variable (S) in
def restrict (G : σ → ℓ → σ → Prop) : System σ ℓ where
  Init := S.Init
  Step s l t := G s l t ∧ S.Step s l t

theorem Run.of_restrict {G : σ → ℓ → σ → Prop} {s t : σ} {ls : List ℓ}
    (run : (S.restrict G).Run s ls t) : S.Run s ls t := by
  induction run with
  | nil => exact .nil _
  | cons taken _ ih => exact .cons taken.2 ih

theorem Reachable.of_restrict {G : σ → ℓ → σ → Prop} {s : σ}
    (reachable : (S.restrict G).Reachable s) : S.Reachable s := by
  induction reachable with
  | init first => exact .init first
  | step _ taken ih => exact ih.step taken.2

theorem Run.restrict_imp {I : σ → Prop} {G G' : σ → ℓ → σ → Prop}
    (kept : ∀ s l t, I s → G s l t → S.Step s l t → I t)
    (implies : ∀ s l t, I s → G s l t → S.Step s l t → G' s l t) {s t : σ} {ls : List ℓ}
    (run : (S.restrict G).Run s ls t) (holds : I s) : (S.restrict G').Run s ls t := by
  induction run with
  | nil => exact .nil _
  | cons taken _ ih =>
      have here := implies _ _ _ holds taken.1 taken.2
      exact .cons ⟨here, taken.2⟩ (ih (kept _ _ _ holds taken.1 taken.2))

theorem Run.restrict_iff_forall {I : σ → Prop} {G : σ → ℓ → σ → Prop} {P : ℓ → Prop}
    (kept : ∀ s l t, I s → S.Step s l t → I t) (tells : ∀ s l t, I s → S.Step s l t → (G s l t ↔ P l))
    {s t : σ} {ls : List ℓ} (run : S.Run s ls t) (holds : I s) :
    (S.restrict G).Run s ls t ↔ ∀ l ∈ ls, P l := by
  constructor
  · intro restricted
    clear run
    induction restricted with
    | nil => exact nofun
    | cons taken _ ih =>
        have here := (tells _ _ _ holds taken.2).mp taken.1
        exact List.forall_mem_cons.mpr ⟨here, ih (kept _ _ _ holds taken.2)⟩
  · intro all
    induction run with
    | nil => exact .nil _
    | cons taken _ ih =>
        obtain ⟨here, later⟩ := List.forall_mem_cons.mp all
        exact .cons ⟨(tells _ _ _ holds taken).mpr here, taken⟩ (ih (kept _ _ _ holds taken) later)

theorem Run.restrict_of_forall {P : ℓ → Prop} {s t : σ} {ls : List ℓ} (run : S.Run s ls t)
    (all : ∀ l ∈ ls, P l) : (S.restrict fun _ l _ => P l).Run s ls t :=
  (run.restrict_iff_forall (I := fun _ => True) (P := P) (fun _ _ _ _ _ => trivial)
    (fun _ _ _ _ _ => Iff.rfl) trivial).mpr all

/-! ## Own steps -/

/-- A rank that `own` steps decrease and the other steps do not increase, as long as `I` holds, bounds
the number of `own` steps of a run. -/
theorem Run.own_steps_le {I : σ → Prop} {own : ℓ → Bool} {rank : σ → Nat}
    (kept : ∀ s l t, I s → S.Step s l t → I t)
    (decreases : ∀ s l t, I s → S.Step s l t → own l = true → rank t < rank s)
    (keeps : ∀ s l t, I s → S.Step s l t → own l = false → rank t ≤ rank s) {s t : σ}
    {ls : List ℓ} (run : S.Run s ls t) (holds : I s) : ls.countP own + rank t ≤ rank s := by
  induction run with
  | nil => simp
  | @cons s t u l ls taken _ ih =>
      have later := ih (kept s l t holds taken)
      cases mine : own l with
      | true =>
          have := decreases s l t holds taken mine
          rw [List.countP_cons_of_pos mine]
          omega
      | false =>
          have := keeps s l t holds taken mine
          rw [List.countP_cons_of_neg (by simp [mine])]
          omega

end System
end Lib
