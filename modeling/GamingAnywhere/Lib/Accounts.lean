import GamingAnywhere.Lib.Transition
import Mathlib.Data.List.Forall2

namespace Lib.System

structure Accounts {β : Type*} (R : List β → List β → Prop) : Prop where
  refl : ∀ xs, R xs xs
  trans : ∀ {xs ys zs}, R xs ys → R ys zs → R xs zs
  append_left : ∀ {xs ys} zs, R xs ys → R (zs ++ xs) (zs ++ ys)
  append_right : ∀ {xs ys} zs, R xs ys → R (xs ++ zs) (ys ++ zs)

section
variable {β : Type*}

theorem accounts_eq : Accounts (Eq (α := List β)) where
  refl _ := rfl
  trans := Eq.trans
  append_left zs same := congrArg (zs ++ ·) same
  append_right zs same := congrArg (· ++ zs) same

theorem accounts_perm : Accounts (List.Perm (α := β)) where
  refl := List.Perm.refl
  trans := List.Perm.trans
  append_left zs same := same.append_left zs
  append_right zs same := same.append_right zs

theorem accounts_sublist : Accounts (List.Sublist (α := β)) where
  refl := List.Sublist.refl
  trans := List.Sublist.trans
  append_left zs part := part.append_left zs
  append_right zs part := part.append_right zs

theorem accounts_subset : Accounts fun xs ys : List β => ∀ x ∈ xs, x ∈ ys where
  refl _ _ := id
  trans first second x member := second x (first x member)
  append_left _ part x member := List.mem_append.mpr ((List.mem_append.mp member).imp_right (part x))
  append_right _ part x member := List.mem_append.mpr ((List.mem_append.mp member).imp_left (part x))

variable {S : β → β → Prop}

theorem forall₂_trans (trans : ∀ x y z, S x y → S y z → S x z) {xs ys zs : List β}
    (first : List.Forall₂ S xs ys) (second : List.Forall₂ S ys zs) : List.Forall₂ S xs zs := by
  induction first generalizing zs with
  | nil => exact second
  | cons here _ ih =>
      obtain _ | ⟨there, later⟩ := second
      exact .cons (trans _ _ _ here there) (ih later)

theorem accounts_forall₂ (refl : ∀ x, S x x) (trans : ∀ x y z, S x y → S y z → S x z) :
    Accounts (List.Forall₂ S) where
  refl _ := List.forall₂_same.mpr fun x _ => refl x
  trans := forall₂_trans trans
  append_left _ changed := List.rel_append (List.forall₂_same.mpr fun x _ => refl x) changed
  append_right _ changed := List.rel_append changed (List.forall₂_same.mpr fun x _ => refl x)

theorem sublistForall₂_append {xs ys xs' ys' : List β} (first : List.SublistForall₂ S xs ys)
    (second : List.SublistForall₂ S xs' ys') : List.SublistForall₂ S (xs ++ xs') (ys ++ ys') := by
  rw [List.sublistForall₂_iff] at first second ⊢
  obtain ⟨kept, changed, part⟩ := first
  obtain ⟨kept', changed', part'⟩ := second
  exact ⟨kept ++ kept', List.rel_append changed changed', part.append part'⟩

theorem sublistForall₂_same (refl : ∀ x, S x x) (xs : List β) : List.SublistForall₂ S xs xs :=
  List.sublistForall₂_iff.mpr ⟨xs, List.forall₂_same.mpr fun x _ => refl x, .refl xs⟩

theorem accounts_sublistForall₂ (refl : ∀ x, S x x) (trans : ∀ x y z, S x y → S y z → S x z) :
    Accounts (List.SublistForall₂ S) where
  refl := sublistForall₂_same refl
  trans := @fun xs ys zs first second => by
    have : IsTrans β S := ⟨trans⟩
    exact IsTrans.trans (r := List.SublistForall₂ S) xs ys zs first second
  append_left zs part := sublistForall₂_append (sublistForall₂_same refl zs) part
  append_right zs part := sublistForall₂_append part (sublistForall₂_same refl zs)

end

section
variable {σ ℓ β : Type*} {S : System σ ℓ} {R : List β → List β → Prop} {gain loss : ℓ → Option β}
  {s t : σ} {ls : List ℓ}

/-- `Content` may tell of more than a function of the state would. -/
theorem Run.account (accounts : Accounts R) {Content : σ → List β → Prop}
    (step : ∀ s l t xs, Content s xs → S.Step s l t →
      ∃ ys, Content t ys ∧ R ((loss l).toList ++ ys) (xs ++ (gain l).toList))
    (run : S.Run s ls t) {xs : List β} (holds : Content s xs) :
    ∃ ys, Content t ys ∧ R (ls.filterMap loss ++ ys) (xs ++ ls.filterMap gain) := by
  rw [List.filterMap_eq_flatMap_toList, List.filterMap_eq_flatMap_toList]
  induction run generalizing xs with
  | nil => exact ⟨xs, holds, by simpa using accounts.refl xs⟩
  | @cons s t u l ls taken _ ih =>
      obtain ⟨ys, after, first⟩ := step s l t xs holds taken
      obtain ⟨zs, last, rest⟩ := ih after
      have now := accounts.append_right (ls.flatMap fun l => (gain l).toList) first
      have later := accounts.append_left (loss l).toList rest
      rw [List.append_assoc, List.append_assoc] at now
      refine ⟨zs, last, ?_⟩
      rw [List.flatMap_cons, List.flatMap_cons, List.append_assoc]
      exact accounts.trans later now

theorem Run.balance_rel {I : σ → Prop} (accounts : Accounts R) (content : σ → List β)
    (kept : ∀ s l t, I s → S.Step s l t → I t)
    (step : ∀ s l t, I s → S.Step s l t → R ((loss l).toList ++ content t) (content s ++ (gain l).toList))
    (run : S.Run s ls t) (holds : I s) :
    R (ls.filterMap loss ++ content t) (content s ++ ls.filterMap gain) := by
  have known (s : σ) (l : ℓ) (t : σ) (xs : List β) (before : I s ∧ xs = content s) (taken : S.Step s l t) :
      ∃ ys, (I t ∧ ys = content t) ∧ R ((loss l).toList ++ ys) (xs ++ (gain l).toList) := by
    obtain ⟨holds, rfl⟩ := before
    exact ⟨content t, ⟨kept s l t holds taken, rfl⟩, step s l t holds taken⟩
  obtain ⟨ys, ⟨-, rfl⟩, all⟩ := run.account accounts known ⟨holds, rfl⟩
  exact all

end

/-- What has come in is on its way `before` it is changed and `after` that. -/
inductive Passing (α β : Type*)
  | before (x : α)
  | after (y : β)

section
variable {σ ℓ α β : Type*} {S : System σ ℓ} {C : α → β → Prop} {gain : ℓ → Option α} {loss : ℓ → Option β}
  {drops : ℓ → Bool} {s t : σ} {ls : List ℓ}

inductive Passes (C : α → β → Prop) : Passing α β → Passing α β → Prop
  | same (x : Passing α β) : Passes C x x
  | changed {x : α} {y : β} : C x y → Passes C (.after y) (.before x)

theorem Passes.trans (x y z : Passing α β) (first : Passes C x y) (second : Passes C y z) : Passes C x z := by
  cases first with
  | same => exact second
  | changed changes =>
      cases second
      exact .changed changes

theorem passes_same (xs : List (Passing α β)) : List.Forall₂ (Passes C) xs xs :=
  List.forall₂_same.mpr fun x _ => .same x

theorem changes_of_passes {ys : List β} {xs : List α} {rest : List (Passing α β)}
    (passes : List.Forall₂ (Passes C) (ys.map .after ++ rest) (xs.map .before)) :
    List.Forall₂ (fun y x => C x y) ys (xs.take ys.length) := by
  induction ys generalizing xs with
  | nil => exact .nil
  | cons y ys ih =>
      cases xs with
      | nil => cases passes
      | cons x xs =>
          obtain _ | ⟨here, later⟩ := passes
          cases here with
          | changed changes => exact .cons changes (ih later)

def Carried (C : α → β → Prop) (drops : Bool) (now earlier : List (Passing α β)) : Prop :=
  List.Forall₂ (Passes C) now earlier ∨ drops = true ∧ now.Sublist earlier

theorem Carried.of_eq {drops : Bool} {now earlier : List (Passing α β)} (same : now = earlier) :
    Carried C drops now earlier :=
  .inl (same ▸ passes_same now)

theorem Carried.part {drops : Bool} {now earlier : List (Passing α β)} (carried : Carried C drops now earlier) :
    List.SublistForall₂ (Passes C) now earlier := by
  rcases carried with changed | ⟨-, part⟩
  · exact List.sublistForall₂_iff.mpr ⟨earlier, changed, .refl earlier⟩
  · exact List.sublistForall₂_iff.mpr ⟨now, passes_same now, part⟩

theorem Carried.whole {drops : Bool} {now earlier : List (Passing α β)} (carried : Carried C drops now earlier)
    (kept : drops = false) : List.Forall₂ (Passes C) now earlier := by
  rcases carried with changed | ⟨dropped, -⟩
  · exact changed
  · rw [kept] at dropped
    cases dropped

/-- What has gone out is what has come in, changed, each once and in its order, and all of it up to some point
where nothing was dropped. -/
structure Passed (C : α → β → Prop) (gain : ℓ → Option α) (loss : ℓ → Option β) (drops : ℓ → Bool)
    (ls : List ℓ) : Prop where
  ordered : ∃ chosen, chosen.Sublist (ls.filterMap gain) ∧
    List.Forall₂ (fun y x => C x y) (ls.filterMap loss) chosen
  lossless : (∀ l ∈ ls, drops l = false) →
    List.Forall₂ (fun y x => C x y) (ls.filterMap loss) ((ls.filterMap gain).take (ls.filterMap loss).length)

theorem Run.passed {Content : σ → List (Passing α β) → Prop}
    (step : ∀ s l t xs, Content s xs → S.Step s l t → ∃ ys, Content t ys ∧
      Carried C (drops l) (((loss l).map .after).toList ++ ys) (xs ++ ((gain l).map .before).toList))
    (run : S.Run s ls t) (holds : Content s []) : (∃ ys, Content t ys) ∧ Passed C gain loss drops ls := by
  have parts := accounts_sublistForall₂ (Passes.same (C := C)) Passes.trans
  have wholes := accounts_forall₂ (Passes.same (C := C)) Passes.trans
  obtain ⟨ys, after, account⟩ := run.account parts (fun s l t xs holds taken =>
    (step s l t xs holds taken).imp fun ys found => ⟨found.1, found.2.part⟩) holds
  refine ⟨⟨ys, after⟩, ?_, fun kept => ?_⟩
  · rw [← List.map_filterMap, ← List.map_filterMap, List.nil_append] at account
    obtain ⟨items, passes, among⟩ := List.sublistForall₂_iff.mp account
    obtain ⟨chosen, part, rfl⟩ := List.sublist_map_iff.mp among
    exact ⟨_, (List.take_sublist _ chosen).trans part, changes_of_passes passes⟩
  · have restricted := run.restrict_of_forall kept
    have kept (s : σ) (l : ℓ) (t : σ) (xs : List (Passing α β)) (holds : Content s xs)
        (taken : drops l = false ∧ S.Step s l t) : ∃ ys, Content t ys ∧ List.Forall₂ (Passes C)
          (((loss l).map .after).toList ++ ys) (xs ++ ((gain l).map .before).toList) :=
      (step s l t xs holds taken.2).imp fun ys found => ⟨found.1, found.2.whole taken.1⟩
    obtain ⟨ys, -, account⟩ := restricted.account wholes kept holds
    rw [← List.map_filterMap, ← List.map_filterMap, List.nil_append] at account
    exact changes_of_passes account

end
end Lib.System
