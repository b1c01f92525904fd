import Mathlib.Data.List.Nodup
import Mathlib.Data.List.Perm.Basic
import Mathlib.Logic.Function.Basic
import Mathlib.Tactic.Common

namespace Lib.Allocation

variable {α ι : Type*}

def free [DecidableEq α] (live : List α) (o : α) : Option (List α) := if o ∈ live then some (live.erase o) else none

theorem free_perm [DecidableEq α] {live rest : List α} {o : α} (held : live.Perm (o :: rest)) :
    ∃ left, free live o = some left ∧ left.Perm rest := by
  have member : o ∈ live := held.mem_iff.mpr List.mem_cons_self
  refine ⟨live.erase o, if_pos member, ?_⟩
  have erased := held.erase o
  rwa [List.erase_cons_head] at erased

section
variable [DecidableEq ι] {part : ι → List α} {owners : List ι} {i : ι}

theorem flatMap_perm_append (member : i ∈ owners) :
    (owners.flatMap part).Perm (part i ++ (owners.erase i).flatMap part) :=
  (List.perm_cons_erase member).flatMap_right part

theorem flatMap_update_perm (nodup : owners.Nodup) (member : i ∈ owners) (xs : List α) :
    (owners.flatMap (Function.update part i xs)).Perm (xs ++ (owners.erase i).flatMap part) := by
  have split : (owners.flatMap (Function.update part i xs)).Perm _ := flatMap_perm_append member
  have others : (owners.erase i).flatMap (Function.update part i xs) = (owners.erase i).flatMap part := by
    apply List.flatMap_congr
    intro j later
    have other : j ≠ i := fun same => nodup.not_mem_erase (same ▸ later)
    exact Function.update_of_ne other _ _
  rwa [Function.update_self, others] at split

end
end Lib.Allocation
