import GamingAnywhere.Pipeline.Pool

namespace GamingAnywhere.Pipeline
open Lib

section
variable {ι α : Type*}

def PoolEvent.actor : PoolEvent ι α → ι
  | allocate i _ _ | abort i | storing i _ | store i _ | load i _ | release i _ => i

variable [DecidableEq ι]

def PoolState.heldBy (s : PoolState ι α) (i : ι) : List (ι × α) := s.held.filter (·.1 = i)

theorem heldBy_cons_other {i j : ι} (other : j ≠ i) (p : α) (held : List (ι × α)) :
    ((j, p) :: held).filter (·.1 = i) = held.filter (·.1 = i) :=
  List.filter_cons_of_neg (by simpa using other)

variable [DecidableEq α] {s t : PoolState ι α} {i : ι} {l : PoolEvent ι α}

theorem heldBy_erase_other {j : ι} (other : j ≠ i) (p : α) (held : List (ι × α)) :
    (held.erase (j, p)).filter (·.1 = i) = held.filter (·.1 = i) := by
  rw [← List.erase_filter]
  refine List.erase_of_not_mem fun member => ?_
  exact other (by simpa using (List.mem_filter.mp member).2)

theorem PoolStep.other (step : PoolStep s l t) (other : l.actor ≠ i) :
    t.heldBy i = s.heldBy i ∧ t.place i = s.place i := by
  unfold PoolState.heldBy
  cases step with
  | allocate running idle returned => exact ⟨heldBy_cons_other other _ _, rfl⟩
  | abort running idle returned => exact ⟨rfl, rfl⟩
  | storing running idle mine => exact ⟨rfl, Function.update_of_ne (Ne.symm other) _ _⟩
  | store running place =>
      exact ⟨heldBy_erase_other other _ _, Function.update_of_ne (Ne.symm other) _ _⟩
  | @load j p pool running idle returned =>
      refine ⟨?_, rfl⟩
      cases p with
      | none => rfl
      | some p => exact heldBy_cons_other other p _
  | release running idle mine => exact ⟨heldBy_erase_other other _ _, rfl⟩

theorem PoolStep.load_heldBy {found : Option α} (step : PoolStep s (.load i found) t) :
    t.heldBy i = found.toList.map (i, ·) ++ s.heldBy i ∧ t.place i = s.place i := by
  cases step with
  | load running idle returned =>
      refine ⟨?_, rfl⟩
      unfold PoolState.heldBy
      cases found <;> simp

theorem PoolStep.release_heldBy {p : α} (step : PoolStep s (.release i p) t) :
    t.heldBy i = (s.heldBy i).erase (i, p) ∧ t.place i = s.place i := by
  cases step with
  | release running idle mine => exact ⟨List.erase_filter.symm, rfl⟩

theorem PoolStep.allocate_heldBy {p : α} {stolen : Bool} (step : PoolStep s (.allocate i p stolen) t) :
    t.heldBy i = (i, p) :: s.heldBy i := by
  cases step with
  | allocate running idle returned => exact List.filter_cons_of_pos (by simp)

theorem PoolStep.abort_heldBy (step : PoolStep s (.abort i) t) : t.heldBy i = s.heldBy i := by
  cases step with
  | abort running idle returned => rfl

theorem PoolStep.storing_heldBy {p : α} (step : PoolStep s (.storing i p) t) : t.heldBy i = s.heldBy i := by
  cases step with
  | storing running idle mine => rfl

theorem PoolStep.store_heldBy {p : α} (step : PoolStep s (.store i p) t) :
    t.heldBy i = (s.heldBy i).erase (i, p) := by
  cases step with
  | store running place => exact List.erase_filter.symm

omit [DecidableEq α] in
theorem PoolState.mem_of_heldBy {p : α} {places : List α} (held : s.heldBy i = places.map (i, ·))
    (member : p ∈ places) : (i, p) ∈ s.held := by
  have mine : (i, p) ∈ s.heldBy i := by
    rw [held]
    exact List.mem_map_of_mem member
  exact (List.mem_filter.mp mine).1

theorem Related.step {a : Stock ι α} (related : Related s a) (step : PoolStep s l t) :
    ∃ b, StockStep a l b ∧ Related t b :=
  pipeline_simulates_stock s.pool a.free s a l t related step

omit [DecidableEq ι] [DecidableEq α] in
theorem Related.ne_of_data {a : Stock ι α} {p q : α} (related : Related s a) (mine : (i, p) ∈ s.held)
    (waits : q ∈ a.data) : q ≠ p := by
  rintro rfl
  exact (related.outside mine).2 waits

omit [DecidableEq ι] [DecidableEq α] in
theorem Related.ne_of_held {a : Stock ι α} {j : ι} {p q : α} (related : Related s a) (mine : (i, p) ∈ s.held)
    (theirs : (j, q) ∈ s.held) (other : j ≠ i) : q ≠ p := by
  rintro rfl
  exact other (related.owner theirs mine)

theorem Related.datacount {a : Stock ι α} (related : Related s a) (step : PoolStep s l t) :
    t.pool.datacount + l.taken.toList.length = s.pool.datacount + l.stored.toList.length := by
  obtain ⟨b, stepped, after⟩ := related.step step
  have order := congrArg List.length stepped.order
  rw [List.length_append, List.length_append] at order
  rw [after.laid.datacount, related.laid.datacount]
  omega

end
end GamingAnywhere.Pipeline
