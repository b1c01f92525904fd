import GamingAnywhere.Pipeline.Pool

namespace GamingAnywhere.Pipeline
open Lib

section
variable {α : Type*}

/-- The buffers it passes to `free`; it returns NULL. `none` where the list does not end within `fuel`. -/
def datapoolFree (fuel : Nat) (head : Option α) (s : Pool α) : Option (List α × Pool α) :=
  match head with
  | none => some ([], s)
  | some _ =>
      (follow s.next fuel head).map fun freed =>
        (freed, { s with bufpool := none, datahead := none, datatail := none, datacount := 0,
                         bufcount := 0 })

def destroyPool (fuel : Nat) (s : Pool α) : Option (List α × Pool α) := do
  let (free, s) ← datapoolFree fuel s.bufpool s
  let s := { s with bufpool := none }
  let (data, s) ← datapoolFree fuel s.datahead s
  return (free ++ data, { s with datahead := none, datatail := none })

variable {s : Pool α} {free data : List α} {fuel : Nat}

theorem Laid.destroy_free {p : α} (laid : Laid s (p :: free) data) (long : free.length + 1 ≤ fuel) :
    ∃ after, destroyPool fuel s = some (p :: free, after) := by
  have freed : follow s.next fuel (some p) = some (p :: free) := by
    rw [← laid.bufpool.1]
    exact laid.bufpool.follow_eq long
  simp only [destroyPool, datapoolFree, laid.bufpool.1, freed, Option.map_some, Option.bind_eq_bind,
    Option.bind_some, List.append_nil, Option.pure_def]
  exact ⟨_, rfl⟩

theorem Laid.destroy_data (laid : Laid s [] data) (long : data.length ≤ fuel) :
    ∃ after, destroyPool fuel s = some (data, after) := by
  have empty : s.bufpool = none := laid.bufpool
  cases data with
  | nil =>
      have nothing : s.datahead = none := laid.datahead
      simp only [destroyPool, datapoolFree, empty, nothing, Option.bind_eq_bind, Option.bind_some,
        List.append_nil, Option.pure_def]
      exact ⟨_, rfl⟩
  | cons p data =>
      have freed : follow s.next fuel (some p) = some (p :: data) := by
        rw [← laid.datahead.1]
        exact laid.datahead.follow_eq long
      simp only [destroyPool, datapoolFree, empty, laid.datahead.1, freed, Option.map_some,
        Option.bind_eq_bind, Option.bind_some, List.nil_append, Option.pure_def]
      exact ⟨_, rfl⟩

theorem Laid.destroy (laid : Laid s free data) (long : (free ++ data).length ≤ fuel) :
    ∃ freed after, destroyPool fuel s = some (freed, after) ∧
      (freed.Perm (free ++ data) ↔ free = [] ∨ data = []) := by
  cases free with
  | nil =>
      obtain ⟨after, destroyed⟩ := laid.destroy_data long
      exact ⟨data, after, destroyed, iff_of_true (.refl _) (.inl rfl)⟩
  | cons p free =>
      have short : free.length + 1 ≤ fuel := by
        rw [List.length_append, List.length_cons] at long
        omega
      obtain ⟨after, destroyed⟩ := laid.destroy_free short
      refine ⟨p :: free, after, destroyed, ?_⟩
      constructor
      · intro same
        have length := same.length_eq
        rw [List.length_append] at length
        exact .inr (List.eq_nil_of_length_eq_zero (by omega))
      · rintro (empty | rfl)
        · cases empty
        · rw [List.append_nil]

theorem Laid.bufpool_eq_none (laid : Laid s free data) : s.bufpool = none ↔ free = [] := by
  rw [laid.bufpool.head_eq, List.head?_eq_none_iff]

theorem Laid.datahead_eq_none (laid : Laid s free data) : s.datahead = none ↔ data = [] := by
  rw [laid.datahead.head_eq, List.head?_eq_none_iff]

end

section
variable {ι α : Type*} [DecidableEq ι] [DecidableEq α]

theorem destroyPool_perm_iff (malloc : Nat → Option α) (distinct : Distinct malloc) (n datasize : Int)
    (pool : Pool α) (init : datapoolInit malloc n datasize .start = some pool) (s : PoolState ι α)
    (ls : List (PoolEvent ι α)) (run : (pipeline ι pool).Run ⟨pool, [], fun _ => .idle, false⟩ ls s)
    (unheld : s.held = []) (fuel : Nat) (enough : n ≤ fuel) :
    ∃ freed after, destroyPool fuel s.pool = some (freed, after) ∧
      (freed.Perm (blocks malloc n.toNat) ↔ s.pool.bufpool = none ∨ s.pool.datahead = none) := by
  obtain ⟨⟨free, data, held, exited⟩, -, related, perm, count⟩ := pipeline_related distinct init run
  have laid : Laid s.pool free data := related.laid
  rw [Stock.all, ← related.held, unheld, List.map_nil, List.append_nil] at perm
  have long : (free ++ data).length ≤ fuel := by
    rw [perm.length_eq]
    omega
  obtain ⟨freed, after, destroyed, all⟩ := laid.destroy long
  refine ⟨freed, after, destroyed, ?_⟩
  rw [laid.bufpool_eq_none, laid.datahead_eq_none, ← all]
  exact ⟨fun same => same.trans perm.symm, fun same => same.trans perm⟩

end

theorem destroyPool_perm_iff_two_stored :
    ∃ (pool : Pool Nat) (s : PoolState Unit Nat) (freed : List Nat) (after : Pool Nat),
      datapoolInit some 2 1 .start = some pool ∧
      (pipeline Unit pool).Run ⟨pool, [], fun _ => .idle, false⟩ [.allocate () 1 false, .storing () 1, .store () 1,
        .allocate () 0 false, .storing () 0, .store () 0] s ∧
      destroyPool 2 s.pool = some (freed, after) ∧ freed.Perm [0, 1] := by
  obtain ⟨pool, init⟩ : ∃ pool, datapoolInit some 2 1 .start = some pool := ⟨_, rfl⟩
  have run : ∃ s, (pipeline Unit pool).Run ⟨pool, [], fun _ => .idle, false⟩ [.allocate () 1 false, .storing () 1,
      .store () 1, .allocate () 0 false, .storing () 0, .store () 0] s ∧ s.held = [] ∧ s.pool.bufpool = none := by
    obtain rfl := Option.some.inj init
    exact ⟨_, .cons (.allocate rfl rfl rfl) (.cons (.storing rfl rfl (by decide)) (.cons (.store rfl rfl)
      (.cons (.allocate rfl rfl rfl) (.cons (.storing rfl rfl (by decide)) (.cons (.store rfl rfl)
      (.nil _)))))), rfl, rfl⟩
  obtain ⟨s, run, unheld, empty⟩ := run
  obtain ⟨freed, after, destroyed, all⟩ := destroyPool_perm_iff (ι := Unit) some distinct_some 2 1 pool init
    s _ run unheld 2 (by decide)
  exact ⟨pool, s, freed, after, init, run, destroyed, all.mpr (.inl empty)⟩

theorem not_destroyPool_perm :
    ¬ ∀ (malloc : Nat → Option Nat) (n datasize : Int) (pool : Pool Nat) (s : PoolState Unit Nat)
        (ls : List (PoolEvent Unit Nat)), Distinct malloc →
        datapoolInit malloc n datasize .start = some pool →
        (pipeline Unit pool).Run ⟨pool, [], fun _ => .idle, false⟩ ls s → s.held = [] →
        ∃ freed after, destroyPool n.toNat s.pool = some (freed, after) ∧
          freed.Perm (blocks malloc n.toNat) := by
  intro all
  obtain ⟨pool, init⟩ : ∃ pool, datapoolInit some 2 1 .start = some pool := ⟨_, rfl⟩
  have run : ∃ s, (pipeline Unit pool).Run ⟨pool, [], fun _ => .idle, false⟩
      [.allocate () 1 false, .storing () 1, .store () 1] s ∧ s.held = [] ∧ Laid s.pool [0] [1] := by
    obtain rfl := Option.some.inj init
    exact ⟨_, .cons (.allocate rfl rfl rfl) (.cons (.storing rfl rfl (by decide))
      (.cons (.store rfl rfl) (.nil _))), rfl, ⟨rfl, rfl⟩, ⟨rfl, rfl⟩, rfl, rfl, rfl⟩
  obtain ⟨s, run, unheld, laid⟩ := run
  obtain ⟨freed, after, destroyed, perm⟩ := all some 2 1 pool s _ distinct_some init run unheld
  have alone : ∃ after', destroyPool 2 s.pool = some ([0], after') := laid.destroy_free (by decide)
  obtain ⟨after', alone⟩ := alone
  rw [show (2 : Int).toNat = 2 from rfl, alone] at destroyed
  cases destroyed
  exact absurd perm.length_eq (by decide)

end GamingAnywhere.Pipeline
