import GamingAnywhere.Lib.Chain
import GamingAnywhere.Pipeline.Stock
import Mathlib.Data.List.Nodup

namespace GamingAnywhere.Pipeline
open Lib

/-! ## The operations -/

structure Pool (α : Type*) where
  next : α → Option α
  bufpool : Option α
  datahead : Option α
  datatail : Option α
  datacount : Int
  bufcount : Int

def Pool.start {α : Type*} : Pool α := ⟨fun _ => none, none, none, none, 0, 0⟩

section
variable {α : Type*} [DecidableEq α]

/-- The first `i` rounds of the loop; `none` where `malloc` returns NULL. -/
def datapoolFill (malloc : Nat → Option α) (s : Pool α) : Nat → Option (Pool α)
  | 0 => some s
  | i + 1 => do
      let s ← datapoolFill malloc s i
      let data ← malloc i
      return { s with next := Function.update s.next data s.bufpool, bufpool := some data }

def datapoolInit (malloc : Nat → Option α) (n datasize : Int) (s : Pool α) : Option (Pool α) :=
  if n ≤ 0 ∨ datasize ≤ 0 then none
  else
    (datapoolFill malloc { s with bufpool := none } n.toNat).map fun s =>
      { s with datacount := 0, bufcount := n }

/-- `none` where NULL would be dereferenced. -/
def loadDataUnlocked (s : Pool α) : Option (Option α × Pool α) :=
  if s.datatail = none then some (none, s)
  else s.datahead.map fun data =>
    (some data,
      { s with datahead := s.next data,
               next := Function.update s.next data none,
               datatail := if s.next data = none then none else s.datatail,
               datacount := s.datacount - 1 })

/-- It exits where no data is returned. -/
def allocateData (s : Pool α) : Option (Option α × Pool α) :=
  match s.bufpool with
  | none => loadDataUnlocked s
  | some data =>
      some (some data,
        { s with bufpool := s.next data,
                 next := Function.update s.next data none,
                 bufcount := s.bufcount - 1 })

def storeDataNext (data : α) (s : Pool α) : Pool α :=
  { s with next := Function.update s.next data none }

def storeData (data : α) (s : Pool α) : Pool α :=
  match s.datatail with
  | none =>
      { s with datahead := some data, datatail := some data, datacount := s.datacount + 1 }
  | some tail =>
      { s with next := Function.update s.next tail (some data),
               datatail := some data,
               datacount := s.datacount + 1 }

def releaseData (data : α) (s : Pool α) : Pool α :=
  { s with next := Function.update s.next data s.bufpool,
           bufpool := some data,
           bufcount := s.bufcount + 1 }

end

/-! ## The chains of a pool -/

structure Laid {α : Type*} (s : Pool α) (free data : List α) : Prop where
  bufpool : Chain s.next s.bufpool free
  datahead : Chain s.next s.datahead data
  datatail : s.datatail = data.getLast?
  bufcount : s.bufcount = free.length
  datacount : s.datacount = data.length

section
variable {α : Type*} [DecidableEq α] {s : Pool α} {free data : List α} {p : α}

theorem Laid.load (laid : Laid s free (p :: data)) (apart : p ∉ free) (first : p ∉ data) :
    ∃ s', loadDataUnlocked s = some (some p, s') ∧ Laid s' free data ∧
      ∀ q, q ≠ p → s'.next q = s.next q := by
  obtain ⟨head, rest⟩ := laid.datahead
  have filled : s.datatail ≠ none := by
    rw [laid.datatail]
    simp
  rw [loadDataUnlocked, if_neg filled, head]
  refine ⟨_, rfl, ?_, fun q other => Function.update_of_ne other _ _⟩
  constructor
  · exact laid.bufpool.update apart none
  · exact rest.update first none
  · rw [rest.head_eq, laid.datatail]
    cases data with
    | nil => rfl
    | cons a data => simp
  · exact laid.bufcount
  · have count := laid.datacount
    rw [List.length_cons] at count
    dsimp only
    omega

theorem Laid.load_nil (laid : Laid s free []) : loadDataUnlocked s = some (none, s) :=
  if_pos laid.datatail

theorem Laid.allocate (laid : Laid s (p :: free) data) (first : p ∉ free) (apart : p ∉ data) :
    ∃ s', allocateData s = some (some p, s') ∧ Laid s' free data ∧
      ∀ q, q ≠ p → s'.next q = s.next q := by
  obtain ⟨head, rest⟩ := laid.bufpool
  rw [allocateData, head]
  refine ⟨_, rfl, ?_, fun q other => Function.update_of_ne other _ _⟩
  constructor
  · exact rest.update first none
  · exact laid.datahead.update apart none
  · exact laid.datatail
  · have count := laid.bufcount
    rw [List.length_cons] at count
    dsimp only
    omega
  · exact laid.datacount

theorem Laid.allocate_nil (laid : Laid s [] data) : allocateData s = loadDataUnlocked s := by
  rw [allocateData, laid.bufpool.head_eq]
  rfl

theorem Laid.load_ne_none (laid : Laid s free data) : loadDataUnlocked s ≠ none := by
  cases data with
  | nil =>
      rw [laid.load_nil]
      exact Option.some_ne_none _
  | cons p data =>
      rw [loadDataUnlocked, laid.datahead.1]
      split <;> exact Option.some_ne_none _

theorem Laid.allocate_ne_none (laid : Laid s free data) : allocateData s ≠ none := by
  cases free with
  | nil =>
      rw [laid.allocate_nil]
      exact laid.load_ne_none
  | cons p free =>
      rw [allocateData, laid.bufpool.1]
      exact Option.some_ne_none _

theorem Laid.storing (laid : Laid s free data) (apart : p ∉ free) (other : p ∉ data) :
    Laid (storeDataNext p s) free data :=
  ⟨laid.bufpool.update apart none, laid.datahead.update other none, laid.datatail, laid.bufcount,
    laid.datacount⟩

theorem Laid.store (laid : Laid s free data) (distinct : (free ++ data).Nodup) (other : p ∉ data)
    (last : s.next p = none) :
    Laid (storeData p s) free (data ++ [p]) ∧ ∀ q, q ∉ data → (storeData p s).next q = s.next q := by
  have count := laid.datacount
  have tail := laid.datatail
  rcases List.eq_nil_or_concat data with rfl | ⟨init, a, rfl⟩
  · have empty : s.datatail = none := tail
    unfold storeData
    rw [empty]
    refine ⟨⟨laid.bufpool, ⟨rfl, last⟩, rfl, laid.bufcount, ?_⟩, fun _ _ => rfl⟩
    dsimp only
    rw [count]
    rfl
  · rw [List.concat_eq_append] at *
    have filled : s.datatail = some a := by simpa using tail
    rw [List.nodup_append] at distinct
    obtain ⟨-, distinct, disjoint⟩ := distinct
    have apart : a ∉ free := fun found => disjoint a found a (by simp) rfl
    unfold storeData
    rw [filled]
    refine ⟨⟨laid.bufpool.update apart _, laid.datahead.append distinct other last, by simp,
      laid.bufcount, ?_⟩, ?_⟩
    · dsimp only
      simp only [List.length_append, List.length_singleton] at count ⊢
      omega
    · intro q outside
      apply Function.update_of_ne
      rintro rfl
      exact outside (by simp)

theorem Laid.release (laid : Laid s free data) (first : p ∉ free) (apart : p ∉ data) :
    Laid (releaseData p s) (p :: free) data where
  bufpool := laid.bufpool.push first
  datahead := laid.datahead.update apart _
  datatail := laid.datatail
  bufcount := by
    have count := laid.bufcount
    rw [releaseData, List.length_cons]
    dsimp only
    omega
  datacount := laid.datacount

end

/-! ## Initialization -/

section
variable {α : Type*}

def blocks (malloc : Nat → Option α) (n : Nat) : List α := (List.range n).filterMap malloc

def Distinct (malloc : Nat → Option α) : Prop :=
  ∀ i j p, malloc i = some p → malloc j = some p → i = j

theorem distinct_some : Distinct (some : Nat → Option Nat) := by
  intro i j p first second
  cases first
  cases second
  rfl

variable {malloc : Nat → Option α}

theorem blocks_succ {i : Nat} {p : α} (got : malloc i = some p) :
    blocks malloc (i + 1) = blocks malloc i ++ [p] := by
  simp [blocks, List.range_succ, got]

theorem nodup_blocks (distinct : Distinct malloc) (n : Nat) : (blocks malloc n).Nodup :=
  List.Nodup.filterMap (fun i j p first second => distinct i j p first second) List.nodup_range

variable [DecidableEq α] {s t : Pool α}

theorem datapoolFill_chain (distinct : Distinct malloc) (empty : s.bufpool = none) {i : Nat}
    (filled : datapoolFill malloc s i = some t) :
    Chain t.next t.bufpool (blocks malloc i).reverse ∧ (blocks malloc i).length = i ∧
      t.datahead = s.datahead ∧ t.datatail = s.datatail := by
  induction i generalizing t with
  | zero =>
      obtain rfl := Option.some.inj filled
      exact ⟨empty, rfl, rfl, rfl⟩
  | succ i ih =>
      simp only [datapoolFill, bind, Option.bind_eq_some_iff] at filled
      obtain ⟨u, before, p, got, last⟩ := filled
      obtain rfl := Option.some.inj last
      obtain ⟨chain, length, head, tail⟩ := ih before
      have nodup := nodup_blocks distinct (i + 1)
      rw [blocks_succ got] at nodup ⊢
      have fresh : p ∉ (blocks malloc i).reverse := by
        rw [List.mem_reverse]
        rw [List.nodup_append] at nodup
        exact fun old => nodup.2.2 p old p (List.mem_singleton_self p) rfl
      rw [List.reverse_append, List.length_append, length]
      exact ⟨chain.push fresh, rfl, head, tail⟩

theorem datapoolFill_ne_none_iff {i : Nat} :
    datapoolFill malloc s i ≠ none ↔ ∀ j < i, malloc j ≠ none := by
  induction i with
  | zero => exact iff_of_true (Option.some_ne_none _) fun j less => absurd less (Nat.not_lt_zero j)
  | succ i ih =>
      rw [Nat.forall_lt_succ_right, ← ih]
      cases before : datapoolFill malloc s i with
      | none => simp [datapoolFill, before]
      | some t =>
          cases got : malloc i with
          | none => simp [datapoolFill, before, got]
          | some p => simp [datapoolFill, before, got]

theorem datapoolInit_ne_none_iff {n datasize : Int} (some_data : 0 < n) (sized : 0 < datasize) :
    datapoolInit malloc n datasize s ≠ none ↔ ∀ i < n.toNat, malloc i ≠ none := by
  rw [datapoolInit, if_neg (by omega), ne_eq, Option.map_eq_none_iff]
  exact datapoolFill_ne_none_iff

theorem datapoolInit_laid (distinct : Distinct malloc) {n datasize : Int}
    (init : datapoolInit malloc n datasize .start = some s) :
    Laid s (blocks malloc n.toNat).reverse [] ∧ ((blocks malloc n.toNat).length : Int) = n := by
  unfold datapoolInit at init
  split_ifs at init with bad
  obtain ⟨t, filled, rfl⟩ := Option.map_eq_some_iff.mp init
  obtain ⟨chain, length, head, tail⟩ := datapoolFill_chain distinct rfl filled
  have count : ((blocks malloc n.toNat).length : Int) = n := by omega
  refine ⟨⟨chain, head, tail, ?_, rfl⟩, count⟩
  rw [List.length_reverse, count]

end

/-! ## Threads -/

/-- `storing` is inside `store_data`, before `poolmutex` is locked. -/
inductive Place (α : Type*)
  | idle
  | storing (data : α)

structure PoolState (ι α : Type*) where
  pool : Pool α
  held : List (ι × α)
  place : ι → Place α
  exited : Bool

section
variable {ι α : Type*}

/-- The pool holds the buffers where the stock has them, and a buffer that is being stored ends its chain. -/
structure Related (s : PoolState ι α) (a : Stock ι α) : Prop where
  laid : Laid s.pool a.free a.data
  held : s.held = a.held
  exited : s.exited = a.exited
  distinct : a.all.Nodup
  storing : ∀ i p, s.place i = .storing p → (i, p) ∈ s.held ∧ s.pool.next p = none

variable {s : PoolState ι α} {a : Stock ι α} {i j : ι} {p : α}

theorem Related.outside (related : Related s a) (mine : (i, p) ∈ s.held) :
    p ∉ a.free ∧ p ∉ a.data := by
  have distinct := related.distinct
  rw [Stock.all, List.nodup_append] at distinct
  have holding : p ∈ a.held.map Prod.snd := by
    rw [← related.held]
    exact List.mem_map_of_mem mine
  constructor
  · exact fun free => distinct.2.2 p (List.mem_append_left _ free) p holding rfl
  · exact fun data => distinct.2.2 p (List.mem_append_right _ data) p holding rfl

theorem Related.owner (related : Related s a) (first : (i, p) ∈ s.held) (second : (j, p) ∈ s.held) :
    i = j := by
  have distinct := related.distinct
  rw [Stock.all, List.nodup_append, ← related.held] at distinct
  exact congrArg Prod.fst (List.inj_on_of_nodup_map distinct.2.1 first second rfl)

theorem Related.running (related : Related s a) (running : s.exited = false) :
    a = ⟨a.free, a.data, a.held, false⟩ := by
  rw [← running, related.exited]

theorem Stock.free_fresh {free data : List α} {held : List (ι × α)} {exited : Bool}
    (distinct : (⟨p :: free, data, held, exited⟩ : Stock ι α).all.Nodup) : p ∉ free ∧ p ∉ data := by
  have fresh : p ∉ free ++ data ++ held.map Prod.snd := (List.nodup_cons.mp distinct).1
  simp only [List.mem_append, not_or] at fresh
  exact fresh.1

theorem Stock.data_fresh {free data : List α} {held : List (ι × α)} {exited : Bool}
    (distinct : (⟨free, p :: data, held, exited⟩ : Stock ι α).all.Nodup) : p ∉ free ∧ p ∉ data := by
  have chains : (free ++ p :: data).Nodup := (List.nodup_append.mp distinct).1
  rw [List.nodup_append] at chains
  exact ⟨fun old => chains.2.2 p old p (by simp) rfl, (List.nodup_cons.mp chains.2.1).1⟩

end

section
variable {ι α : Type*} [DecidableEq ι] [DecidableEq α]

inductive PoolStep : PoolState ι α → PoolEvent ι α → PoolState ι α → Prop
  | allocate {s : PoolState ι α} {i : ι} {p : α} {pool : Pool α} :
      s.exited = false → s.place i = .idle → allocateData s.pool = some (some p, pool) →
      PoolStep s (.allocate i p s.pool.bufpool.isNone) { s with pool := pool, held := (i, p) :: s.held }
  | abort {s : PoolState ι α} {i : ι} {pool : Pool α} :
      s.exited = false → s.place i = .idle → allocateData s.pool = some (none, pool) →
      PoolStep s (.abort i) { s with pool := pool, exited := true }
  | storing {s : PoolState ι α} {i : ι} {p : α} :
      s.exited = false → s.place i = .idle → (i, p) ∈ s.held →
      PoolStep s (.storing i p)
        { s with pool := storeDataNext p s.pool, place := Function.update s.place i (.storing p) }
  | store {s : PoolState ι α} {i : ι} {p : α} : s.exited = false → s.place i = .storing p →
      PoolStep s (.store i p)
        { s with pool := storeData p s.pool, held := s.held.erase (i, p),
                 place := Function.update s.place i .idle }
  | load {s : PoolState ι α} {i : ι} {p : Option α} {pool : Pool α} :
      s.exited = false → s.place i = .idle → loadDataUnlocked s.pool = some (p, pool) →
      PoolStep s (.load i p)
        { s with pool := pool, held := p.toList.map (i, ·) ++ s.held }
  | release {s : PoolState ι α} {i : ι} {p : α} :
      s.exited = false → s.place i = .idle → (i, p) ∈ s.held →
      PoolStep s (.release i p)
        { s with pool := releaseData p s.pool, held := s.held.erase (i, p) }

def pipeline (ι : Type*) [DecidableEq ι] (pool : Pool α) : System (PoolState ι α) (PoolEvent ι α) where
  Init s := s = ⟨pool, [], fun _ => .idle, false⟩
  Step := PoolStep

variable {s : PoolState ι α} {a : Stock ι α} {i : ι} {p : α}

theorem Related.take {l : PoolEvent ι α} {b : Stock ι α} {pool : Pool α} (related : Related s a)
    (step : StockStep a l b) (taken : p ∈ a.free ∨ p ∈ a.data) (laid : Laid pool b.free b.data)
    (held : b.held = (i, p) :: a.held) (exited : b.exited = a.exited)
    (others : ∀ q, q ≠ p → pool.next q = s.pool.next q) :
    Related { s with pool := pool, held := (i, p) :: s.held } b where
  laid := laid
  held := by rw [held, related.held]
  exited := related.exited.trans exited.symm
  distinct := (StockStep.perm step).nodup_iff.mpr related.distinct
  storing j q place := by
    obtain ⟨mine, last⟩ := related.storing j q place
    have other : q ≠ p := by
      rintro rfl
      have outside := related.outside mine
      exact taken.elim outside.1 outside.2
    exact ⟨List.mem_cons_of_mem _ mine, (others q other).trans last⟩

theorem Related.give {l : PoolEvent ι α} {b : Stock ι α} {pool : Pool α} {place : ι → Place α}
    (related : Related s a) (step : StockStep a l b) (mine : (i, p) ∈ s.held)
    (laid : Laid pool b.free b.data) (held : b.held = a.held.erase (i, p))
    (exited : b.exited = a.exited)
    (others : ∀ q, q ∉ a.data → q ≠ p → pool.next q = s.pool.next q)
    (busy : ∀ j q, place j = .storing q → j ≠ i ∧ s.place j = .storing q) :
    Related { s with pool := pool, held := s.held.erase (i, p), place := place } b where
  laid := laid
  held := by rw [held, related.held]
  exited := related.exited.trans exited.symm
  distinct := (StockStep.perm step).nodup_iff.mpr related.distinct
  storing j q here := by
    obtain ⟨other, before⟩ := busy j q here
    obtain ⟨theirs, last⟩ := related.storing j q before
    have different : q ≠ p := by
      rintro rfl
      exact other (related.owner theirs mine)
    have pair : (j, q) ≠ (i, p) := fun same => other (congrArg Prod.fst same)
    exact ⟨(List.mem_erase_of_ne pair).mpr theirs,
      (others q (related.outside theirs).2 different).trans last⟩

theorem Related.allocate {pool : Pool α} (related : Related s a) (running : s.exited = false)
    (returned : allocateData s.pool = some (some p, pool)) :
    ∃ b, StockStep a (.allocate i p s.pool.bufpool.isNone) b ∧
      Related { s with pool := pool, held := (i, p) :: s.held } b := by
  have laid := related.laid
  have distinct := related.distinct
  obtain ⟨bufs, data, held, exited⟩ := a
  obtain rfl : exited = false := related.exited.symm.trans running
  cases bufs with
  | nil =>
      have empty : s.pool.bufpool = none := laid.bufpool
      rw [laid.allocate_nil] at returned
      rw [empty]
      cases data with
      | nil =>
          rw [laid.load_nil] at returned
          cases returned
      | cons q data =>
          obtain ⟨apart, first⟩ := Stock.data_fresh distinct
          obtain ⟨pool', loaded, laid', others⟩ := laid.load apart first
          rw [loaded] at returned
          cases returned
          exact ⟨_, .steal, related.take .steal (.inr (by simp)) laid' rfl rfl others⟩
  | cons q bufs =>
      have filled : s.pool.bufpool = some q := laid.bufpool.1
      obtain ⟨first, apart⟩ := Stock.free_fresh distinct
      obtain ⟨pool', allocated, laid', others⟩ := laid.allocate first apart
      rw [allocated] at returned
      cases returned
      rw [filled]
      exact ⟨_, .allocate, related.take .allocate (.inl (by simp)) laid' rfl rfl others⟩

theorem Related.abort {pool : Pool α} (related : Related s a) (running : s.exited = false)
    (returned : allocateData s.pool = some (none, pool)) :
    ∃ b, StockStep a (.abort i) b ∧ Related { s with pool := pool, exited := true } b := by
  have laid := related.laid
  have distinct := related.distinct
  obtain ⟨bufs, data, held, exited⟩ := a
  obtain rfl : exited = false := related.exited.symm.trans running
  cases bufs with
  | nil =>
      rw [laid.allocate_nil] at returned
      cases data with
      | nil =>
          rw [laid.load_nil] at returned
          cases returned
          exact ⟨_, .abort, laid, related.held, rfl, distinct, related.storing⟩
      | cons q data =>
          obtain ⟨apart, first⟩ := Stock.data_fresh distinct
          obtain ⟨pool', loaded, -⟩ := laid.load apart first
          rw [loaded] at returned
          cases returned
  | cons q bufs =>
      obtain ⟨first, apart⟩ := Stock.free_fresh distinct
      obtain ⟨pool', allocated, -⟩ := laid.allocate first apart
      rw [allocated] at returned
      cases returned

theorem Related.store_next (related : Related s a) (running : s.exited = false)
    (mine : (i, p) ∈ s.held) :
    ∃ b, StockStep a (.storing i p) b ∧
      Related { s with pool := storeDataNext p s.pool,
                       place := Function.update s.place i (.storing p) } b := by
  obtain ⟨apart, other⟩ := related.outside mine
  have owned : (i, p) ∈ a.held := by rwa [← related.held]
  have step : StockStep a (.storing i p) a := by
    rw [related.running running]
    exact .storing owned
  refine ⟨a, step, related.laid.storing apart other, related.held, related.exited,
    related.distinct, ?_⟩
  intro j q here
  change Function.update s.place i (.storing p) j = .storing q at here
  by_cases acting : j = i
  · rw [acting, Function.update_self] at here
    cases here
    rw [acting]
    exact ⟨mine, Function.update_self _ _ _⟩
  · have before : s.place j = .storing q := by rwa [Function.update_of_ne acting] at here
    obtain ⟨theirs, last⟩ := related.storing j q before
    have different : q ≠ p := by
      rintro rfl
      exact acting (related.owner theirs mine)
    exact ⟨theirs, (Function.update_of_ne different _ _).trans last⟩

theorem Related.store (related : Related s a) (running : s.exited = false)
    (place : s.place i = .storing p) :
    ∃ b, StockStep a (.store i p) b ∧
      Related { s with pool := storeData p s.pool, held := s.held.erase (i, p),
                       place := Function.update s.place i .idle } b := by
  obtain ⟨mine, last⟩ := related.storing i p place
  have owned : (i, p) ∈ a.held := by rwa [← related.held]
  have chains : (a.free ++ a.data).Nodup := (List.nodup_append.mp related.distinct).1
  obtain ⟨laid, others⟩ := related.laid.store chains (related.outside mine).2 last
  have step : StockStep a (.store i p) ⟨a.free, a.data ++ [p], a.held.erase (i, p), false⟩ := by
    rw [related.running running]
    exact .store owned
  refine ⟨_, step, related.give step mine laid rfl ?_ (fun q old _ => others q old) ?_⟩
  · exact running.symm.trans related.exited
  · intro j q here
    have acting : j ≠ i := by
      rintro rfl
      rw [Function.update_self] at here
      cases here
    rw [Function.update_of_ne acting] at here
    exact ⟨acting, here⟩

theorem Related.load {r : Option α} {pool : Pool α} (related : Related s a)
    (running : s.exited = false) (returned : loadDataUnlocked s.pool = some (r, pool)) :
    ∃ b, StockStep a (.load i r) b ∧
      Related { s with pool := pool, held := r.toList.map (i, ·) ++ s.held } b := by
  have laid := related.laid
  have distinct := related.distinct
  obtain ⟨bufs, data, held, exited⟩ := a
  obtain rfl : exited = false := related.exited.symm.trans running
  cases data with
  | nil =>
      rw [laid.load_nil] at returned
      cases returned
      exact ⟨_, .loadNull, related⟩
  | cons q data =>
      obtain ⟨apart, first⟩ := Stock.data_fresh distinct
      obtain ⟨pool', loaded, laid', others⟩ := laid.load apart first
      rw [loaded] at returned
      cases returned
      exact ⟨_, .load, related.take .load (.inr (by simp)) laid' rfl rfl others⟩

theorem Related.release (related : Related s a) (running : s.exited = false)
    (idle : s.place i = .idle) (mine : (i, p) ∈ s.held) :
    ∃ b, StockStep a (.release i p) b ∧
      Related { s with pool := releaseData p s.pool, held := s.held.erase (i, p) } b := by
  obtain ⟨first, apart⟩ := related.outside mine
  have owned : (i, p) ∈ a.held := by rwa [← related.held]
  have step : StockStep a (.release i p) ⟨p :: a.free, a.data, a.held.erase (i, p), false⟩ := by
    rw [related.running running]
    exact .release owned
  refine ⟨_, step, related.give step mine (related.laid.release first apart) rfl ?_ ?_ ?_⟩
  · exact running.symm.trans related.exited
  · exact fun q _ other => Function.update_of_ne other _ _
  · intro j q here
    refine ⟨?_, here⟩
    rintro rfl
    rw [idle] at here
    cases here

theorem pipeline_simulates_stock (pool : Pool α) (free : List α) :
    System.Simulates (pipeline ι pool) (stock free) Related := by
  intro s a l t related step
  cases step with
  | allocate running idle returned => exact related.allocate running returned
  | abort running idle returned => exact related.abort running returned
  | storing running idle mine => exact related.store_next running mine
  | store running place => exact related.store running place
  | load running idle returned => exact related.load running returned
  | release running idle mine => exact related.release running idle mine

/-! ## The pool over whole runs -/

theorem pipeline_related {malloc : Nat → Option α} (distinct : Distinct malloc) {n datasize : Int}
    {pool : Pool α} (init : datapoolInit malloc n datasize .start = some pool) {s : PoolState ι α}
    {ls : List (PoolEvent ι α)} (run : (pipeline ι pool).Run ⟨pool, [], fun _ => .idle, false⟩ ls s) :
    ∃ a, (stock (blocks malloc n.toNat).reverse).Run ⟨(blocks malloc n.toNat).reverse, [], [], false⟩ ls a ∧
      Related s a ∧ a.all.Perm (blocks malloc n.toNat) ∧ ((blocks malloc n.toNat).length : Int) = n := by
  obtain ⟨laid, count⟩ := datapoolInit_laid distinct init
  have start : Related (⟨pool, [], fun _ => .idle, false⟩ : PoolState ι α)
      ⟨(blocks malloc n.toNat).reverse, [], [], false⟩ := by
    refine ⟨laid, rfl, rfl, ?_, nofun⟩
    simpa [Stock.all] using nodup_blocks distinct n.toNat
  obtain ⟨a, ran, related⟩ :=
    run.simulated (pipeline_simulates_stock pool (blocks malloc n.toNat).reverse) start
  exact ⟨a, ran, related, (stock_perm ran).trans (List.reverse_perm _), count⟩

theorem pipeline_conserves (malloc : Nat → Option α) (distinct : Distinct malloc) (n datasize : Int)
    (pool : Pool α) (init : datapoolInit malloc n datasize .start = some pool) (s : PoolState ι α)
    (ls : List (PoolEvent ι α)) (run : (pipeline ι pool).Run ⟨pool, [], fun _ => .idle, false⟩ ls s) :
    ((blocks malloc n.toNat).length : Int) = n ∧ (blocks malloc n.toNat).Nodup ∧
    ∃ free data, Laid s.pool free data ∧
      (free ++ data ++ s.held.map Prod.snd).Perm (blocks malloc n.toNat) ∧
      ls.filterMap PoolEvent.stored = ls.filterMap PoolEvent.taken ++ data ∧
      (∀ i p stolen t, (pipeline ι pool).Step s (.allocate i p stolen) t →
        if stolen then free = [] ∧ data.head? = some p else free.head? = some p) ∧
      (∀ i t, (pipeline ι pool).Step s (.abort i) t →
        (s.held.map Prod.snd).Perm (blocks malloc n.toNat)) ∧
      allocateData s.pool ≠ none ∧ loadDataUnlocked s.pool ≠ none := by
  obtain ⟨⟨free, data, held, exited⟩, ran, related, perm, count⟩ := pipeline_related distinct init run
  have steps := fun l t => pipeline_simulates_stock pool (blocks malloc n.toNat).reverse s
    ⟨free, data, held, exited⟩ l t related
  rw [Stock.all, ← related.held] at perm
  refine ⟨count, nodup_blocks distinct _, free, data, related.laid, perm,
    stock_order ran, ?_, ?_,
    related.laid.allocate_ne_none, related.laid.load_ne_none⟩
  · intro i p stolen t step
    obtain ⟨b, taken, -⟩ := steps _ _ step
    cases taken with
    | allocate => rfl
    | steal => exact ⟨rfl, rfl⟩
  · intro i t step
    obtain ⟨b, taken, -⟩ := steps _ _ step
    cases taken
    exact perm

end

theorem pipeline_conserves_two_buffers :
    ∃ pool s free data, datapoolInit some 2 1 .start = some pool ∧
      (pipeline Unit pool).Run ⟨pool, [], fun _ => .idle, false⟩
        [.allocate () 1 false, .storing () 1, .store () 1, .allocate () 0 false, .allocate () 1 true] s ∧
      Laid s.pool free data ∧ (free ++ data ++ s.held.map Prod.snd).Perm [0, 1] := by
  obtain ⟨pool, init⟩ : ∃ pool, datapoolInit some 2 1 .start = some pool := ⟨_, rfl⟩
  have run : ∃ s, (pipeline Unit pool).Run ⟨pool, [], fun _ => .idle, false⟩
      [.allocate () 1 false, .storing () 1, .store () 1, .allocate () 0 false, .allocate () 1 true]
      s := by
    obtain rfl := Option.some.inj init
    exact ⟨_, .cons (.allocate rfl rfl rfl) (.cons (.storing rfl rfl (by decide))
      (.cons (.store rfl rfl) (.cons (.allocate rfl rfl rfl) (.cons (.allocate rfl rfl rfl) (.nil _)))))⟩
  obtain ⟨s, run⟩ := run
  obtain ⟨-, -, free, data, laid, perm, -⟩ :=
    pipeline_conserves some distinct_some 2 1 pool init s _ run
  exact ⟨pool, s, free, data, init, run, laid, perm⟩

end GamingAnywhere.Pipeline
