import GamingAnywhere.Pipeline.Destruction
import GamingAnywhere.Pipeline.Holding
import GamingAnywhere.Video.Setup

/-!
# Waiting for a frame in the filter

The source thread stores a frame and then signals the filter thread, which waits only after it has found no
frame, and takes for granted that there is one when its wait returns. The signal of a frame that has been loaded
before, and a return without a signal, tell of no frame.
-/

namespace GamingAnywhere.Video
open Lib Pipeline

/-! ## The two threads -/

inductive Role
  | source
  | filter
  deriving DecidableEq

inductive SourcePlace (α : Type*)
  | top
  | capturing (data : α)
  | storing (data : α)
  | stored

inductive FilterPlace (α : Type*)
  | top
  | entering
  | waiting
  | awake
  | filtering (data : α)
  | unexpected

structure FilterState (α : Type*) where
  pool : PoolState Role α
  source : SourcePlace α
  filter : FilterPlace α

/-- `notify` is the signal of the source, and `wake` a return of the wait without one. -/
inductive FilterEvent (α : Type*)
  | pool (event : PoolEvent Role α)
  | enter
  | notify
  | wake

def FilterPlace.signalled {α : Type*} : FilterPlace α → FilterPlace α
  | waiting => awake
  | place => place

section
variable {α : Type*} [DecidableEq α]

inductive FilterStep : FilterState α → FilterEvent α → FilterState α → Prop
  | allocate {s : FilterState α} {data : α} {stolen : Bool} {pool : PoolState Role α} :
      s.source = .top → PoolStep s.pool (.allocate .source data stolen) pool →
      FilterStep s (.pool (.allocate .source data stolen))
        { s with pool := pool, source := .capturing data }
  | abort {s : FilterState α} {pool : PoolState Role α} :
      s.source = .top → PoolStep s.pool (.abort .source) pool →
      FilterStep s (.pool (.abort .source)) { s with pool := pool }
  | storing {s : FilterState α} {data : α} {pool : PoolState Role α} :
      s.source = .capturing data → PoolStep s.pool (.storing .source data) pool →
      FilterStep s (.pool (.storing .source data)) { s with pool := pool, source := .storing data }
  | store {s : FilterState α} {data : α} {pool : PoolState Role α} :
      s.source = .storing data → PoolStep s.pool (.store .source data) pool →
      FilterStep s (.pool (.store .source data)) { s with pool := pool, source := .stored }
  | notify {s : FilterState α} : s.source = .stored →
      FilterStep s .notify { s with source := .top, filter := s.filter.signalled }
  | load {s : FilterState α} {found : Option α} {pool : PoolState Role α} :
      s.filter = .top → PoolStep s.pool (.load .filter found) pool →
      FilterStep s (.pool (.load .filter found))
        { s with pool := pool, filter := found.elim .entering .filtering }
  | enter {s : FilterState α} : s.filter = .entering → FilterStep s .enter { s with filter := .waiting }
  | wake {s : FilterState α} : s.filter = .waiting → FilterStep s .wake { s with filter := .awake }
  | reload {s : FilterState α} {found : Option α} {pool : PoolState Role α} :
      s.filter = .awake → PoolStep s.pool (.load .filter found) pool →
      FilterStep s (.pool (.load .filter found))
        { s with pool := pool, filter := found.elim .unexpected .filtering }
  | release {s : FilterState α} {data : α} {pool : PoolState Role α} :
      s.filter = .filtering data → PoolStep s.pool (.release .filter data) pool →
      FilterStep s (.pool (.release .filter data)) { s with pool := pool, filter := .top }

def filterThreads (pool : Pool α) : System (FilterState α) (FilterEvent α) where
  Init s := s = ⟨⟨pool, [], fun _ => .idle, false⟩, .top, .top⟩
  Step s l t := s.filter ≠ .unexpected ∧ FilterStep s l t

def Returns (s : FilterState α) (t : FilterState α) : Prop := s.filter = .waiting ∧ t.filter = .awake

def ReturnsWithData (s : FilterState α) (_l : FilterEvent α) (t : FilterState α) : Prop :=
  Returns s t → s.pool.pool.datahead ≠ none

/-! ## What the two threads hold -/

def SourcePlace.data : SourcePlace α → List α
  | capturing data | storing data => [data]
  | _ => []

def FilterPlace.data : FilterPlace α → List α
  | filtering data => [data]
  | _ => []

structure FilterState.Sound (total : Nat) (s : FilterState α) (a : Stock Role α) : Prop where
  related : Related s.pool a
  total : a.all.length = total
  held : a.held.length = s.source.data.length + s.filter.data.length
  awake : s.filter = .awake → a.data ≠ []
  expected : s.filter ≠ .unexpected

variable {total : Nat} {s t : FilterState α} {a : Stock Role α} {l : FilterEvent α}

omit [DecidableEq α] in
theorem stock_length (a : Stock Role α) : a.all.length = a.free.length + a.data.length + a.held.length := by
  rw [Stock.all, List.length_append, List.length_append, List.length_map]

theorem FilterState.Sound.pool {event : PoolEvent Role α} {pool : PoolState Role α}
    (sound : s.Sound total a) (taken : PoolStep s.pool event pool) :
    ∃ b, StockStep a event b ∧ Related pool b ∧ b.all.length = total := by
  obtain ⟨b, step, related⟩ :=
    pipeline_simulates_stock (ι := Role) s.pool.pool a.free s.pool a event pool sound.related taken
  exact ⟨b, step, related, (StockStep.perm step).length_eq.trans sound.total⟩

theorem FilterState.Sound.operated (sound : s.Sound total a) {event : PoolEvent Role α}
    {pool : PoolState Role α} {source : SourcePlace α} {filter : FilterPlace α}
    (taken : PoolStep s.pool event pool)
    (held : source.data.length + filter.data.length + event.given =
      s.source.data.length + s.filter.data.length + event.gained)
    (awake : filter = .awake → s.filter = .awake ∧ event.taken = none) (expected : filter ≠ .unexpected) :
    ∃ b, FilterState.Sound total ⟨pool, source, filter⟩ b := by
  obtain ⟨b, step, related, size⟩ := sound.pool taken
  have before := sound.held
  have length := step.length_held
  refine ⟨b, related, size, by dsimp only; omega, fun here => ?_, expected⟩
  obtain ⟨was, untaken⟩ := awake here
  exact step.data_ne_nil untaken (sound.awake was)

theorem FilterState.Sound.allocate (sound : s.Sound total a) (several : 1 < total) {data : α} {stolen : Bool}
    {pool : PoolState Role α} (place : s.source = .top)
    (taken : PoolStep s.pool (.allocate .source data stolen) pool) :
    ∃ b, FilterState.Sound total { s with pool := pool, source := .capturing data } b := by
  obtain ⟨b, step, related, size⟩ := sound.pool taken
  have held := sound.held
  have length := step.length_held
  rw [place] at held
  refine ⟨b, related, size, ?_, fun awake => ?_, sound.expected⟩
  · exact length.trans (by rw [held, Nat.add_right_comm]; rfl)
  · have before := sound.awake awake
    cases step with
    | allocate => exact before
    | @steal i p rest held' =>
        -- Nothing is held, so that all buffers wait with data and one less is left.
        have empty : s.filter.data = [] := by
          have : s.filter = .awake := awake
          rw [this]
          rfl
        rw [stock_length] at size
        simp only [empty, SourcePlace.data, List.length_nil, List.length_cons] at held size
        refine List.ne_nil_of_length_pos ?_
        dsimp only
        omega

theorem FilterState.Sound.step (sound : s.Sound total a) (several : 1 < total)
    (returns : ReturnsWithData s l t) (step : FilterStep s l t) : ∃ b, t.Sound total b := by
  have expected := sound.expected
  cases step with
  | allocate place taken => exact sound.allocate several place taken
  | abort place taken => exact sound.operated taken rfl (fun awake => ⟨awake, rfl⟩) expected
  | storing place taken =>
      exact sound.operated taken (by rw [place]; rfl) (fun awake => ⟨awake, rfl⟩) expected
  | store place taken =>
      refine sound.operated taken ?_ (fun awake => ⟨awake, rfl⟩) expected
      rw [place]
      exact Nat.add_right_comm 0 s.filter.data.length 1
  | @load found pool place taken =>
      cases found with
      | none => exact sound.operated taken (by rw [place]; rfl) nofun nofun
      | some data => exact sound.operated taken (by rw [place]; rfl) nofun nofun
  | @reload found pool place taken =>
      cases found with
      | none =>
          obtain ⟨b, step, -, -⟩ := sound.pool taken
          have filled := sound.awake place
          cases step
          exact absurd rfl filled
      | some data => exact sound.operated taken (by rw [place]; rfl) nofun nofun
  | release place taken => exact sound.operated taken (by rw [place]; rfl) nofun nofun
  | enter place =>
      have held := sound.held
      rw [place] at held
      exact ⟨a, sound.related, sound.total, held, nofun, nofun⟩
  | wake place =>
      have held := sound.held
      have waits := returns ⟨place, rfl⟩
      rw [place] at held
      rw [Ne, sound.related.laid.datahead_eq_none] at waits
      exact ⟨a, sound.related, sound.total, held, fun _ => waits, nofun⟩
  | notify place =>
      have held := sound.held
      rw [place] at held
      cases waits : s.filter with
      | waiting =>
          rw [waits] at held
          have found := returns ⟨waits, by rw [waits]; rfl⟩
          rw [Ne, sound.related.laid.datahead_eq_none] at found
          exact ⟨a, sound.related, sound.total, held, fun _ => found, nofun⟩
      | top | entering | awake | filtering | unexpected =>
          have awake := sound.awake
          rw [waits] at held awake expected
          exact ⟨a, sound.related, sound.total, held, awake, expected⟩

theorem FilterStep.pool (step : FilterStep s l t) :
    t.pool = s.pool ∨ ∃ event, PoolStep s.pool event t.pool ∧
      (s.pool.place .filter = .idle → t.pool.place .filter = .idle) := by
  have foreign : Role.source ≠ Role.filter := by decide
  cases step with
  | allocate place taken | abort place taken | storing place taken | store place taken =>
      exact .inr ⟨_, taken, fun idle => (taken.other foreign).2.trans idle⟩
  | load place taken | reload place taken =>
      exact .inr ⟨_, taken, fun idle => taken.load_heldBy.2.trans idle⟩
  | release place taken => exact .inr ⟨_, taken, fun idle => taken.release_heldBy.2.trans idle⟩
  | notify place | enter place | wake place => exact .inl rfl

def FilterState.Idle (s : FilterState α) : Prop :=
  (∃ a, Related s.pool a) ∧ s.pool.place .filter = .idle

theorem FilterStep.idle (step : FilterStep s l t) (idle : s.Idle) : t.Idle := by
  obtain ⟨⟨a, related⟩, place⟩ := idle
  rcases step.pool with same | ⟨event, taken, kept⟩
  · rw [FilterState.Idle, same]
    exact ⟨⟨a, related⟩, place⟩
  · obtain ⟨b, -, after⟩ :=
      pipeline_simulates_stock (ι := Role) s.pool.pool a.free s.pool a event t.pool related taken
    exact ⟨⟨b, after⟩, kept place⟩

theorem FilterState.Idle.exits (idle : s.Idle) (running : s.pool.exited = false)
    (waits : s.filter = .waiting) (empty : s.pool.pool.datahead = none) (pool : Pool α) :
    ∃ t, (filterThreads pool).Run s [.wake, .pool (.load .filter none)] t ∧ t.filter = .unexpected := by
  obtain ⟨⟨⟨free, data, held, exited⟩, related⟩, place⟩ := idle
  obtain rfl : data = [] := related.laid.datahead_eq_none.mp empty
  have taken : PoolStep s.pool (.load .filter none) s.pool := .load running place related.laid.load_nil
  have woken : (filterThreads pool).Step s .wake { s with filter := .awake } :=
    ⟨by rw [waits]; nofun, .wake waits⟩
  have loaded : (filterThreads pool).Step { s with filter := .awake } (.pool (.load .filter none))
      { s with filter := .unexpected } := ⟨nofun, .reload rfl taken⟩
  exact ⟨_, .cons woken (.cons loaded (.nil _)), rfl⟩

theorem filterThreads_expected (malloc : Nat → Option α) (distinct : Distinct malloc) (datasize : Int)
    (pool : Pool α) (init : datapoolInit malloc poolsize datasize .start = some pool) :
    (∀ s ls, ((filterThreads pool).restrict ReturnsWithData).Run
        ⟨⟨pool, [], fun _ => .idle, false⟩, .top, .top⟩ ls s → s.filter ≠ .unexpected) ∧
    ∀ s ls, (filterThreads pool).Run ⟨⟨pool, [], fun _ => .idle, false⟩, .top, .top⟩ ls s →
      s.pool.exited = false → s.filter = .waiting → s.pool.pool.datahead = none →
      ∃ t, (filterThreads pool).Run s [.wake, .pool (.load .filter none)] t ∧ t.filter = .unexpected := by
  obtain ⟨a, -, related, perm, count⟩ :=
    pipeline_related (ι := Role) distinct init (.nil _)
  constructor
  · intro s ls run
    have start : ∃ a, FilterState.Sound (blocks malloc poolsize.toNat).length
        ⟨⟨pool, [], fun _ => .idle, false⟩, .top, .top⟩ a := by
      refine ⟨a, related, perm.length_eq, ?_, nofun, nofun⟩
      rw [← related.held]
      rfl
    have several : 1 < (blocks malloc poolsize.toNat).length := by
      unfold poolsize at count ⊢
      omega
    have kept (s : FilterState α) (l : FilterEvent α) (t : FilterState α)
        (before : ∃ a, s.Sound (blocks malloc poolsize.toNat).length a)
        (taken : ((filterThreads pool).restrict ReturnsWithData).Step s l t) :
        ∃ a, t.Sound (blocks malloc poolsize.toNat).length a := by
      obtain ⟨a, sound⟩ := before
      exact sound.step several taken.1 taken.2.2
    obtain ⟨b, sound⟩ := run.invariant kept start
    exact sound.expected
  · intro s ls run running waits empty
    have kept (s : FilterState α) (l : FilterEvent α) (t : FilterState α) (before : s.Idle)
        (taken : (filterThreads pool).Step s l t) : t.Idle := taken.2.idle before
    have idle : s.Idle := run.invariant kept ⟨⟨a, related⟩, rfl⟩
    exact idle.exits running waits empty pool

end

theorem filterThreads_expected_eight : ∃ pool, datapoolInit some poolsize 1 .start = some pool ∧
    ∀ (s : FilterState Nat) (ls : List (FilterEvent Nat)),
      ((filterThreads pool).restrict ReturnsWithData).Run
        ⟨⟨pool, [], fun _ => .idle, false⟩, .top, .top⟩ ls s → s.filter ≠ .unexpected := by
  obtain ⟨pool, init⟩ : ∃ pool, datapoolInit some poolsize 1 .start = some pool := ⟨_, rfl⟩
  exact ⟨pool, init, (filterThreads_expected some distinct_some 1 pool init).1⟩

/-- The filter loads the frame before its signal, and is signalled while it waits for the next one. -/
theorem not_filterThreads_expected :
    ¬ ∀ (malloc : Nat → Option Nat) (datasize : Int) (pool : Pool Nat) (s : FilterState Nat)
        (ls : List (FilterEvent Nat)), Distinct malloc →
        datapoolInit malloc poolsize datasize .start = some pool →
        (filterThreads pool).Run ⟨⟨pool, [], fun _ => .idle, false⟩, .top, .top⟩ ls s →
        s.filter ≠ .unexpected := by
  intro all
  obtain ⟨pool, init⟩ : ∃ pool, datapoolInit some poolsize 1 .start = some pool := ⟨_, rfl⟩
  have run : ∃ s, (filterThreads pool).Run ⟨⟨pool, [], fun _ => .idle, false⟩, .top, .top⟩
      [.pool (.allocate .source 7 false), .pool (.storing .source 7), .pool (.store .source 7),
        .pool (.load .filter (some 7)), .pool (.release .filter 7), .pool (.load .filter none), .enter,
        .notify, .pool (.load .filter none)] s ∧ s.filter = .unexpected := by
    obtain rfl := Option.some.inj init
    refine ⟨_, .cons ⟨nofun, .allocate rfl (.allocate rfl rfl rfl)⟩ (.cons
      ⟨nofun, .storing rfl (.storing rfl rfl (by decide))⟩ (.cons ⟨nofun, .store rfl (.store rfl rfl)⟩ (.cons
        ⟨nofun, .load rfl (.load rfl rfl rfl)⟩ (.cons ⟨nofun, .release rfl (.release rfl rfl (by decide))⟩ (.cons
          ⟨nofun, .load rfl (.load rfl rfl rfl)⟩ (.cons ⟨nofun, .enter rfl⟩ (.cons ⟨nofun, .notify rfl⟩ (.cons
            ⟨nofun, .reload rfl (.load rfl rfl rfl)⟩ (.nil _))))))))), rfl⟩
  obtain ⟨s, run, unexpected⟩ := run
  exact all some 1 pool s _ distinct_some init run unexpected

end GamingAnywhere.Video
