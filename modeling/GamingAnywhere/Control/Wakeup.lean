import GamingAnywhere.Control.Queue
import Mathlib.Logic.Function.Basic

/-!
# Waking the consumer of the control queue

A producer writes a message under `queue_mutex` and then signals `wakeup`, holding no mutex. The
consumer empties the queue, locks `wakeup_mutex`, which nobody else uses, and waits without looking at
the queue again. A signal wakes a consumer that waits already and is nothing otherwise.
-/

namespace GamingAnywhere.Control
open Lib

/-! ## Threads -/

/-- `signal` lies between a successful write and its `pthread_cond_signal`. -/
inductive Producer
  | idle
  | signal
  deriving DecidableEq

/-- The next call of the consumer. It is blocked at `waiting`, and `holding` is between
`ctrl_queue_read_msg` and `ctrl_queue_release_msg`. -/
inductive Consumer
  | lock
  | wait
  | waiting
  | unlock
  | readMsg
  | holding (pos : Nat)
  deriving DecidableEq

structure Wakeup (ι : Type*) where
  queue : CtrlQueue
  consumer : Consumer
  producers : ι → Producer

inductive WakeupEvent (ι : Type*)
  | write (i : ι) (msg : Bytes)
  | signal (i : ι)
  | consume

def Consumer.signalled : Consumer → Consumer
  | waiting => unlock
  | other => other

def Consumer.afterRead : Option Nat → Consumer
  | none => lock
  | some pos => holding pos

section
variable {ι : Type*} [DecidableEq ι]

/-- `ctrl_client_sendmsg` and the queueing of `ctrl_server_thread` up to the signal. -/
def Wakeup.write (host : Endian) (s : Wakeup ι) (i : ι) (msg : Bytes) : Wakeup ι :=
  let (ret, queue) := ctrlQueueWriteMsg host s.queue msg
  { s with queue := queue,
           producers := Function.update s.producers i (if ret = msg.length then .signal else .idle) }

inductive WakeupStep (host : Endian) : Wakeup ι → WakeupEvent ι → Wakeup ι → Prop
  | write {s : Wakeup ι} {i : ι} {msg : Bytes} : s.producers i = .idle →
      WakeupStep host s (.write i msg) (s.write host i msg)
  | signal {s : Wakeup ι} {i : ι} : s.producers i = .signal →
      WakeupStep host s (.signal i)
        { s with consumer := s.consumer.signalled, producers := Function.update s.producers i .idle }
  | lock {s : Wakeup ι} : s.consumer = .lock →
      WakeupStep host s .consume { s with consumer := .wait }
  | wait {s : Wakeup ι} : s.consumer = .wait →
      WakeupStep host s .consume { s with consumer := .waiting }
  | spurious {s : Wakeup ι} : s.consumer = .waiting →
      WakeupStep host s .consume { s with consumer := .unlock }
  | unlock {s : Wakeup ι} : s.consumer = .unlock →
      WakeupStep host s .consume { s with consumer := .readMsg }
  | readMsg {s : Wakeup ι} : s.consumer = .readMsg →
      WakeupStep host s .consume { s with consumer := .afterRead (ctrlQueueReadMsg s.queue) }
  | releaseMsg {s : Wakeup ι} {pos : Nat} : s.consumer = .holding pos →
      WakeupStep host s .consume
        { s with queue := ctrlQueueReleaseMsg s.queue pos, consumer := .readMsg }

/-- `ctrl_client_thread` starts at `lock` and `ctrl_server_readnext` at `readMsg`. -/
def wakeup (host : Endian) (q : CtrlQueue) (start : Consumer) :
    System (Wakeup ι) (WakeupEvent ι) where
  Init s := s = ⟨q, start, fun _ => .idle⟩
  Step := WakeupStep host

end

/-! ## No message waits for the next one -/

section
variable {ι : Type*} {s t : Wakeup ι}

def Wakeup.Empty (s : Wakeup ι) : Prop := s.queue.qtail = s.queue.qhead

def Wakeup.Awake (s : Wakeup ι) : Prop :=
  s.consumer = .waiting → (∀ i, s.producers i = .idle) → s.Empty

def Consumer.Resting (c : Consumer) : Prop := c = .lock ∨ c = .wait ∨ c = .waiting

def Wakeup.Expected (s : Wakeup ι) : Prop :=
  s.consumer.Resting → s.Empty ∨ ∃ i, s.producers i = .signal

/-- Where a signal goes to a consumer that does not wait yet but is going to, the queue is empty or
another signal is still to come. -/
def Heard (s : Wakeup ι) (l : WakeupEvent ι) (_t : Wakeup ι) : Prop :=
  match l with
  | .signal i => s.consumer = .lock ∨ s.consumer = .wait →
      s.Empty ∨ ∃ j, j ≠ i ∧ s.producers j = .signal
  | _ => True

theorem Wakeup.Expected.awake (expected : s.Expected) : s.Awake := by
  intro waiting idle
  rcases expected (Or.inr (Or.inr waiting)) with empty | ⟨i, coming⟩
  · exact empty
  · rw [idle i] at coming
    contradiction

theorem Wakeup.busy {i : ι} (busy : s.producers i ≠ .idle) : s.producers i = .signal := by
  cases place : s.producers i with
  | idle => contradiction
  | signal => rfl

variable [DecidableEq ι] {host : Endian} {l : WakeupEvent ι}

theorem Wakeup.Expected.write (expected : s.Expected) (i : ι) (msg : Bytes)
    (idle : s.producers i = .idle) : (s.write host i msg).Expected := by
  intro resting
  by_cases accepted : (ctrlQueueWriteMsg host s.queue msg).1 = msg.length
  · refine Or.inr ⟨i, ?_⟩
    simp [Wakeup.write, accepted]
  · have kept : (s.write host i msg).queue = s.queue := by
      change (ctrlQueueWriteMsg host s.queue msg).2 = s.queue
      unfold ctrlQueueWriteMsg at accepted ⊢
      split_ifs at accepted ⊢ with long full
      · rfl
      · rfl
      · exact absurd rfl accepted
    rcases expected resting with empty | ⟨j, coming⟩
    · refine Or.inl ?_
      rw [Wakeup.Empty, kept]
      exact empty
    · have other : j ≠ i := by
        rintro rfl
        rw [idle] at coming
        contradiction
      exact Or.inr ⟨j, (Function.update_of_ne other _ _).trans coming⟩

theorem Wakeup.Expected.step (step : WakeupStep host s l t) (heard : Heard s l t)
    (expected : s.Expected) : t.Expected := by
  cases step with
  | @write i msg idle => exact expected.write i msg idle
  | @signal i coming =>
      intro resting
      have early : s.consumer = .lock ∨ s.consumer = .wait := by
        revert resting
        unfold Consumer.Resting
        cases s.consumer <;> simp [Consumer.signalled]
      rcases heard early with empty | ⟨j, other, coming⟩
      · exact Or.inl empty
      · exact Or.inr ⟨j, (Function.update_of_ne other _ _).trans coming⟩
  | lock here => exact fun _ => expected (Or.inl here)
  | wait here => exact fun _ => expected (Or.inr (Or.inl here))
  | readMsg here =>
      intro resting
      by_cases empty : s.Empty
      · exact Or.inl empty
      · have found : ctrlQueueReadMsg s.queue = some s.queue.qhead := if_neg empty
        simp [Consumer.Resting, found, Consumer.afterRead] at resting
  | spurious here | unlock here | releaseMsg here =>
      intro resting
      simp [Consumer.Resting] at resting

theorem Wakeup.missed (step : WakeupStep host s l t) (missed : ¬ Heard s l t) :
    (t.consumer = .lock ∨ t.consumer = .wait) ∧ (∀ i, t.producers i = .idle) ∧ ¬ t.Empty := by
  cases step with
  | @signal i coming =>
      simp only [Heard, Classical.not_imp, not_or, not_exists, not_and] at missed
      obtain ⟨early, filled, silent⟩ := missed
      refine ⟨?_, ?_, filled⟩
      · rcases early with here | here <;> simp [here, Consumer.signalled]
      · intro j
        by_cases same : j = i
        · rw [same]
          exact Function.update_self _ _ _
        · refine (Function.update_of_ne same _ _).trans ?_
          by_contra busy
          exact silent j same (s.busy busy)
  | _ => exact absurd trivial missed

theorem wakeup_missed (q : CtrlQueue) (start : Consumer) (step : WakeupStep host s l t)
    (unheard : ¬ Heard s l t) : ∃ ls u, (wakeup host q start).Run t ls u ∧ ¬ u.Awake := by
  obtain ⟨early, idle, filled⟩ := Wakeup.missed step unheard
  have asleep : ¬ ({ t with consumer := .waiting } : Wakeup ι).Awake := fun awake => filled (awake rfl idle)
  have waits : (wakeup host q start).Step { t with consumer := .wait } .consume
      { t with consumer := .waiting } := .wait rfl
  rcases early with here | here
  · exact ⟨_, _, .cons (.lock here) (.cons waits (.nil _)), asleep⟩
  · exact ⟨_, _, .cons (.wait here) (.nil _), asleep⟩

theorem wakeup_awake (host : Endian) (q : CtrlQueue) (start : Consumer)
    (empty : q.qtail = q.qhead) :
    (∀ s : Wakeup ι, ((wakeup host q start).restrict Heard).Reachable s → s.Awake) ∧
    (∀ (s : Wakeup ι) (l : WakeupEvent ι) (t : Wakeup ι), (wakeup host q start).Reachable s →
      (wakeup host q start).Step s l t → ¬ Heard s l t →
      ∃ ls u, (wakeup host q start).Run t ls u ∧ ¬ u.Awake) := by
  constructor
  · intro s reachable
    refine (reachable.invariant (I := Wakeup.Expected) ?_ ?_).awake
    · rintro _ rfl
      exact fun _ => Or.inl empty
    · intro a l b expected step
      exact Wakeup.Expected.step step.2 step.1 expected
  · exact fun _ _ _ _ step unheard => wakeup_missed q start step unheard

end

theorem wakeup_awake_woken : ∃ s : Wakeup Bool,
    ((wakeup .little ⟨0, 0, 18, 6, fun _ => 0⟩ .lock).restrict Heard).Reachable s ∧
    s.consumer = .waiting ∧ (∀ i, s.producers i = .idle) ∧ s.queue.qtail = 12 ∧ s.Awake := by
  let q : CtrlQueue := ⟨0, 0, 18, 6, fun _ => 0⟩
  let guarded := (wakeup .little q .lock).restrict (Heard (ι := Bool))
  have consume {s t : Wakeup Bool} (reached : guarded.Reachable s) (step : WakeupStep .little s .consume t) :
      guarded.Reachable t := reached.step (l := .consume) ⟨trivial, step⟩
  have write {s : Wakeup Bool} (reached : guarded.Reachable s) (i : Bool) (msg : Bytes)
      (idle : s.producers i = .idle) : guarded.Reachable (s.write .little i msg) :=
    reached.step (l := .write i msg) ⟨trivial, .write idle⟩
  have signal {s : Wakeup Bool} (reached : guarded.Reachable s) (i : Bool) (coming : s.producers i = .signal)
      (late : ¬ (s.consumer = .lock ∨ s.consumer = .wait)) : guarded.Reachable
        { s with consumer := s.consumer.signalled, producers := Function.update s.producers i .idle } :=
    reached.step (l := .signal i) ⟨fun early => absurd early late, .signal coming⟩
  have start : guarded.Reachable ⟨q, .lock, fun _ => .idle⟩ := .init rfl
  have waits : guarded.Reachable ⟨q, .waiting, fun _ => .idle⟩ := consume (consume start (.lock rfl)) (.wait rfl)
  let busy (i : Bool) : Bool → Producer := Function.update (fun _ => .idle) i .signal
  have idle (i : Bool) : Function.update (busy i) i .idle = fun _ => .idle := by
    rw [Function.update_idem, Function.update_eq_self]
  obtain ⟨m, written⟩ : ∃ m, guarded.Reachable ⟨⟨0, 6, 18, 6, m⟩, .waiting, busy false⟩ :=
    ⟨_, write waits false [7] rfl⟩
  have woken : guarded.Reachable ⟨⟨0, 6, 18, 6, m⟩, .unlock, fun _ => .idle⟩ := by
    rw [← idle false]
    exact signal written false rfl (by rintro (⟨⟨⟩⟩ | ⟨⟨⟩⟩))
  obtain ⟨m', again⟩ : ∃ m', guarded.Reachable ⟨⟨0, 12, 18, 6, m'⟩, .unlock, busy true⟩ :=
    ⟨_, write woken true [8] rfl⟩
  have both : guarded.Reachable ⟨⟨0, 12, 18, 6, m'⟩, .unlock, fun _ => .idle⟩ := by
    rw [← idle true]
    exact signal again true rfl (by rintro (⟨⟨⟩⟩ | ⟨⟨⟩⟩))
  have first : guarded.Reachable ⟨⟨6, 12, 18, 6, m'⟩, .readMsg, fun _ => .idle⟩ :=
    consume (consume (consume both (.unlock rfl)) (.readMsg rfl)) (.releaseMsg rfl)
  have second : guarded.Reachable ⟨⟨12, 12, 18, 6, m'⟩, .readMsg, fun _ => .idle⟩ :=
    consume (consume first (.readMsg rfl)) (.releaseMsg rfl)
  have asleep : guarded.Reachable ⟨⟨12, 12, 18, 6, m'⟩, .waiting, fun _ => .idle⟩ :=
    consume (consume (consume second (.readMsg rfl)) (.lock rfl)) (.wait rfl)
  exact ⟨_, asleep, rfl, fun _ => rfl, rfl, (wakeup_awake .little q .lock rfl).1 _ asleep⟩

theorem wakeup_missed_by_lock {start : Consumer}
    (reachable : (wakeup .little ⟨0, 0, 12, 6, fun _ => 0⟩ start).Reachable
      (⟨⟨0, 0, 12, 6, fun _ => 0⟩, .lock, fun _ => .idle⟩ : Wakeup Unit)) :
    ∃ u : Wakeup Unit,
      (wakeup .little ⟨0, 0, 12, 6, fun _ => 0⟩ start).Reachable u ∧ ¬ u.Awake := by
  let filled : Wakeup Unit := Wakeup.write .little ⟨⟨0, 0, 12, 6, fun _ => 0⟩, .lock, fun _ => .idle⟩ () [7]
  have written : (wakeup .little ⟨0, 0, 12, 6, fun _ => 0⟩ start).Reachable filled :=
    reachable.step (.write rfl)
  have signalled : WakeupStep .little filled (.signal ())
      { filled with consumer := filled.consumer.signalled,
                    producers := Function.update filled.producers () .idle } := .signal rfl
  obtain ⟨ls, u, run, asleep⟩ := wakeup_missed ⟨0, 0, 12, 6, fun _ => 0⟩ start signalled (by
    intro heard
    rcases heard (Or.inl rfl) with empty | ⟨j, other, -⟩
    · cases empty
    · exact other rfl)
  exact ⟨u, run.invariant (fun _ _ _ before taken => before.step taken) (written.step signalled), asleep⟩

/-- A message is written and signalled before the consumer waits: at its start, or after it has found
the queue empty. -/
theorem not_wakeup_awake :
    (¬ ∀ s : Wakeup Unit,
      (wakeup .little ⟨0, 0, 12, 6, fun _ => 0⟩ .lock).Reachable s → s.Awake) ∧
    ¬ ∀ s : Wakeup Unit,
      (wakeup .little ⟨0, 0, 12, 6, fun _ => 0⟩ .readMsg).Reachable s → s.Awake := by
  constructor
  · intro awake
    obtain ⟨u, reachable, asleep⟩ := wakeup_missed_by_lock (.init rfl)
    exact asleep (awake u reachable)
  · intro awake
    obtain ⟨u, reachable, asleep⟩ :=
      wakeup_missed_by_lock (.step (.init rfl) (WakeupStep.readMsg rfl))
    exact asleep (awake u reachable)

end GamingAnywhere.Control
