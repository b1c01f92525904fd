import GamingAnywhere.Control.Queue
import GamingAnywhere.Lib.Outbox

namespace GamingAnywhere.Control
open Lib

/-- `wire` is what the stream has got after the handshake. The process is `stopped` by `exit(-1)`. -/
structure ControlClient where
  queue : QueueState
  phase : Outbox.Phase
  wire : Bytes

inductive ClientStep (host : Endian) (maxunit : Nat) :
    ControlClient → Outbox.Event UInt8 → ControlClient → Prop
  | writeMsg {s : ControlClient} {q : QueueState} {msg : Bytes} {accepted : Bool} :
      s.phase ≠ .stopped → QueueStep host maxunit s.queue (.write msg accepted) q →
      ClientStep host maxunit s (.queue (.write msg accepted)) { s with queue := q }
  | readMsg {s : ControlClient} {q : QueueState} {found : Option Bytes} :
      s.phase = .running → QueueStep host maxunit s.queue (.read found) q →
      ClientStep host maxunit s (.queue (.read found)) { s with queue := q }
  | send {s : ControlClient} {qm wlen : Nat} :
      s.phase = .running → s.queue.held = some qm → 1 ≤ wlen →
      wlen ≤ (s.queue.queue.msg host qm).length →
      ClientStep host maxunit s (.send (s.queue.queue.msg host qm) wlen)
        { s with phase := .sent, wire := s.wire ++ (s.queue.queue.msg host qm).take wlen }
  | sendFailed {s : ControlClient} {qm : Nat} : s.phase = .running → s.queue.held = some qm →
      ClientStep host maxunit s .fail { s with phase := .stopped }
  | releaseMsg {s : ControlClient} {q : QueueState} :
      s.phase = .sent → QueueStep host maxunit s.queue .release q →
      ClientStep host maxunit s (.queue .release) { s with queue := q, phase := .running }

def ControlClient.start (q : CtrlQueue) : ControlClient := ⟨⟨q, none⟩, .running, []⟩

def ctrlClientThread (host : Endian) (maxunit : Nat) (q : CtrlQueue) :
    System ControlClient (Outbox.Event UInt8) where
  Init s := s = .start q
  Step := ClientStep host maxunit

structure Drains (host : Endian) (unit n : Nat) (s : ControlClient) (o : Outbox UInt8) : Prop where
  queue : Implements host unit n s.queue o.fifo
  phase : s.phase = o.phase
  wire : s.wire = o.wire

theorem ctrlClientThread_simulates_outbox {host : Endian} {maxunit n : Nat} (short : maxunit ≤ 65535)
    (q : CtrlQueue) :
    System.Simulates (ctrlClientThread host maxunit q) (Outbox.system (n - 1))
      (Drains host (maxunit + queuemsgSize) n) := by
  intro s o l t drains step
  have queued : System.Simulates (ctrlQueue host maxunit q) (Fifo.system (n - 1))
      (Implements host (maxunit + queuemsgSize) n) := ctrlQueue_simulates_fifo short q
  obtain ⟨fifo, phase, wire⟩ := o
  obtain ⟨queue, rfl, rfl⟩ := drains
  cases step with
  | writeMsg running written =>
      obtain ⟨g, written, queue⟩ := queued _ _ _ _ queue written
      exact ⟨⟨g, _, _⟩, .write running written, queue, rfl, rfl⟩
  | readMsg running found =>
      obtain ⟨g, found, queue⟩ := queued _ _ _ _ queue found
      rw [running]
      exact ⟨⟨g, .running, _⟩, .read found, queue, rfl, rfl⟩
  | @send qm wlen running held _ within =>
      have offered : fifo.held = some (s.queue.queue.msg host qm) := by
        rw [← queue.held_msg, held, Option.map_some]
      rw [running]
      exact ⟨⟨fifo, .sent, _⟩, .send offered within, queue, rfl, rfl⟩
  | sendFailed running held =>
      rw [running]
      exact ⟨⟨fifo, .stopped, _⟩, .fail, queue, rfl, rfl⟩
  | releaseMsg sent released =>
      obtain ⟨g, released, queue⟩ := queued _ _ _ _ queue released
      rw [sent]
      exact ⟨⟨g, .running, _⟩, .release released, queue, rfl, rfl⟩

/-- The stream has got the messages accepted first, as many as there were calls of `send`; once the queue
is empty, that is all of them. -/
structure WholeMessages (ls : List (Outbox.Event UInt8)) (s : ControlClient) : Prop where
  wire : s.wire =
    ((ls.filterMap Outbox.Event.accepted).take (ls.countP Outbox.Event.isSend)).flatten
  drained : ctrlQueueReadMsg s.queue.queue = none →
    s.wire = (ls.filterMap Outbox.Event.accepted).flatten

theorem Drains.unsent_nil {host : Endian} {unit n : Nat} {s : ControlClient} {o : Outbox UInt8}
    (drains : Drains host unit n s o) (empty : ctrlQueueReadMsg s.queue.queue = none) :
    o.unsent = [] := by
  obtain ⟨h, holds⟩ := drains.queue.stored
  have nothing : o.fifo.stored = [] := by
    cases stored : o.fifo.stored with
    | nil => rfl
    | cons m rest =>
        rw [stored] at holds
        rw [holds.read_cons] at empty
        cases empty
  rw [Outbox.unsent, nothing, List.tail_nil, ite_self]

theorem ctrlClientThread_whole_iff (host : Endian) (malloc : Option (Mem UInt8)) (size maxunit : Nat)
    (q : CtrlQueue) (short : maxunit ≤ 65535) (room : maxunit + queuemsgSize ≤ size)
    (init : ctrlQueueInit malloc size maxunit = some q) (s : ControlClient)
    (ls : List (Outbox.Event UInt8)) (run : (ctrlClientThread host maxunit q).Run (.start q) ls s) :
    WholeMessages ls s ↔ ∀ l ∈ ls, l.Whole := by
  have made : q.qunit = maxunit + queuemsgSize ∧ q.Holds host (q.qsize / q.qunit) 0 [] :=
    CtrlQueue.holds_init room init
  have begin : Drains host (maxunit + queuemsgSize) (q.qsize / q.qunit) (.start q) .empty :=
    ⟨⟨made.1, ⟨0, made.2⟩, rfl, List.nil_prefix⟩, rfl, rfl⟩
  obtain ⟨o, ran, drains⟩ := run.simulated (ctrlClientThread_simulates_outbox short q) begin
  rw [← Outbox.wire_eq_offered_iff ran, Outbox.offered_eq_take ran, ← drains.wire]
  refine ⟨WholeMessages.wire, fun wire => ⟨wire, fun empty => ?_⟩⟩
  have all : ls.filterMap Outbox.Event.accepted = ls.filterMap Outbox.Event.offered := by
    rw [Outbox.accepted_eq ran, drains.unsent_nil empty, List.append_nil]
  rw [wire, ← Outbox.offered_eq_take ran, all]

def twoMessages (wlen : Nat) : List (Outbox.Event UInt8) :=
  [.queue (.write [7, 9] true), .queue (.write [5] true), .queue (.read (some [7, 9])), .send [7, 9] wlen,
    .queue .release, .queue (.read (some [5])), .send [5] 1, .queue .release]

theorem run_twoMessages {wlen : Nat} (positive : 1 ≤ wlen) (within : wlen ≤ 2) :
    ∃ s, (ctrlClientThread .little 2 ⟨0, 0, 18, 6, fun _ => 0⟩).Run (.start ⟨0, 0, 18, 6, fun _ => 0⟩)
        (twoMessages wlen) s ∧ s.wire = List.take wlen [7, 9] ++ [5] := by
  let q₁ : CtrlQueue := (ctrlQueueWriteMsg .little ⟨0, 0, 18, 6, fun _ => 0⟩ [7, 9]).2
  let q₂ : CtrlQueue := (ctrlQueueWriteMsg .little q₁ [5]).2
  let q₃ : CtrlQueue := ctrlQueueReleaseMsg q₂ 0
  have first : ClientStep .little 2 ⟨⟨q₂, some 0⟩, .running, []⟩ (.send [7, 9] wlen)
      ⟨⟨q₂, some 0⟩, .sent, List.take wlen [7, 9]⟩ :=
    @ClientStep.send _ _ ⟨⟨q₂, some 0⟩, .running, []⟩ 0 wlen rfl rfl positive within
  have second : ClientStep .little 2 ⟨⟨q₃, some 6⟩, .running, List.take wlen [7, 9]⟩ (.send [5] 1)
      ⟨⟨q₃, some 6⟩, .sent, List.take wlen [7, 9] ++ [5]⟩ :=
    @ClientStep.send _ _ ⟨⟨q₃, some 6⟩, .running, List.take wlen [7, 9]⟩ 6 1 rfl rfl (Nat.le_refl 1) (Nat.le_refl 1)
  exact ⟨_, .cons (.writeMsg nofun (.write (by decide) (by decide)))
    (.cons (.writeMsg nofun (.write (by decide) (by decide)))
    (.cons (.readMsg rfl .read) (.cons first (.cons (.releaseMsg rfl .release)
    (.cons (.readMsg rfl .read) (.cons second (.cons (.releaseMsg rfl .release) (.nil _)))))))), rfl⟩

theorem ctrlClientThread_whole_two_messages :
    ∃ s, (ctrlClientThread .little 2 ⟨0, 0, 18, 6, fun _ => 0⟩).Run (.start ⟨0, 0, 18, 6, fun _ => 0⟩)
        (twoMessages 2) s ∧ WholeMessages (twoMessages 2) s := by
  obtain ⟨s, run, -⟩ := @run_twoMessages 2 (by decide) (by decide)
  refine ⟨s, run, (ctrlClientThread_whole_iff .little (some fun _ => 0) 18 2 _ (by decide) (by decide) rfl
    _ _ run).mpr ?_⟩
  simp [twoMessages, Outbox.Event.Whole]

/-- The stream takes the first byte of two, and the thread releases the message and goes on with the next. -/
theorem not_ctrlClientThread_whole :
    ¬ ∀ (host : Endian) (malloc : Option (Mem UInt8)) (size maxunit : Nat) (q : CtrlQueue),
      maxunit ≤ 65535 → maxunit + queuemsgSize ≤ size → ctrlQueueInit malloc size maxunit = some q →
      ∀ (s : ControlClient) (ls : List (Outbox.Event UInt8)),
        (ctrlClientThread host maxunit q).Run (.start q) ls s → WholeMessages ls s := by
  intro whole
  obtain ⟨s, run, first⟩ := @run_twoMessages 1 (by decide) (by decide)
  have wire := (whole .little (some fun _ => 0) 18 2 _ (by decide) (by decide) rfl s _ run).wire
  rw [first] at wire
  exact absurd wire (by decide)

end GamingAnywhere.Control
