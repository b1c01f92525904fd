import GamingAnywhere.Control.Queue
import GamingAnywhere.Lib.ClearableFifo

namespace GamingAnywhere.Control
open Lib

def ctrlQueueClear (q : CtrlQueue) : CtrlQueue := { q with qhead := 0, qtail := 0 }

/-- `cleared` is only for what is said about the runs: since the consumer's last read, the queue has been
cleared. -/
structure ClearingState where
  queue : CtrlQueue
  held : Option Nat
  cleared : Bool

def clearedAfter (cleared : Bool) : Fifo.Event Bytes → Bool
  | .read _ => false
  | _ => cleared

inductive ClearingStep (host : Endian) (maxunit : Nat) :
    ClearingState → ClearableFifo.Event Bytes → ClearingState → Prop
  | call {s t : QueueState} {e : Fifo.Event Bytes} {cleared : Bool} : QueueStep host maxunit s e t →
      ClearingStep host maxunit ⟨s.queue, s.held, cleared⟩ (.call e)
        ⟨t.queue, t.held, clearedAfter cleared e⟩
  | clear {q : CtrlQueue} {held : Option Nat} {cleared : Bool} :
      ClearingStep host maxunit ⟨q, held, cleared⟩ .clear ⟨ctrlQueueClear q, held, true⟩

def clearingQueue (host : Endian) (maxunit : Nat) (q : CtrlQueue) :
    System ClearingState (ClearableFifo.Event Bytes) where
  Init s := s = ⟨q, none, false⟩
  Step := ClearingStep host maxunit

/-- Once the queue has been cleared under the consumer, nothing is written to the slot that it holds, and
it releases it to an empty queue. -/
def Undisturbed (s : ClearingState) (l : ClearableFifo.Event Bytes) (_ : ClearingState) : Prop :=
  s.cleared = true →
    match l with
    | .call (.write _ true) => s.held ≠ some s.queue.qtail
    | .call .release => s.queue.qhead = s.queue.qtail
    | _ => True

/-! ## The queue is a FIFO that can be cleared -/

def Holding.HeldAt (host : Endian) (s : ClearingState) : Holding Bytes → Prop
  | .idle => s.held = none
  | .stored _ => s.held = some s.queue.qhead ∧ s.cleared = false
  | .outlived m =>
      s.cleared = true ∧
        ∃ i, s.held = some (i * s.queue.qunit) ∧ s.queue.Slot host (i * s.queue.qunit) m

structure Represents (host : Endian) (unit n : Nat) (s : ClearingState) (f : ClearableFifo Bytes) :
    Prop where
  unit : s.queue.qunit = unit
  stored : ∃ h, s.queue.Holds host n h f.stored
  holding : Holding.HeldAt host s f.holding
  oldest : f.Oldest

section
variable {host : Endian} {maxunit unit n h : Nat} {q : CtrlQueue} {stored : List Bytes}
variable {s t : ClearingState} {f : ClearableFifo Bytes}

theorem CtrlQueue.Holds.clear (holds : q.Holds host n h stored) :
    (ctrlQueueClear q).Holds host n 0 [] where
  size := holds.size
  unit := holds.unit
  head := (Nat.zero_mul _).symm
  tail := by
    have positive : 0 < n := Nat.lt_of_le_of_lt (Nat.zero_le _) holds.inside
    rw [List.length_nil, Ring.slot_zero positive, Nat.zero_mul]
    rfl
  inside := Nat.lt_of_le_of_lt (Nat.zero_le _) holds.inside
  room := Nat.lt_of_le_of_lt (Nat.zero_le _) holds.room
  slots i m here := by cases here

theorem Represents.held_msg (represents : Represents host unit n s f) :
    s.held.map (s.queue.msg host) = f.holding.element := by
  obtain ⟨stored, holding⟩ := f
  have held := represents.holding
  cases holding with
  | idle =>
      rw [show s.held = none from held]
      rfl
  | stored m =>
      obtain ⟨h, holds⟩ := represents.stored
      obtain ⟨rest, rfl⟩ : ∃ rest, stored = m :: rest := represents.oldest.exists_cons rfl
      rw [held.1, Option.map_some, holds.first.msg]
      rfl
  | outlived m =>
      obtain ⟨-, i, here, slot⟩ := held
      rw [here, Option.map_some, slot.msg]
      rfl

theorem Represents.clear (represents : Represents host unit n s f) :
    Represents host unit n ⟨ctrlQueueClear s.queue, s.held, true⟩ ⟨[], f.holding.clear⟩ := by
  obtain ⟨h, holds⟩ := represents.stored
  obtain ⟨stored, holding⟩ := f
  have held := represents.holding
  refine ⟨represents.unit, ⟨0, holds.clear⟩, ?_, ClearableFifo.Step.oldest .clear represents.oldest⟩
  cases holding with
  | idle => exact held
  | stored m =>
      obtain ⟨rest, rfl⟩ : ∃ rest, stored = m :: rest := represents.oldest.exists_cons rfl
      have slot := holds.first
      rw [holds.head] at slot
      refine ⟨rfl, h, ?_, slot.cells, slot.fits, slot.short⟩
      exact held.1.trans (congrArg some holds.head)
  | outlived m =>
      obtain ⟨-, i, here, slot⟩ := held
      exact ⟨rfl, i, here, slot.cells, slot.fits, slot.short⟩

variable {held : Option Nat} {cleared : Bool} {msg : Bytes}

theorem Represents.accept (represents : Represents host unit n ⟨q, held, cleared⟩ f)
    (fits : msg.length + queuemsgSize ≤ unit) (short : msg.length < 65536)
    (room : f.stored.length + 1 < n) (undisturbed : cleared = true → held ≠ some q.qtail) :
    Represents host unit n ⟨(ctrlQueueWriteMsg host q msg).2, held, cleared⟩
      ⟨f.stored ++ [msg], f.holding⟩ := by
  obtain ⟨h, holds⟩ := represents.stored
  obtain ⟨stored, holding⟩ := f
  have heldAt := represents.holding
  rw [← represents.unit] at fits
  rw [holds.write_msg fits, if_pos room]
  refine ⟨represents.unit, ⟨h, holds.write fits short room⟩, ?_,
    ClearableFifo.Step.oldest .accept represents.oldest⟩
  cases holding with
  | idle => exact heldAt
  | stored m => exact heldAt
  | outlived m =>
      obtain ⟨outlived, i, here, slot⟩ := heldAt
      refine ⟨outlived, i, here, slot.written fits ?_ (by rw [holds.tail]) rfl⟩
      rintro rfl
      exact undisturbed outlived (here.trans (congrArg some holds.tail.symm))

theorem Represents.read (represents : Represents host unit n ⟨q, none, cleared⟩ f) :
    ∃ g, ClearableFifo.Step f (.call (.read ((ctrlQueueReadMsg q).map (q.msg host)))) g ∧
      Represents host unit n ⟨q, ctrlQueueReadMsg q, false⟩ g := by
  obtain ⟨h, holds⟩ := represents.stored
  obtain ⟨stored, holding⟩ := f
  have idle : holding = .idle := by
    have heldAt := represents.holding
    cases holding with
    | idle => rfl
    | stored m => cases heldAt.1
    | outlived m =>
        obtain ⟨-, i, here, -⟩ := heldAt
        cases here
  subst idle
  cases stored with
  | nil =>
      rw [holds.read_nil]
      exact ⟨⟨[], .idle⟩, .none, represents.unit, ⟨h, holds⟩, rfl,
        ClearableFifo.Step.oldest .none represents.oldest⟩
  | cons m rest =>
      rw [holds.read_cons, Option.map_some, holds.first.msg]
      exact ⟨⟨m :: rest, .stored m⟩, .read, represents.unit, ⟨h, holds⟩, ⟨rfl, rfl⟩,
        ClearableFifo.Step.oldest .read represents.oldest⟩

theorem Represents.release {pos : Nat} (represents : Represents host unit n ⟨q, some pos, cleared⟩ f)
    (undisturbed : cleared = true → q.qhead = q.qtail) :
    ∃ g, ClearableFifo.Step f (.call .release) g ∧
      Represents host unit n ⟨ctrlQueueReleaseMsg q pos, none, cleared⟩ g := by
  obtain ⟨h, holds⟩ := represents.stored
  obtain ⟨stored, holding⟩ := f
  have heldAt := represents.holding
  have unit := (ctrlQueueReleaseMsg_qunit q pos).trans represents.unit
  cases holding with
  | idle => cases heldAt
  | stored m =>
      obtain ⟨rest, rfl⟩ : ∃ rest, stored = m :: rest := represents.oldest.exists_cons rfl
      exact ⟨⟨rest, .idle⟩, .release, unit, ⟨_, holds.release pos⟩, rfl,
        ClearableFifo.Step.oldest .release represents.oldest⟩
  | outlived m =>
      have same : ctrlQueueReleaseMsg q pos = q := if_pos (undisturbed heldAt.1)
      rw [same]
      exact ⟨⟨stored, .idle⟩, .releaseOutlived, represents.unit, ⟨h, holds⟩, rfl,
        ClearableFifo.Step.oldest .releaseOutlived represents.oldest⟩

theorem clearingQueue_simulates (short : maxunit ≤ 65535) (q : CtrlQueue) :
    System.Simulates ((clearingQueue host maxunit q).restrict Undisturbed) ClearableFifo.system
      (Represents host (maxunit + queuemsgSize) n) := by
  rintro s f l t represents ⟨undisturbed, step⟩
  obtain ⟨h, holds⟩ := represents.stored
  cases step with
  | clear => exact ⟨_, .clear, represents.clear⟩
  | @call a b e cleared step =>
      cases step with
      | @write q held msg positive long =>
          have unit : q.qunit = maxunit + queuemsgSize := represents.unit
          have fits : msg.length + queuemsgSize ≤ maxunit + queuemsgSize := Nat.add_le_add_right long _
          have written := holds.write_msg (unit ▸ fits)
          by_cases room : f.stored.length + 1 < n
          · rw [if_pos room] at written
            have accepted : decide ((ctrlQueueWriteMsg host q msg).1 = msg.length) = true := by
              rw [written, decide_eq_true rfl]
            rw [accepted] at undisturbed ⊢
            exact ⟨_, .accept, represents.accept fits (Nat.lt_succ_of_le (long.trans short)) room undisturbed⟩
          · rw [if_neg room] at written
            have refused : decide ((ctrlQueueWriteMsg host q msg).1 = msg.length) = false := by
              rw [written, decide_eq_false positive.ne]
            rw [refused, written]
            exact ⟨f, .refuse, represents⟩
      | read => exact represents.read
      | release => exact represents.release undisturbed

/-! ## What a disturbed step does -/

inductive Loses (host : Endian) (s : ClearingState) (f : ClearableFifo Bytes) :
    ClearableFifo.Event Bytes → ClearingState → Prop
  | overwritten {pos : Nat} {msg : Bytes} {t : ClearingState} : s.held = some pos →
      t.queue.msg host pos = msg → Loses host s f (.call (.write msg true)) t
  | removed {m : Bytes} {rest : List Bytes} {n h : Nat} {t : ClearingState} : f.unread = m :: rest →
      t.queue.Holds host n h rest → Loses host s f (.call .release) t

theorem Represents.loses (represents : Represents host (maxunit + queuemsgSize) n s f)
    (short : maxunit ≤ 65535) {l : ClearableFifo.Event Bytes} (step : ClearingStep host maxunit s l t)
    (disturbed : ¬ Undisturbed s l t) : Loses host s f l t := by
  obtain ⟨stored, holding⟩ := f
  obtain ⟨h, holds⟩ := represents.stored
  obtain ⟨cleared, disturbs⟩ := Classical.not_imp.mp disturbed
  cases step with
  | clear => exact absurd trivial disturbs
  | @call a b e cleared' step =>
      cases step with
      | @write q held msg positive long =>
          have unit : q.qunit = maxunit + queuemsgSize := represents.unit
          have fits : msg.length + queuemsgSize ≤ q.qunit := by omega
          rw [holds.write_msg fits] at disturbs ⊢
          split_ifs at disturbs ⊢ with room
          · rw [decide_eq_true rfl] at disturbs ⊢
            have here : held = some q.qtail := not_not.mp disturbs
            have written := (holds.write fits (by omega) room).slots stored.length msg
              List.getElem?_concat_length
            rw [← holds.tail] at written
            exact .overwritten here written.msg
          · rw [decide_eq_false positive.ne] at disturbs
            exact absurd trivial disturbs
      | read => exact absurd trivial disturbs
      | @release q pos =>
          have outlived : ∃ m, holding = .outlived m := by
            have held := represents.holding
            cases holding with
            | idle => cases held
            | stored m => exact absurd cleared (by rw [held.2]; nofun)
            | outlived m => exact ⟨m, rfl⟩
          obtain ⟨held, rfl⟩ := outlived
          obtain ⟨m, rest, rfl⟩ : ∃ m rest, stored = m :: rest := by
            refine List.exists_cons_of_ne_nil fun empty => disturbs ?_
            exact (holds.empty_iff.mpr empty).symm
          exact .removed rfl (holds.release pos)

end

theorem ctrlQueue_survives_clear (host : Endian) (malloc : Option (Mem UInt8)) (size maxunit : Nat)
    (q : CtrlQueue) (short : maxunit ≤ 65535) (room : maxunit + queuemsgSize ≤ size)
    (init : ctrlQueueInit malloc size maxunit = some q) (s : ClearingState)
    (ls : List (ClearableFifo.Event Bytes))
    (run : ((clearingQueue host maxunit q).restrict Undisturbed).Run ⟨q, none, false⟩ ls s) :
    ∃ f, ClearableFifo.system.Run .empty ls f ∧ s.held.map (s.queue.msg host) = f.holding.element ∧
      (∀ before after, ls = before ++ .clear :: after → ClearableFifo.Event.clear ∉ after →
        after.filterMap ClearableFifo.Event.accepted =
          after.filterMap ClearableFifo.Event.delivered ++ f.unread) ∧
      ∀ l t, ClearingStep host maxunit s l t → ¬ Undisturbed s l t → Loses host s f l t := by
  have made : q.qunit = maxunit + queuemsgSize ∧ q.Holds host (q.qsize / q.qunit) 0 [] :=
    CtrlQueue.holds_init room init
  have start : Represents host (maxunit + queuemsgSize) (q.qsize / q.qunit) ⟨q, none, false⟩ .empty :=
    ⟨made.1, ⟨0, made.2⟩, rfl, ClearableFifo.oldest_empty⟩
  obtain ⟨f, ran, represents⟩ := run.simulated (clearingQueue_simulates short q) start
  refine ⟨f, ran, represents.held_msg, ?_, fun l t step => represents.loses short step⟩
  rintro before after rfl kept
  obtain ⟨g, first, second⟩ := ran.of_append
  obtain _ | ⟨cleared, rest⟩ := second
  have oldest : g.Oldest :=
    first.invariant (I := ClearableFifo.Oldest) (fun _ _ _ holds step => ClearableFifo.Step.oldest step holds)
      ClearableFifo.oldest_empty
  have accepted := ClearableFifo.accepted_eq rest (ClearableFifo.Step.oldest cleared oldest) kept
  cases cleared with
  | clear =>
      have none : (⟨[], g.holding.clear⟩ : ClearableFifo Bytes).unread = [] := by
        unfold ClearableFifo.unread
        split <;> rfl
      rwa [none, List.nil_append] at accepted

def threeUnits : CtrlQueue := ⟨0, 0, 18, 6, fun _ => 0⟩

theorem ctrlQueue_survives_clear_released : ∃ (s : ClearingState) (f : ClearableFifo Bytes),
    (clearingQueue .little 2 threeUnits).Run ⟨threeUnits, none, false⟩
      [.call (.write [7] true), .call (.read (some [7])), .clear, .call .release, .call (.write [9] true)]
      s ∧ ClearableFifo.system.Run .empty
      [.call (.write [7] true), .call (.read (some [7])), .clear, .call .release, .call (.write [9] true)]
      f ∧ f.unread = [[9]] := by
  have run : ((clearingQueue .little 2 threeUnits).restrict Undisturbed).Run ⟨threeUnits, none, false⟩
      [.call (.write [7] true), .call (.read (some [7])), .clear, .call .release, .call (.write [9] true)]
      _ :=
    .cons ⟨nofun, .call (.write (by decide) (by decide))⟩
      (.cons ⟨nofun, .call .read⟩
        (.cons ⟨nofun, .clear⟩
          (.cons ⟨fun _ => rfl, .call .release⟩
            (.cons ⟨fun _ => nofun, .call (.write (by decide) (by decide))⟩ (.nil _)))))
  obtain ⟨f, ran, -, kept, -⟩ := ctrlQueue_survives_clear .little (some fun _ => 0) 18 2 threeUnits
    (by decide) (by decide) rfl _ _ run
  have unread := kept [.call (.write [7] true), .call (.read (some [7]))] _ rfl (by simp)
  exact ⟨_, f, run.of_restrict, ran, unread.symm⟩

/-- The consumer holds a message while the queue is cleared and the next message is written: it releases the
latter, which nobody reads. -/
theorem not_ctrlQueue_survives_clear :
    ¬ ∀ (s : ClearingState) (ls : List (ClearableFifo.Event Bytes)),
      (clearingQueue .little 2 threeUnits).Run ⟨threeUnits, none, false⟩ ls s →
        ∃ f, ClearableFifo.system.Run .empty ls f ∧
          s.held.map (s.queue.msg .little) = f.holding.element := by
  intro survives
  have run : (clearingQueue .little 2 threeUnits).Run ⟨threeUnits, none, false⟩
      [.call (.write [7] true), .call (.read (some [7])), .clear, .call (.write [9] true),
        .call .release, .call (.read none)] _ :=
    .cons (.call (.write (by decide) (by decide)))
      (.cons (.call .read)
        (.cons .clear
          (.cons (.call (.write (by decide) (by decide)))
            (.cons (.call .release) (.cons (.call .read) (.nil _))))))
  obtain ⟨f, ran, -⟩ := survives _ _ run
  obtain _ | ⟨step, ran⟩ := ran
  cases step
  obtain _ | ⟨step, ran⟩ := ran
  cases step
  obtain _ | ⟨step, ran⟩ := ran
  cases step
  obtain _ | ⟨step, ran⟩ := ran
  cases step
  obtain _ | ⟨step, ran⟩ := ran
  cases step
  obtain _ | ⟨step, -⟩ := ran
  cases step

end GamingAnywhere.Control
