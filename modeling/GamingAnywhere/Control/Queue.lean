import GamingAnywhere.Lib.Bytes
import GamingAnywhere.Lib.Fifo
import GamingAnywhere.Lib.Memory
import GamingAnywhere.Lib.Ring
import GamingAnywhere.Lib.Transition

/-!
# The control queue

A ring of slots of `qunit` bytes, each with a size and a message. `qhead` and `qtail` are offsets; one
slot stays free, so that they are equal only while the queue is empty. Every function works under
`queue_mutex`, so that its call is one step; but the consumer reads a message in place, between
`ctrl_queue_read_msg` and `ctrl_queue_release_msg`, while the producers go on.
-/

namespace GamingAnywhere.Control
open Lib

/-! ## The functions -/

def queuemsgSize : Nat := 4

structure CtrlQueue where
  qhead : Nat
  qtail : Nat
  qsize : Nat
  qunit : Nat
  qbuffer : Mem UInt8

def ctrlQueueInit (malloc : Option (Mem UInt8)) (size maxunit : Nat) : Option CtrlQueue :=
  malloc.map fun qbuffer =>
    let qunit := maxunit + queuemsgSize
    ⟨0, 0, size - size % qunit, qunit, qbuffer⟩

/-- The offset of the message, `none` for NULL. -/
def ctrlQueueReadMsg (q : CtrlQueue) : Option Nat := if q.qtail = q.qhead then none else some q.qhead

def CtrlQueue.next (q : CtrlQueue) (pos : Nat) : Nat :=
  if pos + q.qunit = q.qsize then 0 else pos + q.qunit

/-- An incorrect `msg` is only warned about. -/
def ctrlQueueReleaseMsg (q : CtrlQueue) (_msg : Nat) : CtrlQueue :=
  if q.qhead = q.qtail then q else { q with qhead := q.next q.qhead }

def ctrlQueueWriteMsg (host : Endian) (q : CtrlQueue) (msg : Bytes) : Nat × CtrlQueue :=
  if q.qunit < msg.length + queuemsgSize then (0, q)
  else if q.next q.qtail = q.qhead then (0, q)
  else
    (msg.length,
      { q with qbuffer := q.qbuffer.store q.qtail (host.short msg.length ++ msg),
               qtail := q.next q.qtail })

def CtrlQueue.msgsize (host : Endian) (q : CtrlQueue) (pos : Nat) : Nat :=
  host.readShort (q.qbuffer pos) (q.qbuffer (pos + 1))

def CtrlQueue.msg (host : Endian) (q : CtrlQueue) (pos : Nat) : Bytes :=
  q.qbuffer.slice (pos + 2) (q.msgsize host pos)

/-! ## What the queue holds -/

structure CtrlQueue.Slot (host : Endian) (q : CtrlQueue) (pos : Nat) (m : Bytes) : Prop where
  cells : q.qbuffer.slice pos (m.length + 2) = host.short m.length ++ m
  fits : m.length + queuemsgSize ≤ q.qunit
  short : m.length < 65536

/-- The queue is a ring of `n` slots, of which the `stored` ones begin at slot `h`. -/
structure CtrlQueue.Holds (host : Endian) (q : CtrlQueue) (n h : Nat) (stored : List Bytes) :
    Prop where
  size : q.qsize = n * q.qunit
  unit : queuemsgSize ≤ q.qunit
  head : q.qhead = h * q.qunit
  tail : q.qtail = Ring.slot n h stored.length * q.qunit
  inside : h < n
  room : stored.length < n
  slots : ∀ i m, stored[i]? = some m → q.Slot host (Ring.slot n h i * q.qunit) m

section
variable {host : Endian} {q : CtrlQueue} {n h pos : Nat} {stored : List Bytes} {m : Bytes}

theorem CtrlQueue.Slot.msg (slot : q.Slot host pos m) : q.msg host pos = m := by
  obtain ⟨a, b, bytes, size⟩ := host.exists_short slot.short
  have cells := slot.cells
  rw [bytes, Nat.add_comm m.length 2, Mem.slice_add] at cells
  simp only [Mem.slice_succ, Mem.slice_zero, List.cons_append, List.nil_append, List.cons.injEq]
    at cells
  obtain ⟨first, second, body⟩ := cells
  rw [CtrlQueue.msg, CtrlQueue.msgsize, first, second, size, body]

theorem CtrlQueue.Holds.unit_pos (holds : q.Holds host n h stored) : 0 < q.qunit := by
  have := holds.unit
  unfold queuemsgSize at this
  omega

theorem CtrlQueue.Holds.next_slot (holds : q.Holds host n h stored) {i : Nat} (inside : i < n) :
    q.next (i * q.qunit) = Ring.slot n i 1 * q.qunit := by
  have next : i * q.qunit + q.qunit = (i + 1) * q.qunit := (Nat.succ_mul _ _).symm
  have wraps : (i + 1) * q.qunit = n * q.qunit ↔ i + 1 = n :=
    Nat.mul_left_inj (Nat.ne_of_gt holds.unit_pos)
  rw [CtrlQueue.next, next, holds.size, Ring.slot]
  by_cases last : i + 1 = n
  · rw [if_pos (wraps.mpr last), last, Nat.mod_self, Nat.zero_mul]
  · rw [if_neg (mt wraps.mp last), Nat.mod_eq_of_lt (by omega)]

theorem CtrlQueue.Holds.empty_iff (holds : q.Holds host n h stored) :
    q.qtail = q.qhead ↔ stored = [] := by
  rw [holds.tail, holds.head, Nat.mul_left_inj (Nat.ne_of_gt holds.unit_pos),
    Ring.slot_eq_self holds.inside holds.room, List.length_eq_zero_iff]

theorem CtrlQueue.Holds.next_tail (holds : q.Holds host n h stored) :
    q.next q.qtail = Ring.slot n h (stored.length + 1) * q.qunit := by
  have positive : 0 < n := Nat.lt_of_le_of_lt (Nat.zero_le _) holds.inside
  rw [holds.tail, holds.next_slot (Ring.slot_lt positive), Ring.slot_succ]

theorem CtrlQueue.Holds.full_iff (holds : q.Holds host n h stored) :
    q.next q.qtail = q.qhead ↔ stored.length + 1 = n := by
  rw [holds.next_tail, holds.head, Nat.mul_left_inj (Nat.ne_of_gt holds.unit_pos),
    Ring.slot_succ_eq_self holds.inside holds.room]

theorem CtrlQueue.Holds.first (holds : q.Holds host n h (m :: stored)) : q.Slot host q.qhead m := by
  have slot := holds.slots 0 m rfl
  rwa [Ring.slot_zero holds.inside, ← holds.head] at slot

theorem slots_disjoint {i j unit : Nat} (other : i ≠ j) {a b : Nat} (small : a ≤ unit) (small' : b ≤ unit) :
    i * unit + a ≤ j * unit ∨ j * unit + b ≤ i * unit := by
  rcases Nat.lt_or_gt_of_ne other with before | behind
  · have := Nat.mul_le_mul_right unit (Nat.succ_le_of_lt before)
    rw [Nat.succ_mul] at this
    omega
  · have := Nat.mul_le_mul_right unit (Nat.succ_le_of_lt behind)
    rw [Nat.succ_mul] at this
    omega

theorem CtrlQueue.Slot.written {q' : CtrlQueue} {i j : Nat} {m' : Bytes}
    (slot : q.Slot host (i * q.qunit) m') (fits : m.length + queuemsgSize ≤ q.qunit) (other : i ≠ j)
    (buffer : q'.qbuffer = q.qbuffer.store (j * q.qunit) (host.short m.length ++ m))
    (unit : q'.qunit = q.qunit) : q'.Slot host (i * q.qunit) m' := by
  have written : (host.short m.length ++ m).length = m.length + 2 := by
    rw [List.length_append, host.length_short, Nat.add_comm]
  have small : m.length + 2 ≤ q.qunit := by
    unfold queuemsgSize at fits
    omega
  have small' : m'.length + 2 ≤ q.qunit := by
    have := slot.fits
    unfold queuemsgSize at this
    omega
  refine ⟨?_, unit ▸ slot.fits, slot.short⟩
  rw [buffer, Mem.slice_store_of_disjoint]
  · exact slot.cells
  · rw [written]
    exact slots_disjoint other small' small

theorem CtrlQueue.Holds.write (holds : q.Holds host n h stored)
    (fits : m.length + queuemsgSize ≤ q.qunit) (short : m.length < 65536)
    (room : stored.length + 1 < n) :
    CtrlQueue.Holds host { q with qbuffer := q.qbuffer.store q.qtail (host.short m.length ++ m),
                                  qtail := q.next q.qtail } n h (stored ++ [m]) where
  size := holds.size
  unit := holds.unit
  head := holds.head
  tail := by
    rw [List.length_append, List.length_singleton]
    exact holds.next_tail
  inside := holds.inside
  room := by
    rw [List.length_append, List.length_singleton]
    exact room
  slots i m' here := by
    by_cases old : i < stored.length
    · rw [List.getElem?_append_left old] at here
      have apart : Ring.slot n h i ≠ Ring.slot n h stored.length := by
        rw [Ne, Ring.slot_inj (by omega) holds.room]
        omega
      exact (holds.slots i m' here).written fits apart (by rw [holds.tail]) rfl
    · have last : i = stored.length := by
        have := (List.getElem?_eq_some_iff.mp here).1
        rw [List.length_append, List.length_singleton] at this
        omega
      have written : (host.short m.length ++ m).length = m.length + 2 := by
        rw [List.length_append, host.length_short, Nat.add_comm]
      rw [last, List.getElem?_concat_length] at here
      obtain rfl := Option.some.inj here
      rw [last]
      refine ⟨?_, fits, short⟩
      rw [← holds.tail, ← written]
      exact q.qbuffer.slice_store_self _ _

theorem CtrlQueue.Holds.release (holds : q.Holds host n h (m :: stored)) (pos : Nat) :
    (ctrlQueueReleaseMsg q pos).Holds host n (Ring.slot n h 1) stored := by
  have filled : q.qhead ≠ q.qtail := by
    intro empty
    have := holds.empty_iff.mp empty.symm
    contradiction
  have positive : 0 < n := Nat.lt_of_le_of_lt (Nat.zero_le _) holds.inside
  have room := holds.room
  rw [List.length_cons] at room
  rw [ctrlQueueReleaseMsg, if_neg filled]
  constructor
  · exact holds.size
  · exact holds.unit
  · change q.next q.qhead = _
    rw [holds.head]
    exact holds.next_slot holds.inside
  · rw [Ring.slot_one_slot]
    exact holds.tail
  · exact Ring.slot_lt positive
  · omega
  · intro i m' here
    have slot := holds.slots (i + 1) m' here
    rw [Ring.slot_one_slot]
    exact ⟨slot.cells, slot.fits, slot.short⟩

theorem CtrlQueue.holds_init {malloc : Option (Mem UInt8)} {size maxunit : Nat}
    (room : maxunit + queuemsgSize ≤ size) (init : ctrlQueueInit malloc size maxunit = some q) :
    q.qunit = maxunit + queuemsgSize ∧ q.Holds host (q.qsize / q.qunit) 0 [] := by
  obtain ⟨buffer, -, rfl⟩ := Option.map_eq_some_iff.mp init
  have positive : 0 < maxunit + queuemsgSize := Nat.succ_pos _
  have whole : size - size % (maxunit + queuemsgSize) =
      size / (maxunit + queuemsgSize) * (maxunit + queuemsgSize) := by
    have := Nat.div_add_mod' size (maxunit + queuemsgSize)
    omega
  have units : 0 < size / (maxunit + queuemsgSize) := Nat.div_pos room positive
  refine ⟨rfl, ?_⟩
  simp only [whole, Nat.mul_div_cancel _ positive]
  constructor
  · rfl
  · exact Nat.le_add_left _ _
  · exact (Nat.zero_mul _).symm
  · rw [List.length_nil, Ring.slot_zero units, Nat.zero_mul]
  · exact units
  · exact units
  · intro i m here
    cases here

theorem CtrlQueue.Holds.read_nil (holds : q.Holds host n h []) : ctrlQueueReadMsg q = none := by
  rw [ctrlQueueReadMsg, if_pos (holds.empty_iff.mpr rfl)]

theorem CtrlQueue.Holds.read_cons (holds : q.Holds host n h (m :: stored)) :
    ctrlQueueReadMsg q = some q.qhead := by
  have filled : q.qtail ≠ q.qhead := fun empty => absurd (holds.empty_iff.mp empty) (List.cons_ne_nil _ _)
  rw [ctrlQueueReadMsg, if_neg filled]

theorem ctrlQueueReleaseMsg_qunit (q : CtrlQueue) (pos : Nat) :
    (ctrlQueueReleaseMsg q pos).qunit = q.qunit := by
  unfold ctrlQueueReleaseMsg
  split <;> rfl

theorem CtrlQueue.Holds.write_msg (holds : q.Holds host n h stored)
    (fits : m.length + queuemsgSize ≤ q.qunit) :
    ctrlQueueWriteMsg host q m =
      if stored.length + 1 < n then
        (m.length, { q with qbuffer := q.qbuffer.store q.qtail (host.short m.length ++ m),
                            qtail := q.next q.qtail })
      else (0, q) := by
  have room := holds.room
  rw [ctrlQueueWriteMsg, if_neg (by omega)]
  by_cases full : stored.length + 1 = n
  · rw [if_pos (holds.full_iff.mpr full), if_neg (by omega)]
  · rw [if_neg (mt holds.full_iff.mp full), if_pos (by omega)]

end

/-! ## Producers and a consumer -/

/-- `held` is the message that the consumer has read and not yet released. -/
structure QueueState where
  queue : CtrlQueue
  held : Option Nat

/-- A write is accepted when it returns the size of its message. -/
inductive QueueStep (host : Endian) (maxunit : Nat) :
    QueueState → Fifo.Event Bytes → QueueState → Prop
  | write {q : CtrlQueue} {held : Option Nat} {msg : Bytes} :
      0 < msg.length → msg.length ≤ maxunit →
      QueueStep host maxunit ⟨q, held⟩ (.write msg ((ctrlQueueWriteMsg host q msg).1 = msg.length))
        ⟨(ctrlQueueWriteMsg host q msg).2, held⟩
  | read {q : CtrlQueue} :
      QueueStep host maxunit ⟨q, none⟩ (.read ((ctrlQueueReadMsg q).map (q.msg host)))
        ⟨q, ctrlQueueReadMsg q⟩
  | release {q : CtrlQueue} {pos : Nat} :
      QueueStep host maxunit ⟨q, some pos⟩ .release ⟨ctrlQueueReleaseMsg q pos, none⟩

def ctrlQueue (host : Endian) (maxunit : Nat) (q : CtrlQueue) :
    System QueueState (Fifo.Event Bytes) where
  Init s := s = ⟨q, none⟩
  Step := QueueStep host maxunit

structure Implements (host : Endian) (unit n : Nat) (s : QueueState) (f : Fifo Bytes) : Prop where
  unit : s.queue.qunit = unit
  stored : ∃ h, s.queue.Holds host n h f.stored
  held : s.held = f.held.map fun _ => s.queue.qhead
  oldest : f.Oldest

section
variable {host : Endian} {maxunit unit n : Nat} {s : QueueState} {f : Fifo Bytes}

theorem Implements.held_msg (implements : Implements host unit n s f) :
    s.held.map (s.queue.msg host) = f.held := by
  obtain ⟨h, holds⟩ := implements.stored
  cases reading : f.held with
  | none => rw [implements.held, reading]; rfl
  | some m =>
      obtain ⟨rest, stored⟩ := implements.oldest
      rw [reading] at stored
      rw [← stored] at holds
      rw [implements.held, reading, Option.map_some, Option.map_some, holds.first.msg]

theorem Implements.write_ret (implements : Implements host (maxunit + queuemsgSize) n s f)
    {m : Bytes} (long : m.length ≤ maxunit) :
    (ctrlQueueWriteMsg host s.queue m).1 = if f.stored.length < n - 1 then m.length else 0 := by
  obtain ⟨h, holds⟩ := implements.stored
  have same := implements.unit
  rw [holds.write_msg (by omega)]
  split_ifs with room free free
  · rfl
  · omega
  · omega
  · rfl

theorem ctrlQueue_simulates_fifo (short : maxunit ≤ 65535) (q : CtrlQueue) :
    System.Simulates (ctrlQueue host maxunit q) (Fifo.system (n - 1))
      (Implements host (maxunit + queuemsgSize) n) := by
  intro s f l t implements step
  obtain ⟨stored, reading⟩ := f
  obtain ⟨h, holds⟩ := implements.stored
  have held := implements.held
  have oldest := implements.oldest
  cases step with
  | @write q held msg positive long =>
      have unit : q.qunit = maxunit + queuemsgSize := implements.unit
      have fits : msg.length + queuemsgSize ≤ q.qunit := by omega
      rw [holds.write_msg fits]
      split_ifs with room
      · refine ⟨⟨stored ++ [msg], reading⟩, ?_, unit, ⟨h, holds.write fits (by omega) room⟩, held, ?_⟩
        · rw [decide_eq_true rfl]
          exact .accept (by dsimp only at room ⊢; omega)
        · exact oldest.trans (List.prefix_append _ _)
      · refine ⟨⟨stored, reading⟩, ?_, implements⟩
        have refused : (0 : Nat) ≠ msg.length := by omega
        rw [decide_eq_false refused]
        exact .drop (by dsimp only at room ⊢; omega)
  | @read q =>
      have idle : reading = none := by
        cases reading with
        | none => rfl
        | some m => cases held
      subst idle
      cases stored with
      | nil =>
          rw [holds.read_nil]
          exact ⟨⟨[], none⟩, .none, implements⟩
      | cons m rest =>
          rw [holds.read_cons, Option.map_some, holds.first.msg]
          exact ⟨⟨m :: rest, some m⟩, .read, implements.unit, ⟨h, holds⟩, rfl, ⟨rest, rfl⟩⟩
  | @release q pos =>
      cases reading with
      | none => cases held
      | some m =>
          obtain ⟨rest, first⟩ := oldest
          have front : stored = m :: rest := first.symm
          subst front
          have unit := (ctrlQueueReleaseMsg_qunit q pos).trans implements.unit
          exact ⟨⟨rest, none⟩, .release, unit, ⟨_, holds.release pos⟩, rfl, List.nil_prefix⟩

end

/-- The queue is a FIFO of one message less than it has units: in every run the writes, reads and
releases are those of the FIFO, the message that the consumer holds is still the one it has read, and a
write returns the size of its message exactly when there is room, and else changes nothing. -/
theorem ctrlQueue_fifo (host : Endian) (malloc : Option (Mem UInt8)) (size maxunit : Nat)
    (q : CtrlQueue) (short : maxunit ≤ 65535) (room : maxunit + queuemsgSize ≤ size)
    (init : ctrlQueueInit malloc size maxunit = some q) (s : QueueState)
    (ls : List (Fifo.Event Bytes)) (run : (ctrlQueue host maxunit q).Run ⟨q, none⟩ ls s) :
    (∃ f, (Fifo.system (q.qsize / q.qunit - 1)).Run .empty ls f ∧
      s.held.map (s.queue.msg host) = f.held ∧
      ∀ m : Bytes, 0 < m.length → m.length ≤ maxunit →
        (ctrlQueueWriteMsg host s.queue m).1 =
          (if f.stored.length < q.qsize / q.qunit - 1 then m.length else 0) ∧
        ((ctrlQueueWriteMsg host s.queue m).1 = 0 → (ctrlQueueWriteMsg host s.queue m).2 = s.queue)) ∧
    ls.filterMap Fifo.Event.delivered <+: ls.filterMap Fifo.Event.accepted := by
  have made : q.qunit = maxunit + queuemsgSize ∧ q.Holds host (q.qsize / q.qunit) 0 [] :=
    CtrlQueue.holds_init room init
  have start : Implements host (maxunit + queuemsgSize) (q.qsize / q.qunit) ⟨q, none⟩ .empty :=
    ⟨made.1, ⟨0, made.2⟩, rfl, List.nil_prefix⟩
  obtain ⟨f, ran, implements⟩ := run.simulated (ctrlQueue_simulates_fifo short q) start
  refine ⟨⟨f, ran, implements.held_msg, ?_⟩, Fifo.delivered_prefix_accepted ran⟩
  intro m positive long
  refine ⟨implements.write_ret long, ?_⟩
  unfold ctrlQueueWriteMsg
  split_ifs
  · exact fun _ => rfl
  · exact fun _ => rfl
  · intro empty
    exact absurd empty (Nat.ne_of_gt positive)

theorem ctrlQueue_fifo_two_units :
    ∃ s f, (ctrlQueue .little 2 ⟨0, 0, 12, 6, fun _ => 0⟩).Run ⟨⟨0, 0, 12, 6, fun _ => 0⟩, none⟩
        [.write [7, 9] true, .read (some [7, 9]), .write [5] false] s ∧
      (Fifo.system 1).Run .empty [.write [7, 9] true, .read (some [7, 9]), .write [5] false] f ∧
      s.held.map (s.queue.msg .little) = f.held := by
  have run : (ctrlQueue .little 2 ⟨0, 0, 12, 6, fun _ => 0⟩).Run ⟨⟨0, 0, 12, 6, fun _ => 0⟩, none⟩
      [.write [7, 9] true, .read (some [7, 9]), .write [5] false] _ :=
    .cons (.write (by decide) (by decide)) (.cons .read (.cons (.write (by decide) (by decide)) (.nil _)))
  obtain ⟨⟨f, ran, held, -⟩, -⟩ := ctrlQueue_fifo .little (some fun _ => 0) 12 2
    ⟨0, 0, 12, 6, fun _ => 0⟩ (by decide) (by decide) rfl _ _ run
  exact ⟨_, f, run, ran, held⟩

end GamingAnywhere.Control
