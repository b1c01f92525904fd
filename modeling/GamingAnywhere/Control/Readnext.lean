import GamingAnywhere.Control.Queue

namespace GamingAnywhere.Control
open Lib

/-! ## The function -/

def copyMsg (msglen : Int) (m : Bytes) : Int × Bytes :=
  if msglen < m.length then (-1, []) else (m.length, m)

/-- Where the caller is in `ctrl_server_readnext`. At `again` it looks at the queue, and waits if there is
nothing in it. -/
inductive Reading
  | idle
  | again (msglen : Int)
  | holding (msglen : Int)
  | copied (r : Int × Bytes)

structure Readnext where
  queue : QueueState
  reading : Reading

inductive ReadnextEvent
  | write (msg : Bytes) (accepted : Bool)
  | call (msglen : Int)
  | read (msglen : Int) (found : Option Bytes)
  | copy
  | ret (r : Int × Bytes)

def Reading.found (msglen : Int) : Option Bytes → Reading
  | some _ => holding msglen
  | none => again msglen

inductive ReadnextStep (host : Endian) (maxunit : Nat) : Readnext → ReadnextEvent → Readnext → Prop
  | write {s : Readnext} {q : QueueState} {msg : Bytes} {accepted : Bool} :
      QueueStep host maxunit s.queue (.write msg accepted) q →
      ReadnextStep host maxunit s (.write msg accepted) { s with queue := q }
  | call {s : Readnext} {msglen : Int} : s.reading = .idle →
      ReadnextStep host maxunit s (.call msglen) { s with reading := .again msglen }
  | read {s : Readnext} {q : QueueState} {msglen : Int} {found : Option Bytes} :
      s.reading = .again msglen → QueueStep host maxunit s.queue (.read found) q →
      ReadnextStep host maxunit s (.read msglen found) ⟨q, .found msglen found⟩
  | copy {s : Readnext} {msglen : Int} {qm : Nat} :
      s.reading = .holding msglen → s.queue.held = some qm →
      ReadnextStep host maxunit s .copy
        { s with reading := .copied (copyMsg msglen (s.queue.queue.msg host qm)) }
  | ret {s : Readnext} {q : QueueState} {r : Int × Bytes} :
      s.reading = .copied r → QueueStep host maxunit s.queue .release q →
      ReadnextStep host maxunit s (.ret r) ⟨q, .idle⟩

def ctrlServerReadnext (host : Endian) (maxunit : Nat) (q : CtrlQueue) : System Readnext ReadnextEvent where
  Init s := s = ⟨⟨q, none⟩, .idle⟩
  Step := ReadnextStep host maxunit

/-! ## Its steps on the queue -/

def ReadnextEvent.shown : ReadnextEvent → Option (Fifo.Event Bytes)
  | write msg accepted => some (.write msg accepted)
  | read _ found => some (.read found)
  | ret _ => some .release
  | _ => none

def ReadnextEvent.accepted (l : ReadnextEvent) : Option Bytes := l.shown.bind Fifo.Event.accepted

def ReadnextEvent.called : ReadnextEvent → Option Int
  | call msglen => some msglen
  | _ => none

def ReadnextEvent.returned : ReadnextEvent → Option (Int × Bytes)
  | ret r => some r
  | _ => none

def ReadnextEvent.served : ReadnextEvent → Option (Int × Bytes)
  | read msglen (some m) => some (msglen, m)
  | _ => none

section
variable {host : Endian} {maxunit n : Nat} {q : CtrlQueue} {s t : Readnext} {l : ReadnextEvent}
  {ls : List ReadnextEvent}

def Readnext.pending (host : Endian) (s : Readnext) : List (Int × Bytes) :=
  match s.reading with
  | .holding msglen => (s.queue.held.map fun qm => copyMsg msglen (s.queue.queue.msg host qm)).toList
  | .copied r => [r]
  | _ => []

def Readnext.waiting (s : Readnext) : List Int :=
  match s.reading with
  | .again msglen => [msglen]
  | _ => []

theorem ctrlServerReadnext_queue (run : (ctrlServerReadnext host maxunit q).Run s ls t) :
    (ctrlQueue host maxunit q).Run s.queue (ls.filterMap ReadnextEvent.shown) t.queue := by
  have projected := run.projected (T := ctrlQueue host maxunit q) (R := fun s c => s.queue = c)
    (f := ReadnextEvent.shown) ?_ ?_ rfl
  · obtain ⟨c, ran, rfl⟩ := projected
    exact ran
  · intro s c l t e same step shown
    subst same
    cases step with
    | write written =>
        obtain rfl := Option.some.inj shown
        exact ⟨_, written, rfl⟩
    | call => cases shown
    | read _ found =>
        obtain rfl := Option.some.inj shown
        exact ⟨_, found, rfl⟩
    | copy => cases shown
    | ret _ released =>
        obtain rfl := Option.some.inj shown
        exact ⟨_, released, rfl⟩
  · intro s c l t same step shown
    subst same
    cases step with
    | write => cases shown
    | call => rfl
    | read => cases shown
    | copy => rfl
    | ret => cases shown

def Readnext.Valid (host : Endian) (maxunit n : Nat) (s : Readnext) : Prop :=
  ∃ f, Implements host (maxunit + queuemsgSize) n s.queue f

theorem ReadnextStep.valid (short : maxunit ≤ 65535) (step : ReadnextStep host maxunit s l t)
    (valid : s.Valid host maxunit n) : t.Valid host maxunit n := by
  obtain ⟨f, implements⟩ := valid
  have simulates (q : CtrlQueue) : System.Simulates (ctrlQueue host maxunit q) (Fifo.system (n - 1))
      (Implements host (maxunit + queuemsgSize) n) := ctrlQueue_simulates_fifo short q
  cases step with
  | write written =>
      obtain ⟨g, -, after⟩ := simulates s.queue.queue _ _ _ _ implements written
      exact ⟨g, after⟩
  | call => exact ⟨f, implements⟩
  | read _ found =>
      obtain ⟨g, -, after⟩ := simulates s.queue.queue _ _ _ _ implements found
      exact ⟨g, after⟩
  | copy => exact ⟨f, implements⟩
  | ret _ released =>
      obtain ⟨g, -, after⟩ := simulates s.queue.queue _ _ _ _ implements released
      exact ⟨g, after⟩

theorem Readnext.pending_eq {f : Fifo Bytes} (implements : Implements host (maxunit + queuemsgSize) n s.queue f) :
    s.pending host =
      match s.reading with
      | .holding msglen => (f.held.map (copyMsg msglen)).toList
      | .copied r => [r]
      | _ => [] := by
  rw [← implements.held_msg, Readnext.pending]
  cases s.reading with
  | holding msglen => simp [Option.map_map, Function.comp_def]
  | _ => rfl

theorem ReadnextStep.pending (short : maxunit ≤ 65535) (step : ReadnextStep host maxunit s l t)
    (valid : s.Valid host maxunit n) :
    s.pending host ++ (l.served.map fun p => copyMsg p.1 p.2).toList = l.returned.toList ++ t.pending host := by
  obtain ⟨f, implements⟩ := valid
  have simulates (q : CtrlQueue) : System.Simulates (ctrlQueue host maxunit q) (Fifo.system (n - 1))
      (Implements host (maxunit + queuemsgSize) n) := ctrlQueue_simulates_fifo short q
  rw [s.pending_eq implements]
  cases step with
  | write written =>
      obtain ⟨g, taken, after⟩ := simulates s.queue.queue _ _ _ _ implements written
      rw [Readnext.pending_eq (s := { s with queue := _ }) after]
      cases taken with
      | accept => simp [ReadnextEvent.served, ReadnextEvent.returned]
      | drop => simp [ReadnextEvent.served, ReadnextEvent.returned]
  | call idle => simp [idle, Readnext.pending, ReadnextEvent.served, ReadnextEvent.returned]
  | @read q msglen found again looked =>
      obtain ⟨g, taken, after⟩ := simulates s.queue.queue _ _ _ _ implements looked
      rw [Readnext.pending_eq (s := ⟨q, _⟩) after, again]
      cases taken with
      | none => rfl
      | read => rfl
  | copy holding held =>
      rw [holding, ← implements.held_msg, held]
      rfl
  | ret copied released =>
      rw [copied]
      rfl

theorem ReadnextStep.waiting (step : ReadnextStep host maxunit s l t) :
    s.waiting ++ l.called.toList = (l.served.map Prod.fst).toList ++ t.waiting := by
  cases step with
  | write => simp [ReadnextEvent.called, ReadnextEvent.served, Readnext.waiting]
  | call idle => simp [ReadnextEvent.called, ReadnextEvent.served, Readnext.waiting, idle]
  | @read q msglen found again =>
      cases found with
      | none => simp [ReadnextEvent.called, ReadnextEvent.served, Readnext.waiting, again, Reading.found]
      | some m => simp [ReadnextEvent.called, ReadnextEvent.served, Readnext.waiting, again, Reading.found]
  | copy holding => simp [ReadnextEvent.called, ReadnextEvent.served, Readnext.waiting, holding]
  | ret copied => simp [ReadnextEvent.called, ReadnextEvent.served, Readnext.waiting, copied]

theorem delivered_shown (l : ReadnextEvent) :
    l.shown.bind Fifo.Event.delivered = l.served.map Prod.snd := by
  cases l with
  | read msglen found =>
      cases found with
      | none => rfl
      | some m => rfl
  | _ => rfl

end

/-! ## Calls and messages -/

/-- The k-th call returns the k-th message that the queue took, whether it fits or not. -/
structure Answers (ls : List ReadnextEvent) (s : Readnext) : Prop where
  inOrder : ls.filterMap ReadnextEvent.returned <+:
    List.zipWith copyMsg (ls.filterMap ReadnextEvent.called) (ls.filterMap ReadnextEvent.accepted)
  answered : s.reading = .idle → ls.filterMap ReadnextEvent.returned =
    List.zipWith copyMsg (ls.filterMap ReadnextEvent.called) (ls.filterMap ReadnextEvent.accepted)

theorem ctrlServerReadnext_answers (host : Endian) (malloc : Option (Mem UInt8)) (size maxunit : Nat)
    (q : CtrlQueue) (short : maxunit ≤ 65535) (room : maxunit + queuemsgSize ≤ size)
    (init : ctrlQueueInit malloc size maxunit = some q) (s : Readnext) (ls : List ReadnextEvent)
    (run : (ctrlServerReadnext host maxunit q).Run ⟨⟨q, none⟩, .idle⟩ ls s) : Answers ls s := by
  have made : q.qunit = maxunit + queuemsgSize ∧ q.Holds host (q.qsize / q.qunit) 0 [] :=
    CtrlQueue.holds_init room init
  have start : Implements host (maxunit + queuemsgSize) (q.qsize / q.qunit) ⟨q, none⟩ .empty :=
    ⟨made.1, ⟨0, made.2⟩, rfl, List.nil_prefix⟩
  obtain ⟨f, ran, -⟩ := (ctrlServerReadnext_queue run).simulated (ctrlQueue_simulates_fifo short q) start
  have accepted := Fifo.delivered_prefix_accepted ran
  rw [List.filterMap_filterMap, List.filterMap_filterMap] at accepted
  simp only [delivered_shown] at accepted
  rw [← List.map_filterMap] at accepted
  have returned := run.balance_option (I := Readnext.Valid host maxunit (q.qsize / q.qunit))
    (Readnext.pending host) (fun _ _ _ valid step => ReadnextStep.valid short step valid)
    (fun _ _ _ valid step => ReadnextStep.pending short step valid) ⟨_, start⟩
  have called := run.balance_option (I := fun _ => True) Readnext.waiting (fun _ _ _ _ _ => trivial)
    (fun _ _ _ _ step => ReadnextStep.waiting step) trivial
  rw [← List.map_filterMap] at returned called
  change ls.filterMap ReadnextEvent.called = _ at called
  change List.map _ (ls.filterMap ReadnextEvent.served) = _ at returned
  obtain ⟨rest, accepted⟩ := accepted
  change _ = ls.filterMap ReadnextEvent.accepted at accepted
  have zipped : List.zipWith copyMsg (ls.filterMap ReadnextEvent.called)
      (ls.filterMap ReadnextEvent.accepted) =
        ls.filterMap ReadnextEvent.returned ++ s.pending host ++ List.zipWith copyMsg s.waiting rest := by
    rw [← accepted, called, List.zipWith_append (by rw [List.length_map, List.length_map]), ← returned,
      List.zipWith_map, List.zipWith_self]
  constructor
  · rw [zipped, List.append_assoc]
    exact List.prefix_append _ _
  · intro idle
    have nothing : s.pending host = [] := by rw [Readnext.pending, idle]
    have nobody : s.waiting = [] := by rw [Readnext.waiting, idle]
    rw [zipped, nothing, nobody, List.append_nil]
    simp

theorem ctrlServerReadnext_answers_long :
    ∃ s, Answers [.write [0, 4, 7, 9] true, .call 3, .read 3 (some [0, 4, 7, 9]), .write [0, 2] true, .copy,
      .ret (-1, []), .call 3] s := by
  let q : CtrlQueue := ⟨0, 0, 24, 8, fun _ => 0⟩
  let first : CtrlQueue := (ctrlQueueWriteMsg .little q [0, 4, 7, 9]).2
  let second : CtrlQueue := (ctrlQueueWriteMsg .little first [0, 2]).2
  have copy : ReadnextStep .little 4 ⟨⟨second, some 0⟩, .holding 3⟩ .copy
      ⟨⟨second, some 0⟩, .copied (-1, [])⟩ :=
    @ReadnextStep.copy .little 4 ⟨⟨second, some 0⟩, .holding 3⟩ 3 0 rfl rfl
  have run : (ctrlServerReadnext .little 4 q).Run ⟨⟨q, none⟩, .idle⟩
      [.write [0, 4, 7, 9] true, .call 3, .read 3 (some [0, 4, 7, 9]), .write [0, 2] true, .copy,
        .ret (-1, []), .call 3] _ :=
    .cons (.write (.write (by decide) (by decide))) (.cons (.call rfl) (.cons (.read rfl .read)
      (.cons (.write (.write (by decide) (by decide))) (.cons copy (.cons (.ret rfl .release)
        (.cons (.call rfl) (.nil _)))))))
  exact ⟨_, ctrlServerReadnext_answers .little (some fun _ => 0) 24 4 q (by decide) (by decide) rfl _ _ run⟩

end GamingAnywhere.Control
