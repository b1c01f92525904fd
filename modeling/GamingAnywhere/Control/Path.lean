import GamingAnywhere.Control.Sender

namespace GamingAnywhere.Control
open Lib Framing Client

/-! ## Both sides -/

/-- `received` counts the bytes of the stream behind the handshake that the server has got. -/
structure ControlPath where
  sender : Sender
  received : Nat
  receiver : Receiver
  injected : List Input

inductive PathEvent
  | send (l : SenderEvent)
  | recv (n : Nat)

def ControlPath.wire (s : ControlPath) : Bytes := s.sender.client.wire

def Ends.recv (ends : Ends) (s : ControlPath) (n : Nat) : Receiver × List Input :=
  tcpAgainWith (sdlmsgInject ends.server ends.screen)
    (tcpReadmore s.receiver ((s.wire.drop s.received).take n))

inductive PathStep (ends : Ends) : ControlPath → PathEvent → ControlPath → Prop
  | send {s : ControlPath} {l : SenderEvent} {c : Sender} : SenderStep ends s.sender l c →
      PathStep ends s (.send l) { s with sender := c }
  | recv {s : ControlPath} {n : Nat} : 1 ≤ n → s.received + n ≤ s.wire.length →
      n ≤ bufSize - s.receiver.buflen →
      PathStep ends s (.recv n)
        { s with received := s.received + n, receiver := (ends.recv s n).1,
                 injected := s.injected ++ (ends.recv s n).2 }

def ControlPath.start (q : CtrlQueue) (buf : Mem UInt8) : ControlPath := ⟨.start q, 0, .start buf, []⟩

def controlPath (ends : Ends) (q : CtrlQueue) (buf : Mem UInt8) : System ControlPath PathEvent where
  Init s := s = .start q buf
  Step := PathStep ends

/-- A call of `send` takes its message whole, and a `recv` that brings the end of a message brings no part
of another. -/
def WholeStep (s : ControlPath) (l : PathEvent) (_t : ControlPath) : Prop :=
  match l with
  | .send l => l.Whole
  | .recv n => (s.received + n) / sdlmsgSize.toNat = s.received / sdlmsgSize.toNat ∨
      sdlmsgSize.toNat ∣ s.received + n

def PathEvent.sent : PathEvent → Option SenderEvent
  | send l => some l
  | recv _ => none

def PathEvent.accepted (conf : EventConf) (l : PathEvent) : Option Built := l.sent.bind (·.accepted conf)

section
variable {ends : Ends} {q : CtrlQueue} {buf : Mem UInt8} {s t : ControlPath} {l : PathEvent}
  {ls : List PathEvent}

theorem controlPath_sender (run : (controlPath ends q buf).Run s ls t) :
    (sender ends q).Run s.sender (ls.filterMap PathEvent.sent) t.sender := by
  have projected := run.projected (T := sender ends q) (R := fun s c => s.sender = c) (f := PathEvent.sent)
    ?_ ?_ rfl
  · obtain ⟨c, ran, rfl⟩ := projected
    exact ran
  · intro s c l t e same step shown
    subst same
    cases step with
    | send taken =>
        obtain rfl := Option.some.inj shown
        exact ⟨_, taken, rfl⟩
    | recv => cases shown
  · intro s c l t same step shown
    subst same
    cases step with
    | send => cases shown
    | recv => rfl

theorem whole_sent (run : ((controlPath ends q buf).restrict WholeStep).Run s ls t) :
    ∀ l ∈ ls.filterMap PathEvent.sent, l.Whole := by
  intro l member
  obtain ⟨e, taken, shown⟩ := List.mem_filterMap.mp member
  obtain ⟨s, t, whole, -⟩ := run.step_of_mem taken
  cases e with
  | send l' =>
      obtain rfl := Option.some.inj shown
      exact whole
  | recv n => cases shown

/-! ## What the server has got -/

/-- Of every list of messages that the stream will turn out to begin with, the server has injected those that
have arrived whole, and it stands behind them. -/
def Follows (ends : Ends) (s : ControlPath) : Prop :=
  s.received ≤ s.wire.length ∧
    ∀ sent : List Built, s.wire <+: (sent.map ends.bytes).flatten →
      s.receiver.InStep
          (((sent.map ends.bytes).flatten.take s.received).drop
            (s.received / sdlmsgSize.toNat * sdlmsgSize.toNat)) ∧
        s.injected = (sent.take (s.received / sdlmsgSize.toNat)).flatMap (Built.inputs ends.screen)

theorem follows_start : Follows ends (.start q buf) := by
  refine ⟨Nat.zero_le _, fun sent _ => ⟨⟨rfl, ?_⟩, ?_⟩⟩
  · simp [ControlPath.start, Receiver.start, Receiver.pending]
  · simp [ControlPath.start]

theorem ClientStep.wire_prefix {host : Endian} {maxunit : Nat} {c c' : ControlClient}
    {l : Outbox.Event UInt8} (step : ClientStep host maxunit c l c') : c.wire <+: c'.wire := by
  cases step with
  | send => exact List.prefix_append _ _
  | writeMsg => exact List.prefix_rfl
  | readMsg => exact List.prefix_rfl
  | sendFailed => exact List.prefix_rfl
  | releaseMsg => exact List.prefix_rfl

theorem SenderStep.wire_prefix {c c' : Sender} {l : SenderEvent} (step : SenderStep ends c l c') :
    c.client.wire <+: c'.client.wire := by
  cases step with
  | quiet => exact List.prefix_rfl
  | sendmsg _ _ written => exact written.wire_prefix
  | thread _ taken => exact taken.wire_prefix

theorem Follows.recv {n : Nat} (follows : Follows ends s) (within : s.received + n ≤ s.wire.length)
    (whole : (s.received + n) / sdlmsgSize.toNat = s.received / sdlmsgSize.toNat ∨
      sdlmsgSize.toNat ∣ s.received + n) :
    Follows ends { s with received := s.received + n, receiver := (ends.recv s n).1,
                          injected := s.injected ++ (ends.recv s n).2 } := by
  refine ⟨within, fun sent begins => ?_⟩
  obtain ⟨inStep, injected⟩ := follows.2 sent begins
  have chunk : (s.wire.drop s.received).take n =
      ((sent.map ends.bytes).flatten.drop s.received).take n := by
    obtain ⟨rest, joined⟩ := begins
    have enough : n ≤ (s.wire.drop s.received).length := by
      rw [List.length_drop]
      omega
    rw [← joined]
    change _ = ((s.wire ++ rest).drop s.received).take n
    rw [List.drop_append_of_le_length (Nat.le_of_add_right_le within),
      List.take_append_of_le_length enough]
  have valid : ∀ u ∈ sent.map ends.bytes, segmentFraming.IsUnit u := by
    intro u member
    obtain ⟨b, -, rfl⟩ := List.mem_map.mp member
    exact isUnit_bytes ends b
  have size : ∀ u ∈ sent.map ends.bytes, u.length = sdlmsgSize.toNat := by
    intro u member
    obtain ⟨b, -, rfl⟩ := List.mem_map.mp member
    exact length_bytes ends b
  have round := tcpReadmore_uniform (sdlmsgInject_keepsTo ends) (by decide) valid size size
    (within.trans begins.length_le) whole inStep
  rw [← chunk] at round
  refine ⟨round.1, ?_⟩
  have outs (bs : List Built) : (bs.map ends.bytes).flatMap ends.out =
      bs.flatMap (Built.inputs ends.screen) := by
    rw [List.flatMap_map]
    simp only [out_bytes]
  have now : (ends.recv s n).2 = _ := round.2
  rw [← List.map_take, ← List.map_drop, outs] at now
  have before : s.received / sdlmsgSize.toNat ≤ (s.received + n) / sdlmsgSize.toNat :=
    Nat.div_le_div_right (Nat.le_add_right _ _)
  have earlier : (sent.take ((s.received + n) / sdlmsgSize.toNat)).take (s.received / sdlmsgSize.toNat) =
      sent.take (s.received / sdlmsgSize.toNat) := by
    rw [List.take_take, Nat.min_eq_left before]
  dsimp only
  rw [injected, now, ← List.flatMap_append, ← earlier, List.take_append_drop]

theorem PathStep.follows (step : PathStep ends s l t) (whole : WholeStep s l t) (follows : Follows ends s) :
    Follows ends t := by
  cases step with
  | send taken =>
      have grows := taken.wire_prefix
      exact ⟨follows.1.trans grows.length_le, fun sent begins => follows.2 sent (grows.trans begins)⟩
  | recv _ within _ => exact follows.recv within whole

end

/-! ## The path keeps what is sent -/

structure Replayed (ends : Ends) (ls : List PathEvent) (t : ControlPath) : Prop where
  inOrder : t.injected =
    ((ls.filterMap (PathEvent.accepted ends.conf)).take (t.received / sdlmsgSize.toNat)).flatMap
      (Built.inputs ends.screen)
  all : ctrlQueueReadMsg t.sender.client.queue.queue = none → t.received = t.wire.length →
    t.injected = (ls.filterMap (PathEvent.accepted ends.conf)).flatMap (Built.inputs ends.screen)

theorem length_flatten_bytes (ends : Ends) (sent : List Built) :
    (sent.map ends.bytes).flatten.length = sent.length * sdlmsgSize.toNat := by
  induction sent with
  | nil => simp
  | cons b sent ih =>
      rw [List.map_cons, List.flatten_cons, List.length_append, length_bytes, ih, List.length_cons,
        Nat.succ_mul, Nat.add_comm]

/-- The player's events reach the server's input as they happened, whatever the order in which the threads
go on, as long as no message is cut on the way. -/
theorem controlPath_replays (ends : Ends) (malloc : Option (Mem UInt8)) (q : CtrlQueue)
    (init : ctrlQueueInit malloc 32768 sdlmsgSize.toNat = some q) (buf : Mem UInt8) (t : ControlPath)
    (ls : List PathEvent)
    (run : ((controlPath ends q buf).restrict WholeStep).Run (.start q buf) ls t) :
    Replayed ends ls t := by
  have sends := sender_sends (by decide) init (controlPath_sender run.of_restrict)
  have accepted : (ls.filterMap PathEvent.sent).filterMap (SenderEvent.accepted ends.conf) =
      ls.filterMap (PathEvent.accepted ends.conf) := List.filterMap_filterMap
  have wire : t.wire = _ := sends.wire (whole_sent run)
  have follows : Follows ends t :=
    run.invariant (fun s l t before (step : WholeStep s l t ∧ PathStep ends s l t) =>
      step.2.follows step.1 before) follows_start
  have begins : t.wire <+: ((ls.filterMap (PathEvent.accepted ends.conf)).map ends.bytes).flatten := by
    obtain ⟨rest, joined⟩ := sends.offered
    rw [accepted] at joined
    rw [wire, ← joined, List.flatten_append]
    exact List.prefix_append _ _
  have injected := (follows.2 _ begins).2
  refine ⟨injected, fun empty read => ?_⟩
  have count : t.received / sdlmsgSize.toNat = (ls.filterMap (PathEvent.accepted ends.conf)).length := by
    rw [read, wire, sends.drained empty, accepted, length_flatten_bytes, Nat.mul_div_cancel _ (by decide)]
  rw [injected, count, List.take_length]

def oneKey : List PathEvent :=
  [.send (.event (.keydown ⟨4, 0x61, 0⟩) true), .send (.thread (.queue (.read (some keyBytes)))),
    .send (.thread (.send keyBytes 28)), .recv 28]

theorem controlPath_replays_key : ∃ t, t.injected = [.key 38 true] ∧ Replayed keyEnds oneKey t := by
  have run : ((controlPath keyEnds keyQueue fun _ => 0).restrict WholeStep).Run
      (.start keyQueue fun _ => 0) oneKey _ :=
    .cons ⟨trivial, .send (.sendmsg rfl rfl keyA_written)⟩ (.cons ⟨trivial, .send (.thread rfl keyA_found)⟩
      (.cons ⟨rfl, .send (.thread rfl keyA_sent)⟩
        (.cons ⟨.inr (by decide), .recv (by decide) (by decide) (by decide)⟩ (.nil _))))
  have replayed := controlPath_replays keyEnds (some fun _ => 0) keyQueue rfl (fun _ => 0) _ oneKey run
  exact ⟨_, replayed.inOrder.trans (by decide), replayed⟩

end GamingAnywhere.Control
