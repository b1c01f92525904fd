import GamingAnywhere.Client.Events
import GamingAnywhere.Control.Injection
import GamingAnywhere.Control.Transmission

namespace GamingAnywhere.Control
open Lib Framing Client

/-! ## Player and thread -/

/-- The two hosts, the configuration of one and the screen of the other. -/
structure Ends where
  client : Endian
  server : Endian
  conf : EventConf
  screen : Screen

def Ends.bytes (ends : Ends) (b : Built) : Bytes := (b.msg ends.client).bytes ends.client

structure Sender where
  player : Player
  client : ControlClient

inductive SenderEvent
  | event (event : SdlEvent) (accepted : Bool)
  | thread (l : Outbox.Event UInt8)

def isWrite : Outbox.Event UInt8 → Bool
  | .queue (.write _ _) => true
  | _ => false

inductive SenderStep (ends : Ends) : Sender → SenderEvent → Sender → Prop
  | quiet {s : Sender} {event : SdlEvent} {player : Player} :
      s.player.running = true → s.client.phase ≠ .stopped →
      processEvent ends.conf s.player event = (player, none) →
      SenderStep ends s (.event event false) { s with player := player }
  | sendmsg {s : Sender} {event : SdlEvent} {player : Player} {b : Built} {accepted : Bool}
      {c : ControlClient} :
      s.player.running = true → processEvent ends.conf s.player event = (player, some b) →
      ClientStep ends.client sdlmsgSize.toNat s.client (.queue (.write (ends.bytes b) accepted)) c →
      SenderStep ends s (.event event accepted) ⟨player, c⟩
  | thread {s : Sender} {l : Outbox.Event UInt8} {c : ControlClient} : isWrite l = false →
      ClientStep ends.client sdlmsgSize.toNat s.client l c →
      SenderStep ends s (.thread l) { s with client := c }

def Sender.start (q : CtrlQueue) : Sender := ⟨.start, .start q⟩

def sender (ends : Ends) (q : CtrlQueue) : System Sender SenderEvent where
  Init s := s = .start q
  Step := SenderStep ends

/-! ## The messages -/

def SenderEvent.accepted (conf : EventConf) : SenderEvent → Option Built
  | event e true => eventMsg conf e
  | _ => none

def SenderEvent.offered : SenderEvent → Option Bytes
  | thread l => l.offered
  | _ => none

def SenderEvent.Whole : SenderEvent → Prop
  | thread l => l.Whole
  | _ => True

def Ends.shown (ends : Ends) : SenderEvent → Option (Outbox.Event UInt8)
  | .event e accepted => (eventMsg ends.conf e).map fun b => .queue (.write (ends.bytes b) accepted)
  | .thread l => some l

section
variable {ends : Ends} {q : CtrlQueue} {s t : Sender} {l : SenderEvent} {ls : List SenderEvent}

theorem length_bytes (ends : Ends) (b : Built) : (ends.bytes b).length = sdlmsgSize.toNat :=
  SdlMsg.length_bytes ends.client _

theorem eventMsg_of_processEvent {conf : EventConf} {p p' : Player} {e : SdlEvent} {b : Option Built}
    (processed : processEvent conf p e = (p', b)) : eventMsg conf e = b := congrArg Prod.snd processed

theorem sender_client (run : (sender ends q).Run s ls t) :
    (ctrlClientThread ends.client sdlmsgSize.toNat q).Run s.client (ls.filterMap ends.shown) t.client := by
  have projected := run.projected (T := ctrlClientThread ends.client sdlmsgSize.toNat q)
    (R := fun s c => s.client = c) (f := ends.shown) ?_ ?_ rfl
  · obtain ⟨c, ran, rfl⟩ := projected
    exact ran
  · intro s c l t e same step shown
    subst same
    cases step with
    | quiet _ _ processed =>
        rw [Ends.shown, eventMsg_of_processEvent processed] at shown
        cases shown
    | sendmsg _ processed written =>
        rw [Ends.shown, eventMsg_of_processEvent processed, Option.map_some] at shown
        obtain rfl := Option.some.inj shown
        exact ⟨_, written, rfl⟩
    | thread _ taken =>
        obtain rfl := Option.some.inj shown
        exact ⟨_, taken, rfl⟩
  · intro s c l t same step shown
    subst same
    cases step with
    | quiet => rfl
    | sendmsg _ processed _ =>
        rw [Ends.shown, eventMsg_of_processEvent processed] at shown
        cases shown
    | thread => cases shown

theorem accepted_of_shown (step : SenderStep ends s l t) :
    (ends.shown l).bind Outbox.Event.accepted = (l.accepted ends.conf).map ends.bytes := by
  cases step with
  | quiet _ _ processed =>
      rw [Ends.shown, eventMsg_of_processEvent processed]
      rfl
  | @sendmsg event player b accepted c _ processed _ =>
      rw [Ends.shown, eventMsg_of_processEvent processed]
      cases accepted with
      | true =>
          rw [SenderEvent.accepted, eventMsg_of_processEvent processed]
          rfl
      | false => rfl
  | @thread l c other _ =>
      cases l with
      | queue e =>
          cases e with
          | write msg accepted => cases other
          | read found => rfl
          | release => rfl
      | send msg taken => rfl
      | fail => rfl

theorem offered_of_shown (l : SenderEvent) : (ends.shown l).bind Outbox.Event.offered = l.offered := by
  cases l with
  | event e accepted =>
      rw [Ends.shown]
      cases eventMsg ends.conf e with
      | none => rfl
      | some b => rfl
  | thread l => rfl

theorem accepted_shown (run : (sender ends q).Run s ls t) :
    (ls.filterMap ends.shown).filterMap Outbox.Event.accepted =
      (ls.filterMap (SenderEvent.accepted ends.conf)).map ends.bytes := by
  rw [List.filterMap_filterMap, List.map_filterMap]
  apply List.filterMap_congr
  intro l member
  obtain ⟨s, t, step⟩ := run.step_of_mem member
  exact accepted_of_shown step

theorem offered_shown (ls : List SenderEvent) :
    (ls.filterMap ends.shown).filterMap Outbox.Event.offered = ls.filterMap SenderEvent.offered := by
  rw [List.filterMap_filterMap]
  exact List.filterMap_congr fun l _ => offered_of_shown l

theorem whole_shown (whole : ∀ l ∈ ls, l.Whole) : ∀ l ∈ ls.filterMap ends.shown, l.Whole := by
  intro l member
  obtain ⟨e, taken, shown⟩ := List.mem_filterMap.mp member
  cases e with
  | event e accepted =>
      obtain ⟨b, -, rfl⟩ := Option.map_eq_some_iff.mp shown
      trivial
  | thread l' =>
      obtain rfl := Option.some.inj shown
      exact whole _ taken

/-- What has been offered to the network are the messages that the queue has taken, up to those that are
still in it. -/
structure Sends (ends : Ends) (ls : List SenderEvent) (t : Sender) : Prop where
  offered : ls.filterMap SenderEvent.offered <+:
    (ls.filterMap (SenderEvent.accepted ends.conf)).map ends.bytes
  drained : ctrlQueueReadMsg t.client.queue.queue = none →
    ls.filterMap SenderEvent.offered = (ls.filterMap (SenderEvent.accepted ends.conf)).map ends.bytes
  wire : (∀ l ∈ ls, l.Whole) → t.client.wire = (ls.filterMap SenderEvent.offered).flatten

theorem sender_sends {malloc : Option (Mem UInt8)} {size : Nat}
    (room : sdlmsgSize.toNat + queuemsgSize ≤ size)
    (init : ctrlQueueInit malloc size sdlmsgSize.toNat = some q)
    (run : (sender ends q).Run (.start q) ls t) : Sends ends ls t := by
  have short : sdlmsgSize.toNat ≤ 65535 := by decide
  have made : q.qunit = sdlmsgSize.toNat + queuemsgSize ∧
      q.Holds ends.client (q.qsize / q.qunit) 0 [] := CtrlQueue.holds_init room init
  have begin : Drains ends.client (sdlmsgSize.toNat + queuemsgSize) (q.qsize / q.qunit) (.start q) .empty :=
    ⟨⟨made.1, ⟨0, made.2⟩, rfl, List.nil_prefix⟩, rfl, rfl⟩
  obtain ⟨o, ran, drains⟩ := (sender_client run).simulated (ctrlClientThread_simulates_outbox short q) begin
  have accepted := Outbox.accepted_eq ran
  rw [accepted_shown run, offered_shown] at accepted
  constructor
  · rw [accepted]
    exact List.prefix_append _ _
  · intro empty
    rw [accepted, drains.unsent_nil empty, List.append_nil]
  · intro whole
    rw [drains.wire, (Outbox.wire_eq_offered_iff ran).mpr (whole_shown whole), offered_shown]

end

/-! ## What a message is to the server -/

def Built.inputs (screen : Screen) (b : Built) : List Input := sdlmsgReplayNative screen b.args

def Ends.out (ends : Ends) (u : Bytes) : List Input :=
  (sdlmsgInject ends.server ends.screen (Mem.store (fun _ => 0) 0 u) 0 u.length).2

theorem out_bytes (ends : Ends) (b : Built) : ends.out (ends.bytes b) = b.inputs ends.screen := by
  apply sdlmsgInject_built ends.client ends.server ends.screen b
  rw [← length_bytes ends b]
  exact Mem.slice_store_self _ 0 _

theorem sdlmsgInject_keepsTo (ends : Ends) :
    KeepsTo (sdlmsgInject ends.server ends.screen) (fun u => u.length = sdlmsgSize.toNat) ends.out := by
  constructor
  · intro buf p u length received
    have same : buf.slice p sdlmsgSize.toNat = Mem.slice (Mem.store (fun _ => 0) 0 u) 0 sdlmsgSize.toNat := by
      rw [← length, received, Mem.slice_store_self]
    simp only [Ends.out, sdlmsgInject, sdlmsgReplayCallback, sdlmsgReplay, Option.getD_some,
      SdlMsg.load_congr ends.server same]
  · intro buf p u length i behind
    rw [length] at behind ⊢
    exact (sdlmsgReplayCallback_local ends.server ends.screen buf p sdlmsgSize.toNat).frame i (.inr behind)

theorem announced_bytes (ends : Ends) (b : Built) : announced (ends.bytes b) = sdlmsgSize.toNat := by
  rw [Ends.bytes, b.msg_eq, SdlMsg.bytes_network]
  rfl

theorem isUnit_bytes (ends : Ends) (b : Built) : segmentFraming.IsUnit (ends.bytes b) := by
  have length : (ends.bytes b).length = 28 := length_bytes ends b
  have announces : announced (ends.bytes b) = 28 := announced_bytes ends b
  have whole : 2 ≤ (ends.bytes b).length ∧ announced (ends.bytes b) ≠ 0 ∧
      announced (ends.bytes b) ≤ (ends.bytes b).length := by
    rw [announces, length]
    decide
  refine (if_pos whole).trans ?_
  rw [announces, ← length, List.take_length]

/-! ## A key -/

def keyEnds : Ends := ⟨.little, .big, ⟨true, true, false⟩, ⟨fun _ => some 38, none⟩⟩

def keyBytes : Bytes := keyEnds.bytes (.keyboard 1 4 0x61 0)

def keyQueue : CtrlQueue := ⟨0, 0, 32768, 32, fun _ => 0⟩

def keyWritten : CtrlQueue := (ctrlQueueWriteMsg .little keyQueue keyBytes).2

theorem keyA_written : ClientStep .little 28 ⟨⟨keyQueue, none⟩, .running, []⟩
    (.queue (.write keyBytes true)) ⟨⟨keyWritten, none⟩, .running, []⟩ :=
  .writeMsg nofun (.write (by decide) (by decide))

theorem keyA_found : ClientStep .little 28 ⟨⟨keyWritten, none⟩, .running, []⟩
    (.queue (.read (some keyBytes))) ⟨⟨keyWritten, some 0⟩, .running, []⟩ :=
  .readMsg rfl .read

theorem keyA_sent : ClientStep .little 28 ⟨⟨keyWritten, some 0⟩, .running, []⟩ (.send keyBytes 28)
    ⟨⟨keyWritten, some 0⟩, .sent, keyBytes⟩ :=
  @ClientStep.send .little 28 ⟨⟨keyWritten, some 0⟩, .running, []⟩ 0 28 rfl rfl (by decide) (by decide)

end GamingAnywhere.Control
