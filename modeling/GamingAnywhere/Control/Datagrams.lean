import GamingAnywhere.Control.Sender
import GamingAnywhere.Lib.Accounts

namespace GamingAnywhere.Control
open Lib Framing Client

/-! ## The UDP branch -/

/-- `recvfrom` cuts a datagram that does not fit. -/
def arrived (d : Bytes) : Bytes := d.take bufSize

def udpRecv {ι : Type*} (replay : Mem UInt8 → Nat → Nat → Mem UInt8 × List ι) (buf : Mem UInt8)
    (d : Bytes) : Mem UInt8 × List ι :=
  let buf := buf.store 0 (arrived d)
  let buflen := (arrived d).length
  if buflen < 2 then (buf, [])
  else
    let msglen := be16 (buf 0) (buf 1)
    if msglen = 0 then (buf, [])
    else if buflen ≠ msglen then (buf, [])
    else replay buf 0 msglen

structure DatagramPath where
  sender : Sender
  network : List Bytes
  buf : Mem UInt8
  injected : List Input

/-- `recv i d` is the datagram `d` of the client, which overtakes `i` others. -/
inductive DatagramEvent
  | send (l : SenderEvent)
  | lose (d : Bytes)
  | duplicate (d : Bytes)
  | recv (i : Nat) (d : Bytes)
  | foreign (d : Bytes)
  | recvFailed

def Ends.udpRecv (ends : Ends) (buf : Mem UInt8) (d : Bytes) : Mem UInt8 × List Input :=
  Control.udpRecv (sdlmsgInject ends.server ends.screen) buf d

/-- `sendto` takes a message whole or fails. -/
inductive DatagramStep (ends : Ends) : DatagramPath → DatagramEvent → DatagramPath → Prop
  | send {s : DatagramPath} {l : SenderEvent} {c : Sender} : l.Whole → SenderStep ends s.sender l c →
      DatagramStep ends s (.send l) { s with sender := c, network := s.network ++ l.offered.toList }
  | lose {s : DatagramPath} {before after : List Bytes} {d : Bytes} : s.network = before ++ d :: after →
      DatagramStep ends s (.lose d) { s with network := before ++ after }
  | duplicate {s : DatagramPath} {d : Bytes} : d ∈ s.network →
      DatagramStep ends s (.duplicate d) { s with network := s.network ++ [d] }
  | recv {s : DatagramPath} {before after : List Bytes} {d : Bytes} : s.network = before ++ d :: after →
      DatagramStep ends s (.recv before.length d)
        { s with network := before ++ after, buf := (ends.udpRecv s.buf d).1,
                 injected := s.injected ++ (ends.udpRecv s.buf d).2 }
  | foreign {s : DatagramPath} {d : Bytes} :
      DatagramStep ends s (.foreign d)
        { s with buf := (ends.udpRecv s.buf d).1, injected := s.injected ++ (ends.udpRecv s.buf d).2 }
  | recvFailed {s : DatagramPath} : DatagramStep ends s .recvFailed s

def DatagramPath.start (q : CtrlQueue) (buf : Mem UInt8) : DatagramPath := ⟨.start q, [], buf, []⟩

def datagramPath (ends : Ends) (q : CtrlQueue) (buf : Mem UInt8) : System DatagramPath DatagramEvent where
  Init s := s = .start q buf
  Step := DatagramStep ends

/-! ## One datagram -/

def IsMessage (d : Bytes) : Prop := 2 ≤ d.length ∧ announced d = d.length

instance (d : Bytes) : Decidable (IsMessage d) := inferInstanceAs (Decidable (_ ∧ _))

def Ends.effect (ends : Ends) (d : Bytes) : List Input :=
  if IsMessage (arrived d) then ends.out (arrived d) else []

theorem announced_store (buf : Mem UInt8) {d : Bytes} (two : 2 ≤ d.length) :
    be16 (buf.store 0 d 0) (buf.store 0 d 1) = announced d := by
  obtain ⟨hi, lo, rest, rfl⟩ : ∃ hi lo rest, d = hi :: lo :: rest := by
    rcases d with _ | ⟨hi, _ | ⟨lo, rest⟩⟩
    · simp at two
    · simp at two
    · exact ⟨hi, lo, rest, rfl⟩
  rfl

theorem udpRecv_eq {ι : Type*} (replay : Mem UInt8 → Nat → Nat → Mem UInt8 × List ι) (buf : Mem UInt8)
    (d : Bytes) :
    udpRecv replay buf d =
      if IsMessage (arrived d) then replay (buf.store 0 (arrived d)) 0 (arrived d).length
      else (buf.store 0 (arrived d), []) := by
  unfold udpRecv
  dsimp only
  by_cases two : 2 ≤ (arrived d).length
  · rw [announced_store buf two, if_neg (Nat.not_lt.mpr two)]
    by_cases same : announced (arrived d) = (arrived d).length
    · have message : IsMessage (arrived d) := ⟨two, same⟩
      rw [if_pos message, same, if_neg (by omega), if_neg (not_not.mpr rfl)]
    · have other : ¬ IsMessage (arrived d) := fun message => same message.2
      rw [if_neg other, if_pos (Ne.symm same), ite_self]
  · have other : ¬ IsMessage (arrived d) := fun message => two message.1
    rw [if_neg other, if_pos (Nat.lt_of_not_le two)]

theorem udpRecv_effect (ends : Ends) (buf : Mem UInt8) (d : Bytes)
    (own : IsMessage (arrived d) → (arrived d).length = sdlmsgSize.toNat) :
    (ends.udpRecv buf d).2 = ends.effect d := by
  rw [Ends.udpRecv, udpRecv_eq, Ends.effect]
  split_ifs with message
  · exact (sdlmsgInject_keepsTo ends).does _ 0 _ (own message) (buf.slice_store_self 0 _)
  · rfl

theorem arrived_bytes (ends : Ends) (b : Built) : arrived (ends.bytes b) = ends.bytes b := by
  apply List.take_of_length_le
  rw [length_bytes]
  decide

theorem isMessage_bytes (ends : Ends) (b : Built) : IsMessage (ends.bytes b) := by
  rw [IsMessage, announced_bytes, length_bytes]
  decide

theorem effect_bytes (ends : Ends) (b : Built) : ends.effect (ends.bytes b) = b.inputs ends.screen := by
  rw [Ends.effect, arrived_bytes, if_pos (isMessage_bytes ends b), out_bytes]

/-! ## What the network does -/

def DatagramEvent.sent : DatagramEvent → Option SenderEvent
  | send l => some l
  | _ => none

def DatagramEvent.accepted (conf : EventConf) (l : DatagramEvent) : Option Built := l.sent.bind (·.accepted conf)

def DatagramEvent.offered (l : DatagramEvent) : Option Bytes := l.sent.bind SenderEvent.offered

def DatagramEvent.received : DatagramEvent → Option Bytes
  | recv _ d => some d
  | _ => none

def DatagramEvent.got : DatagramEvent → Option Bytes
  | recv _ d => some d
  | foreign d => some d
  | _ => none

def DatagramEvent.entered : DatagramEvent → Option Bytes
  | send l => l.offered
  | duplicate d => some d
  | _ => none

def DatagramEvent.left : DatagramEvent → Option Bytes
  | recv _ d => some d
  | lose d => some d
  | _ => none

/-- Nobody else sends what has another length than a `struct sdlmsg` and announces it. -/
def DatagramEvent.Tame : DatagramEvent → Prop
  | foreign d => IsMessage (arrived d) → (arrived d).length = sdlmsgSize.toNat
  | _ => True

def DatagramEvent.InOrder : DatagramEvent → Prop
  | recv i _ => i = 0
  | duplicate _ => False
  | foreign _ => False
  | _ => True

section
variable {ends : Ends} {q : CtrlQueue} {buf : Mem UInt8} {s t : DatagramPath} {l : DatagramEvent}
  {ls : List DatagramEvent}

theorem datagramPath_sender (run : (datagramPath ends q buf).Run s ls t) :
    (sender ends q).Run s.sender (ls.filterMap DatagramEvent.sent) t.sender := by
  have projected := run.projected (T := sender ends q) (R := fun s c => s.sender = c)
    (f := DatagramEvent.sent) ?_ ?_ rfl
  · obtain ⟨c, ran, rfl⟩ := projected
    exact ran
  · intro s c l t e same step shown
    subst same
    cases step with
    | send _ taken =>
        obtain rfl := Option.some.inj shown
        exact ⟨_, taken, rfl⟩
    | lose => cases shown
    | duplicate => cases shown
    | recv => cases shown
    | foreign => cases shown
    | recvFailed => cases shown
  · intro s c l t same step shown
    subst same
    cases step with
    | send => cases shown
    | lose => rfl
    | duplicate => rfl
    | recv => rfl
    | foreign => rfl
    | recvFailed => rfl

theorem DatagramStep.conserved (step : DatagramStep ends s l t) :
    (l.left.toList ++ t.network).Perm (s.network ++ l.entered.toList) := by
  cases step with
  | send => exact List.Perm.refl _
  | lose here =>
      rw [here]
      simpa [DatagramEvent.left, DatagramEvent.entered] using List.perm_middle.symm
  | duplicate => exact List.Perm.refl _
  | recv here =>
      rw [here]
      simpa [DatagramEvent.left, DatagramEvent.entered] using List.perm_middle.symm
  | foreign => simp [DatagramEvent.left, DatagramEvent.entered]
  | recvFailed => simp [DatagramEvent.left, DatagramEvent.entered]

theorem datagramPath_conserved (run : (datagramPath ends q buf).Run s ls t) :
    (ls.filterMap DatagramEvent.left ++ t.network).Perm
      (s.network ++ ls.filterMap DatagramEvent.entered) :=
  run.balance_rel (I := fun _ => True) System.accounts_perm DatagramPath.network
    (fun _ _ _ _ _ => trivial) (fun _ _ _ _ step => DatagramStep.conserved step) trivial

theorem DatagramStep.genuine (step : DatagramStep ends s l t) :
    ∀ d ∈ l.received.toList ++ t.network, d ∈ s.network ++ l.offered.toList := by
  cases step with
  | send => exact fun d member => member
  | lose here =>
      rw [here]
      simpa [DatagramEvent.received, DatagramEvent.offered, DatagramEvent.sent] using
        fun d member => Or.imp_right Or.inr member
  | duplicate under =>
      simpa [DatagramEvent.received, DatagramEvent.offered, DatagramEvent.sent] using
        fun d member => member.elim id fun same => same ▸ under
  | recv here =>
      rw [here]
      simpa [DatagramEvent.received, DatagramEvent.offered, DatagramEvent.sent] using
        fun d member => Or.imp_right Or.inr member
  | foreign => simp [DatagramEvent.received, DatagramEvent.offered, DatagramEvent.sent]
  | recvFailed => simp [DatagramEvent.received, DatagramEvent.offered, DatagramEvent.sent]

theorem datagramPath_genuine (run : (datagramPath ends q buf).Run s ls t) :
    ∀ d ∈ ls.filterMap DatagramEvent.received ++ t.network,
      d ∈ s.network ++ ls.filterMap DatagramEvent.offered :=
  run.balance_rel (I := fun _ => True) System.accounts_subset DatagramPath.network
    (fun _ _ _ _ _ => trivial) (fun _ _ _ _ step => DatagramStep.genuine step) trivial

theorem DatagramStep.ordered (inOrder : l.InOrder) (step : DatagramStep ends s l t) :
    (l.received.toList ++ t.network).Sublist (s.network ++ l.offered.toList) := by
  cases step with
  | send => exact List.Sublist.refl _
  | @lose before after d here =>
      rw [here]
      simp [DatagramEvent.received, DatagramEvent.offered, DatagramEvent.sent]
  | duplicate => exact inOrder.elim
  | @recv before after d here =>
      obtain rfl : before = [] := List.length_eq_zero_iff.mp inOrder
      rw [here]
      simp [DatagramEvent.received, DatagramEvent.offered, DatagramEvent.sent]
  | foreign => exact inOrder.elim
  | recvFailed => simp [DatagramEvent.received, DatagramEvent.offered, DatagramEvent.sent]

theorem datagramPath_ordered (run : (datagramPath ends q buf).Run s ls t) (inOrder : ∀ l ∈ ls, l.InOrder) :
    (ls.filterMap DatagramEvent.received ++ t.network).Sublist
      (s.network ++ ls.filterMap DatagramEvent.offered) := by
  have restricted := (run.restrict_iff_forall (I := fun _ => True) (G := fun _ l _ => l.InOrder)
    (fun _ _ _ _ _ => trivial) (fun _ _ _ _ _ => Iff.rfl) trivial).mpr inOrder
  exact restricted.balance_rel (I := fun _ => True) System.accounts_sublist DatagramPath.network
    (fun _ _ _ _ _ => trivial) (fun s l t _ (step : l.InOrder ∧ DatagramStep ends s l t) => step.2.ordered step.1)
    trivial

theorem datagramPath_injected (run : (datagramPath ends q buf).Run s ls t)
    (own : ∀ d ∈ ls.filterMap DatagramEvent.got,
      IsMessage (arrived d) → (arrived d).length = sdlmsgSize.toNat) :
    t.injected = s.injected ++ (ls.filterMap DatagramEvent.got).flatMap ends.effect := by
  induction run with
  | nil => simp
  | @cons s t u l ls taken _ ih =>
      cases taken with
      | send => exact ih own
      | lose => exact ih own
      | duplicate => exact ih own
      | @recv before after d here =>
          obtain ⟨mine, others⟩ := List.forall_mem_cons.mp own
          rw [ih others, udpRecv_effect ends s.buf d mine, List.append_assoc]
          rfl
      | @foreign d =>
          obtain ⟨mine, others⟩ := List.forall_mem_cons.mp own
          rw [ih others, udpRecv_effect ends s.buf d mine, List.append_assoc]
          rfl
      | recvFailed => exact ih own

end

/-! ## Whole messages or none -/

/-- The messages that arrive are the client's, each as often as it is under way, and each is injected whole.
As long as nobody else sends and the network only loses, they are those that the queue took, in their order. -/
structure Delivers (ends : Ends) (ls : List DatagramEvent) (t : DatagramPath) : Prop where
  conserved : (ls.filterMap DatagramEvent.left ++ t.network).Perm (ls.filterMap DatagramEvent.entered)
  genuine : ∀ d ∈ ls.filterMap DatagramEvent.received,
    ∃ b ∈ ls.filterMap (DatagramEvent.accepted ends.conf), d = ends.bytes b ∧
      ends.effect d = b.inputs ends.screen
  injected : t.injected = (ls.filterMap DatagramEvent.got).flatMap ends.effect
  ordered : (∀ l ∈ ls, l.InOrder) →
    ∃ bs : List Built, bs.Sublist (ls.filterMap (DatagramEvent.accepted ends.conf)) ∧
      t.injected = bs.flatMap (Built.inputs ends.screen)

theorem received_eq_got {ls : List DatagramEvent} (inOrder : ∀ l ∈ ls, l.InOrder) :
    ls.filterMap DatagramEvent.got = ls.filterMap DatagramEvent.received := by
  apply List.filterMap_congr
  intro l member
  cases l with
  | foreign d => exact (inOrder _ member).elim
  | _ => rfl

theorem datagramPath_delivers (ends : Ends) (malloc : Option (Mem UInt8)) (q : CtrlQueue)
    (init : ctrlQueueInit malloc 32768 sdlmsgSize.toNat = some q) (buf : Mem UInt8) (t : DatagramPath)
    (ls : List DatagramEvent) (tame : ∀ l ∈ ls, l.Tame)
    (run : (datagramPath ends q buf).Run (.start q buf) ls t) : Delivers ends ls t := by
  have sends := sender_sends (by decide) init (datagramPath_sender run)
  have accepted : (ls.filterMap DatagramEvent.sent).filterMap (SenderEvent.accepted ends.conf) =
      ls.filterMap (DatagramEvent.accepted ends.conf) := List.filterMap_filterMap
  have offered : (ls.filterMap DatagramEvent.sent).filterMap SenderEvent.offered =
      ls.filterMap DatagramEvent.offered := List.filterMap_filterMap
  have prefix' := sends.offered
  rw [accepted, offered] at prefix'
  have conserved : _ := datagramPath_conserved run
  have genuine : ∀ d ∈ ls.filterMap DatagramEvent.received,
      ∃ b ∈ ls.filterMap (DatagramEvent.accepted ends.conf), d = ends.bytes b ∧
        ends.effect d = b.inputs ends.screen := by
    intro d member
    have from' := datagramPath_genuine run d (List.mem_append_left t.network member)
    obtain ⟨b, taken, rfl⟩ := List.mem_map.mp (prefix'.subset from')
    exact ⟨b, taken, rfl, effect_bytes ends b⟩
  have own : ∀ d ∈ ls.filterMap DatagramEvent.got,
      IsMessage (arrived d) → (arrived d).length = sdlmsgSize.toNat := by
    intro d member message
    obtain ⟨l, taken, shown⟩ := List.mem_filterMap.mp member
    cases l with
    | recv i d' =>
        obtain rfl := Option.some.inj shown
        obtain ⟨b, -, rfl, -⟩ := genuine d' (List.mem_filterMap.mpr ⟨_, taken, rfl⟩)
        rw [arrived_bytes, length_bytes]
    | foreign d' =>
        obtain rfl := Option.some.inj shown
        exact tame _ taken message
    | _ => cases shown
  have injected : t.injected = _ := datagramPath_injected run own
  refine ⟨conserved, genuine, injected, fun inOrder => ?_⟩
  have sublist := (List.sublist_append_left _ t.network).trans (datagramPath_ordered run inOrder)
  obtain ⟨bs, part, same⟩ := List.sublist_map_iff.mp (sublist.trans prefix'.sublist)
  refine ⟨bs, part, ?_⟩
  rw [injected, received_eq_got inOrder, same, List.flatMap_map]
  simp only [effect_bytes]
  rfl

def garbageKey : List DatagramEvent :=
  [.send (.event (.keydown ⟨4, 0x61, 0⟩) true), .foreign [9], .send (.thread (.queue (.read (some keyBytes)))),
    .send (.thread (.send keyBytes 28)), .foreign [0, 3, 1, 1], .recv 0 keyBytes]

theorem datagramPath_delivers_key : ∃ t, Delivers keyEnds garbageKey t := by
  have run : (datagramPath keyEnds keyQueue fun _ => 0).Run (.start keyQueue fun _ => 0) garbageKey _ :=
    .cons (.send trivial (.sendmsg rfl rfl keyA_written)) (.cons .foreign
      (.cons (.send trivial (.thread rfl keyA_found)) (.cons (.send rfl (.thread rfl keyA_sent))
        (.cons .foreign (.cons (@DatagramStep.recv keyEnds _ [] [] keyBytes rfl) (.nil _))))))
  have tame : ∀ l ∈ garbageKey, l.Tame := by
    simp only [garbageKey, List.forall_mem_cons]
    exact ⟨trivial, by unfold DatagramEvent.Tame; decide, trivial, trivial,
      by unfold DatagramEvent.Tame; decide, trivial, nofun⟩
  exact ⟨_, datagramPath_delivers keyEnds (some fun _ => 0) keyQueue rfl (fun _ => 0) _ garbageKey tame run⟩

end GamingAnywhere.Control
