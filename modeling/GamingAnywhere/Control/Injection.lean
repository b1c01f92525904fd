import GamingAnywhere.Control.Replay

namespace GamingAnywhere.Control
open Lib Framing

section
variable {ι : Type*} {replay : Mem UInt8 → Nat → Nat → Mem UInt8 × List ι}

def tcpAgainWith (replay : Mem UInt8 → Nat → Nat → Mem UInt8 × List ι) (r : Receiver) :
    Receiver × List ι :=
  if r.buflen < 2 then (r, [])
  else if r.msglen = 0 then ({ r with bufhead := 0 }, [])
  else if r.buflen < r.msglen then ({ r with buf := r.buf.bcopy r.bufhead 0 r.buflen }, [])
  else
    let done := replay r.buf r.bufhead r.msglen
    if r.msglen < r.buflen then
      let rest := tcpAgainWith replay
        { buf := done.1, bufhead := r.bufhead + r.msglen, buflen := r.buflen - r.msglen }
      (rest.1, done.2 ++ rest.2)
    else ({ buf := done.1, bufhead := 0, buflen := 0 }, done.2)
termination_by r.buflen
decreasing_by omega

/-- On the messages in `Own` the function does `out`, and leaves alone what lies behind them. -/
structure KeepsTo (replay : Mem UInt8 → Nat → Nat → Mem UInt8 × List ι) (Own : Bytes → Prop)
    (out : Bytes → List ι) : Prop where
  does : ∀ buf p u, Own u → Mem.slice buf p u.length = u → (replay buf p u.length).2 = out u
  behind : ∀ buf p u, Own u → ∀ i, p + u.length ≤ i → (replay buf p u.length).1 i = buf i

variable {Own : Bytes → Prop} {out : Bytes → List ι}

theorem tcpAgainWith_of_none {r : Receiver} (none : segmentFraming.next r.pending = none) :
    tcpAgainWith replay r = ((tcpAgain r).1, []) := by
  rw [tcpAgainWith, tcpAgain]
  split_ifs with short zero cut more
  · rfl
  · rfl
  · rfl
  · obtain ⟨first, -⟩ := split_segment r (by omega) zero (by omega)
    rw [split_of_none none] at first
    cases first
  · obtain ⟨first, -⟩ := split_segment r (by omega) zero (by omega)
    rw [split_of_none none] at first
    cases first

theorem tcpAgainWith_round (keeps : KeepsTo replay Own out) (r : Receiver)
    (own : ∀ u ∈ (segmentFraming.split r.pending).1, Own u) :
    (tcpAgainWith replay r).2 = (segmentFraming.split r.pending).1.flatMap out ∧
      ((segmentFraming.split r.pending).1 ≠ [] → (segmentFraming.split r.pending).2 = [] →
        (tcpAgainWith replay r).1.bufhead = 0 ∧ (tcpAgainWith replay r).1.buflen = 0) := by
  induction r using tcpAgainWith.induct replay with
  | case1 r short =>
      rw [tcpAgainWith, if_pos short, split_of_none (segment_eq_none (.inl short))]
      exact ⟨rfl, fun some' => absurd rfl some'⟩
  | case2 r two zero =>
      rw [tcpAgainWith, if_neg two, if_pos zero, split_of_none (segment_eq_none (.inr (.inl zero)))]
      exact ⟨rfl, fun some' => absurd rfl some'⟩
  | case3 r two nonzero cut =>
      rw [tcpAgainWith, if_neg two, if_neg nonzero, if_pos cut,
        split_of_none (segment_eq_none (.inr (.inr cut)))]
      exact ⟨rfl, fun some' => absurd rfl some'⟩
  | case4 r two nonzero whole done more ih =>
      obtain ⟨first, rest⟩ := split_segment r (by omega) nonzero (by omega)
      have length : (r.buf.slice r.bufhead r.msglen).length = r.msglen := Mem.length_slice _ _ _
      have mine : Own (r.buf.slice r.bufhead r.msglen) := own _ (by rw [first]; exact List.mem_cons_self)
      have does := keeps.does r.buf r.bufhead _ mine (by rw [length])
      have kept := keeps.behind r.buf r.bufhead _ mine
      rw [length] at does kept
      have behind : (Receiver.mk done.1 (r.bufhead + r.msglen) (r.buflen - r.msglen)).pending =
          r.pending.drop r.msglen := by
        rw [rest]
        exact Mem.slice_congr fun i above _ => kept i above
      rw [behind] at ih
      obtain ⟨injected, emptied⟩ := ih fun u member => own u (by
        rw [first]
        exact List.mem_cons_of_mem _ member)
      rw [tcpAgainWith, if_neg two, if_neg nonzero, if_neg whole, if_pos more, first]
      refine ⟨congr_arg₂ _ does injected, fun _ none => ?_⟩
      by_cases nothing : (segmentFraming.split (r.pending.drop r.msglen)).1 = []
      · -- more than the first message was pending
        have joined := split_flatten (F := segmentFraming) (r.pending.drop r.msglen)
        have lengths := congrArg List.length joined
        dsimp only at none
        rw [nothing, none, List.length_drop, r.length_pending, List.flatten_nil, List.append_nil,
          List.length_nil] at lengths
        omega
      · exact emptied nothing none
  | case5 r two nonzero whole last =>
      obtain ⟨first, rest⟩ := split_segment r (by omega) nonzero (by omega)
      have length : (r.buf.slice r.bufhead r.msglen).length = r.msglen := Mem.length_slice _ _ _
      have mine : Own (r.buf.slice r.bufhead r.msglen) := own _ (by rw [first]; exact List.mem_cons_self)
      have does := keeps.does r.buf r.bufhead _ mine (by rw [length])
      rw [length] at does
      have nothing : r.buflen - r.msglen = 0 := by omega
      rw [rest, nothing, Mem.slice_zero, split_of_none next_nil] at first
      rw [tcpAgainWith, if_neg two, if_neg nonzero, if_neg whole, if_neg last, first]
      refine ⟨?_, fun _ _ => ⟨rfl, rfl⟩⟩
      rw [List.flatMap_singleton]
      exact does

theorem tcpAgainWith_inStep (keeps : KeepsTo replay Own out) (r : Receiver) (front : r.bufhead = 0)
    (own : ∀ u ∈ (segmentFraming.split r.pending).1, Own u)
    (whole : (segmentFraming.split r.pending).1 = [] ∨ (segmentFraming.split r.pending).2 = []) :
    (tcpAgainWith replay r).1.InStep (segmentFraming.split r.pending).2 := by
  by_cases nothing : (segmentFraming.split r.pending).1 = []
  · have none : segmentFraming.next r.pending = none := by
      cases found : segmentFraming.next r.pending with
      | none => rfl
      | some u =>
          rw [split_of_some found] at nothing
          cases nothing
    rw [tcpAgainWith_of_none none]
    exact tcpAgain_inStep r front whole
  · have none := whole.resolve_left nothing
    obtain ⟨head, length⟩ := (tcpAgainWith_round keeps r own).2 nothing none
    refine ⟨head, ?_⟩
    rw [Receiver.pending, length, none]
    rfl

theorem tcpReadmore_uniform (keeps : KeepsTo replay Own out) {units : List Bytes} {k a n : Nat}
    (positive : 0 < k) (valid : ∀ u ∈ units, segmentFraming.IsUnit u) (size : ∀ u ∈ units, u.length = k)
    (own : ∀ u ∈ units, Own u) (within : a + n ≤ units.flatten.length)
    (whole : (a + n) / k = a / k ∨ k ∣ a + n) {r : Receiver}
    (inStep : r.InStep ((units.flatten.take a).drop (a / k * k))) :
    let now := tcpAgainWith replay (tcpReadmore r ((units.flatten.drop a).take n))
    now.1.InStep ((units.flatten.take (a + n)).drop ((a + n) / k * k)) ∧
      now.2 = ((units.take ((a + n) / k)).drop (a / k)).flatMap out := by
  obtain ⟨front, pending⟩ := inStep
  have joined : (tcpReadmore r ((units.flatten.drop a).take n)).pending = _ := pending_tcpReadmore r _ front
  have cut := split_append_uniform positive valid size within
  rw [← pending, ← joined] at cut
  have mine : ∀ u ∈ (segmentFraming.split
      (tcpReadmore r ((units.flatten.drop a).take n)).pending).1, Own u := by
    rw [cut]
    exact fun u member => own u (List.mem_of_mem_take (List.mem_of_mem_drop member))
  have ends : (segmentFraming.split (tcpReadmore r ((units.flatten.drop a).take n)).pending).1 = [] ∨
      (segmentFraming.split (tcpReadmore r ((units.flatten.drop a).take n)).pending).2 = [] := by
    rw [cut]
    cases whole with
    | inl same =>
        left
        rw [same]
        exact List.drop_eq_nil_of_le (List.length_take_le _ _)
    | inr ends =>
        right
        rw [Nat.div_mul_cancel ends]
        exact List.drop_eq_nil_of_le (List.length_take_le _ _)
  have round := tcpAgainWith_round keeps _ mine
  have step := tcpAgainWith_inStep keeps (tcpReadmore r ((units.flatten.drop a).take n)) front mine ends
  rw [cut] at round step
  exact ⟨step, round.1⟩

end

def sdlmsgInject (host : Endian) (screen : Screen) (buf : Mem UInt8) (msg msglen : Nat) :
    Mem UInt8 × List Input :=
  ((sdlmsgReplayCallback host screen buf msg msglen).1,
    (sdlmsgReplayCallback host screen buf msg msglen).2.getD [])

/-- Neither the scan code nor the modifiers are looked at. -/
theorem sdlmsgReplayNative_congr (screen : Screen) {m n : SdlMsg} (msgtype : m.msgtype = n.msgtype)
    (isPressed : m.isPressed = n.isPressed) (mousebutton : m.mousebutton = n.mousebutton)
    (sdlkey : m.sdlkey = n.sdlkey) (mousex : m.mousex = n.mousex) (mousey : m.mousey = n.mousey) :
    sdlmsgReplayNative screen m = sdlmsgReplayNative screen n := by
  simp only [sdlmsgReplayNative, msgtype, isPressed, mousebutton, sdlkey, mousex, mousey]

theorem sdlmsgInject_built (client server : Endian) (screen : Screen) (b : Built) {buf : Mem UInt8} {p n : Nat}
    (received : buf.slice p sdlmsgSize.toNat = (b.msg client).bytes client) :
    (sdlmsgInject server screen buf p n).2 = sdlmsgReplayNative screen b.args := by
  have wire : buf.slice p sdlmsgSize.toNat = b.args.wire := by
    rw [received, b.msg_eq, SdlMsg.bytes_network]
  simp only [sdlmsgInject, sdlmsgReplayCallback, sdlmsgReplay, Option.getD_some]
  rw [SdlMsg.load_wire server wire, sdlmsgNtoh_network]
  exact sdlmsgReplayNative_congr screen rfl rfl rfl rfl rfl rfl

end GamingAnywhere.Control
