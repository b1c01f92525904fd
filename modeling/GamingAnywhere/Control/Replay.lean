import GamingAnywhere.Control.Messages
import GamingAnywhere.Control.Parsing

/-!
# Replaying a message in the receive buffer

`sdlmsg_replay_callback` gets a pointer into the buffer of `ctrl_server_thread` and turns the message there
into the order of the host, in place. It compares the announced length with that of `struct sdlmsg`, and
then replays a whole `struct sdlmsg` anyway.
-/

namespace GamingAnywhere.Control
open Lib

inductive Input
  | key (kcode : Nat) (pressed : Bool)
  | button (button : Nat) (pressed : Bool)
  | motion (x y : Int)
  deriving DecidableEq

/-- `keycode` is `SDLKeyToKeySym` and `XKeysymToKeycode`. -/
structure Screen where
  keycode : UInt32 → Option Nat
  prect : Option (Int × Int)

/-- With X11; a wheel moves by a `short`. -/
def sdlmsgReplayNative (screen : Screen) (m : SdlMsg) : List Input :=
  if m.msgtype = msgtypeKeyboard then
    match screen.keycode m.sdlkey with
    | none => []
    | some kcode => [.key kcode (m.isPressed ≠ 0)]
  else if m.msgtype = msgtypeMousekey then [.button m.mousebutton.toNat (m.isPressed ≠ 0)]
  else if m.msgtype = msgtypeMousewheel then
    if m.mousex = 0 then []
    else if m.mousex < 0x8000 then [.button 4 true, .button 4 false]
    else [.button 5 true, .button 5 false]
  else if m.msgtype = msgtypeMousemotion then
    match screen.prect with
    | none => [.motion m.mousex.toNat m.mousey.toNat]
    | some (left, top) => [.motion (left + m.mousex.toNat) (top + m.mousey.toNat)]
  else []

def sdlmsgReplay (host : Endian) (screen : Screen) (buf : Mem UInt8) (msg : Nat) :
    Mem UInt8 × List Input :=
  let m := sdlmsgNtoh host (.load host buf msg)
  (buf.store msg (m.bytes host), sdlmsgReplayNative screen m)

/-- `none` where nothing is replayed, which does not happen: the test of `msglen` has an empty body. -/
def sdlmsgReplayCallback (host : Endian) (screen : Screen) (buf : Mem UInt8) (msg _msglen : Nat) :
    Mem UInt8 × Option (List Input) :=
  let replayed := sdlmsgReplay host screen buf msg
  (replayed.1, some replayed.2)

theorem SdlMsg.length_bytes (host : Endian) (m : SdlMsg) : (m.bytes host).length = sdlmsgSize.toNat := by
  have two (x : UInt16) : (host.bytes16 x).length = 2 := by cases host <;> rfl
  have four (x : UInt32) : (host.bytes32 x).length = 4 := by cases host <;> rfl
  simp only [SdlMsg.bytes, List.length_append, two, four, Vector.length_toList]
  rfl

theorem SdlMsg.load_congr (host : Endian) {buf buf' : Mem UInt8} {p p' : Nat}
    (same : buf.slice p sdlmsgSize.toNat = buf'.slice p' sdlmsgSize.toNat) :
    SdlMsg.load host buf p = SdlMsg.load host buf' p' := by
  have cell (i : Nat) (lt : i < 28) : buf (p + i) = buf' (p' + i) := Mem.slice_eq_slice.mp same i lt
  have padding : Vector.ofFn (fun i : Fin 9 => buf (p + 19 + i)) =
      .ofFn fun i : Fin 9 => buf' (p' + 19 + i) := by
    congr 1
    ext i
    rw [Nat.add_assoc, Nat.add_assoc, cell _ (by omega)]
  rw [SdlMsg.load, SdlMsg.load, padding, cell 1 (by omega), cell 2 (by omega), cell 3 (by omega),
    cell 4 (by omega), cell 5 (by omega), cell 6 (by omega), cell 7 (by omega), cell 8 (by omega),
    cell 9 (by omega), cell 10 (by omega), cell 11 (by omega), cell 12 (by omega), cell 13 (by omega),
    cell 14 (by omega), cell 15 (by omega), cell 16 (by omega), cell 17 (by omega), cell 18 (by omega),
    show buf p = buf' p' from cell 0 (by omega)]

theorem sdlmsgReplayCallback_local (host : Endian) (screen : Screen) (buf : Mem UInt8) (msg msglen : Nat) :
    Mem.LocalAt (fun buf => sdlmsgReplayCallback host screen buf msg msglen) msg sdlmsgSize.toNat buf := by
  have length (buf' : Mem UInt8) : ((sdlmsgNtoh host (.load host buf' msg)).bytes host).length =
      sdlmsgSize.toNat := SdlMsg.length_bytes host _
  constructor
  · intro i outside
    exact Mem.store_of_outside buf (by rwa [length])
  · intro buf' same
    have stored (buf' : Mem UInt8) :
        (sdlmsgReplayCallback host screen buf' msg msglen).1.slice msg sdlmsgSize.toNat =
          (sdlmsgNtoh host (.load host buf' msg)).bytes host := by
      rw [← length buf']
      exact buf'.slice_store_self msg _
    have loaded := SdlMsg.load_congr host same
    rw [stored, stored, loaded]
    refine ⟨?_, rfl⟩
    rw [sdlmsgReplayCallback, sdlmsgReplay, loaded]
    rfl

def ParsedAsReceived (buf after : Mem UInt8) (pos left : Nat) : Prop :=
  (tcpAgain ⟨after, pos, left⟩).2 = (tcpAgain ⟨buf, pos, left⟩).2

theorem parsedAsReceived {buf after : Mem UInt8} {pos : Nat} (same : ∀ i, pos ≤ i → after i = buf i)
    (left : Nat) : ParsedAsReceived buf after pos left := by
  have pending : (Receiver.mk after pos left).pending = (Receiver.mk buf pos left).pending :=
    Mem.slice_congr fun i above _ => same i above
  rw [ParsedAsReceived, (tcpAgain_round _).1, (tcpAgain_round _).1, pending]

structure OwnMessage (host : Endian) (screen : Screen) (buf : Mem UInt8) (msg msglen : Nat) : Prop where
  touches : Mem.LocalAt (fun buf => sdlmsgReplayCallback host screen buf msg msglen) msg msglen buf
  following : ∀ left,
    ParsedAsReceived buf (sdlmsgReplayCallback host screen buf msg msglen).1 (msg + msglen) left
  refused : msglen ≠ sdlmsgSize.toNat → (sdlmsgReplayCallback host screen buf msg msglen).2 = none

theorem sdlmsgReplayCallback_ownMessage_iff (host : Endian) (screen : Screen) (buf : Mem UInt8)
    (msg msglen : Nat) : OwnMessage host screen buf msg msglen ↔ msglen = sdlmsgSize.toNat := by
  constructor
  · intro own
    by_contra other
    cases own.refused other
  · rintro rfl
    have touches := sdlmsgReplayCallback_local host screen buf msg sdlmsgSize.toNat
    exact ⟨touches, parsedAsReceived fun i behind => touches.frame i (.inr behind),
      fun other => absurd rfl other⟩

theorem not_sdlmsgReplayCallback_ownMessage :
    ¬ ∀ (host : Endian) (screen : Screen) (buf : Mem UInt8) (msg msglen : Nat),
      be16 (buf msg) (buf (msg + 1)) = msglen → OwnMessage host screen buf msg msglen := by
  intro own
  let buf : Mem UInt8 := Mem.store (fun _ => 0) 0 [0, 2, 0, 16, 1, 1, 1, 1, 1, 1, 1, 1, 1, 1, 5, 6]
  have following := (own .little ⟨fun _ => none, none⟩ buf 0 2 (by decide)).following 16
  have received : (tcpAgain ⟨buf, 2, 16⟩).2.map Delivery.msg =
      [[0, 16, 1, 1, 1, 1, 1, 1, 1, 1, 1, 1, 5, 6, 0, 0]] := by
    decide +kernel
  rw [← following] at received
  exact absurd received (by decide +kernel)

end GamingAnywhere.Control
