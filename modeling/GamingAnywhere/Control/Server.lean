import GamingAnywhere.Lib.Bytes
import GamingAnywhere.Lib.Memory
import GamingAnywhere.Lib.Framing

/-!
# The control server's receive loop

The TCP branch of `ctrl_server_thread`, from the accepted connection on. `recv` appends to `buf`
behind the `buflen` bytes it counts as buffered; `tcp_again` takes messages from `bufhead` on until
it has to read more. `replay`, or `ctrl_queue_write_msg` when no replay function is set, is handed
the pointer `buf + bufhead` and the length `msglen`: the bytes there are what a `Delivery` records.
-/

namespace GamingAnywhere.Control
open Lib

def bufSize : Nat := 8192

structure Receiver where
  buf : Mem UInt8
  bufhead : Nat
  buflen : Nat

structure Delivery where
  msg : Bytes
  msglen : Nat
  deriving DecidableEq

def Receiver.start (buf : Mem UInt8) : Receiver := ⟨buf, 0, 0⟩

def tcpReadmore (r : Receiver) (chunk : Bytes) : Receiver :=
  { r with buf := r.buf.store r.buflen chunk, buflen := r.buflen + chunk.length }

def Receiver.msglen (r : Receiver) : Nat := be16 (r.buf r.bufhead) (r.buf (r.bufhead + 1))

def tcpAgain (r : Receiver) : Receiver × List Delivery :=
  if r.buflen < 2 then (r, [])
  -- a zero length is skipped by `continue`, which resets `bufhead` and keeps `buflen`
  else if r.msglen = 0 then ({ r with bufhead := 0 }, [])
  -- the partial message is moved to the front, and `bufhead` keeps pointing behind it
  else if r.buflen < r.msglen then ({ r with buf := r.buf.bcopy r.bufhead 0 r.buflen }, [])
  else
    let out : Delivery := ⟨r.buf.slice r.bufhead r.msglen, r.msglen⟩
    if r.msglen < r.buflen then
      let rest := tcpAgain { r with bufhead := r.bufhead + r.msglen, buflen := r.buflen - r.msglen }
      (rest.1, out :: rest.2)
    else ({ r with bufhead := 0, buflen := 0 }, [out])
termination_by r.buflen
decreasing_by omega

def serve (r : Receiver) : List Bytes → Receiver × List Delivery
  | [] => (r, [])
  | chunk :: chunks =>
      let now := tcpAgain (tcpReadmore r chunk)
      let later := serve now.1 chunks
      (later.1, now.2 ++ later.2)

/-- Results that `recv` can return: none is empty, since a result of zero closes the connection, and
none is larger than the space it is offered. -/
def Receivable (r : Receiver) : List Bytes → Prop
  | [] => True
  | chunk :: chunks =>
      chunk ≠ [] ∧ chunk.length ≤ bufSize - r.buflen ∧
        Receivable (tcpAgain (tcpReadmore r chunk)).1 chunks

instance decidableReceivable : ∀ (r : Receiver) (chunks : List Bytes), Decidable (Receivable r chunks)
  | _, [] => isTrue trivial
  | r, chunk :: chunks =>
      have := decidableReceivable (tcpAgain (tcpReadmore r chunk)).1 chunks
      inferInstanceAs (Decidable (_ ∧ _ ∧ _))

def announced : Bytes → Nat
  | hi :: lo :: _ => be16 hi lo
  | _ => 0

structure CtrlMsg where
  bytes : Bytes
  sized : announced bytes = bytes.length
  two_le : 2 ≤ bytes.length
  fits : bytes.length ≤ bufSize

def CtrlMsg.delivery (m : CtrlMsg) : Delivery := ⟨m.bytes, m.bytes.length⟩

def stream (ms : List CtrlMsg) : Bytes := (ms.map CtrlMsg.bytes).flatten

def ctrlFraming : Framing UInt8 where
  next p := if 2 ≤ announced p ∧ announced p ≤ p.length then some (p.take (announced p)) else none
  next_prefix := by
    intro p u h
    split at h
    · cases h
      exact List.take_prefix _ _
    · cases h
  next_ne_nil := by
    intro p u h
    split at h
    · rename_i bounds
      cases h
      intro empty
      have none := congrArg List.length empty
      rw [List.length_take, List.length_nil] at none
      omega
    · cases h
  next_append := by
    intro p u q h
    split at h
    · rename_i bounds
      cases h
      have same : announced (p ++ q) = announced p := by
        rcases p with _ | ⟨hi, _ | ⟨lo, p⟩⟩
        · simp [announced] at bounds
        · simp [announced] at bounds
        · rfl
      rw [same, if_pos ⟨bounds.1, by rw [List.length_append]; omega⟩,
        List.take_append_of_le_length bounds.2]
    · cases h

theorem CtrlMsg.isUnit (m : CtrlMsg) : ctrlFraming.IsUnit m.bytes := by
  have := m.two_le
  simp [Framing.IsUnit, ctrlFraming, m.sized, this]

end GamingAnywhere.Control
