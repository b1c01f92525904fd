import GamingAnywhere.Lib.Bytes
import GamingAnywhere.Lib.Memory
import GamingAnywhere.Lib.Framing

/-!
# Reading from an RTSP connection

`rtsp_getnext` and the functions under it. One buffer serves two kinds of units: text, up to a
newline, and interleaved data, announced by a `'$'` and a 2-byte length behind a channel number.
Where the source returns -1 the outcome has no unit; `stored` is what was written to the caller's
buffer, from its start.
-/

namespace GamingAnywhere.Rtsp
open Lib

def rbufSize : Nat := 65536

def newline : UInt8 := 10

def dollar : UInt8 := 36

structure ReadBuffer where
  rbuffer : Mem UInt8
  rbufhead : Nat
  rbuftail : Nat
  rbufsize : Nat

/-- What a call leaves behind: its return value, the bytes it stored through `buf`, and the state of
the connection. `rbuf` is `none` while `ctx->rbuffer` is NULL. -/
structure Outcome where
  ret : Int
  stored : Bytes
  rbuf : Option ReadBuffer
  sock : Socket UInt8

def refuse (b : ReadBuffer) (s : Socket UInt8) : Outcome := ⟨-1, [], some b, s⟩

/-- `rtsp_read_internal`: `none` where `read` returned no data. -/
def rtspReadInternal (b : ReadBuffer) (s : Socket UInt8) : Option ReadBuffer × Socket UInt8 :=
  let got := s.read (b.rbufsize - b.rbuftail)
  (if got.1 = [] then none
    else some { b with rbuffer := b.rbuffer.store b.rbuftail got.1,
                       rbuftail := b.rbuftail + got.1.length }, got.2)

def ReadBuffer.compact (b : ReadBuffer) : ReadBuffer :=
  { b with rbuffer := b.rbuffer.bcopy b.rbufhead 0 (b.rbuftail - b.rbufhead),
           rbuftail := b.rbuftail - b.rbufhead, rbufhead := 0 }

def ReadBuffer.consume (b : ReadBuffer) (n : Nat) : ReadBuffer :=
  if b.rbufhead + n = b.rbuftail then { b with rbufhead := 0, rbuftail := 0 }
  else { b with rbufhead := b.rbufhead + n }

def sizeMax : Nat := 18446744073709551615

def countMinusOne (count : Nat) : Nat := if count = 0 then sizeMax else count - 1

def ReadBuffer.newline? (b : ReadBuffer) : Option Nat :=
  (List.range' b.rbufhead (b.rbuftail - b.rbufhead)).find? fun i => b.rbuffer i = newline

theorem length_unread_readInternal {b b' : ReadBuffer} {s s' : Socket UInt8}
    (h : rtspReadInternal b s = (some b', s')) : s'.unread.length < s.unread.length := by
  simp only [rtspReadInternal, Prod.mk.injEq] at h
  obtain ⟨stored, rfl⟩ := h
  split_ifs at stored with ended
  exact s.length_unread_read ended

def rtspReadText (b : ReadBuffer) (count : Nat) (s : Socket UInt8) : Outcome :=
  match b.newline? with
  | some i =>
      let textlen := i - b.rbufhead + 1
      if countMinusOne count < textlen then refuse b s
      else ⟨textlen, b.rbuffer.slice b.rbufhead textlen ++ [0], some (b.consume textlen), s⟩
  | none =>
      if b.rbuftail - b.rbufhead = b.rbufsize then refuse b s
      else
        match _more : rtspReadInternal b.compact s with
        | (none, s') => refuse b.compact s'
        | (some b', s') => rtspReadText b' count s'
termination_by s.unread.length
decreasing_by exact length_unread_readInternal _more

def ReadBuffer.reqlength (b : ReadBuffer) : Nat :=
  be16 (b.rbuffer (b.rbufhead + 2)) (b.rbuffer (b.rbufhead + 3))

/-- `rtsp_read_binary` from the label `again` on. `count` is not looked at. -/
def rtspReadBinaryAgain (b : ReadBuffer) (s : Socket UInt8) : Outcome :=
  if 4 + b.reqlength ≤ b.rbuftail - b.rbufhead then
    ⟨(4 + b.reqlength : Nat), b.rbuffer.slice b.rbufhead (4 + b.reqlength),
      some (b.consume (4 + b.reqlength)), s⟩
  else if b.rbuftail - b.rbufhead = b.rbufsize then refuse b s
  else
    match _more : rtspReadInternal b.compact s with
    | (none, s') => refuse b.compact s'
    | (some b', s') => rtspReadBinaryAgain b' s'
termination_by s.unread.length
decreasing_by exact length_unread_readInternal _more

def rtspReadBinary (b : ReadBuffer) (_count : Nat) (s : Socket UInt8) : Outcome :=
  if b.rbuftail - b.rbufhead < 4 then
    match rtspReadInternal b.compact s with
    | (none, s') => refuse b.compact s'
    | (some b', s') => rtspReadBinaryAgain b' s'
  else rtspReadBinaryAgain b s

def getnextAllocated (b : ReadBuffer) (count : Nat) (s : Socket UInt8) : Outcome :=
  let dispatch (b : ReadBuffer) (s : Socket UInt8) : Outcome :=
    if b.rbuffer b.rbufhead ≠ dollar then rtspReadText b count s else rtspReadBinary b count s
  if b.rbuftail = b.rbufhead then
    match rtspReadInternal b s with
    | (none, s') => refuse b s'
    | (some b', s') => dispatch b' s'
  else dispatch b s

/-- `rtsp_getnext`. `malloc` is what `malloc(65536)` returns, should the buffer have to be allocated. -/
def rtspGetnext (malloc : Option (Mem UInt8)) (ctx : Option ReadBuffer) (count : Nat)
    (s : Socket UInt8) : Outcome :=
  match ctx, malloc with
  | some b, _ => getnextAllocated b count s
  | none, some cells => getnextAllocated ⟨cells, 0, 0, rbufSize⟩ count s
  | none, none => ⟨-1, [], none, s⟩

def bufSize : Nat := 8192

/-- Up to `n` successive calls on one connection. `rtspserver` makes no further one after -1. -/
def getnexts (malloc : Option (Mem UInt8)) (count : Nat) :
    Nat → Option ReadBuffer → Socket UInt8 → List Outcome
  | 0, _, _ => []
  | n + 1, ctx, s =>
      let o := rtspGetnext malloc ctx count s
      o :: if o.ret < 0 then [] else getnexts malloc count n o.rbuf o.sock

def frameLength (p : Bytes) : Nat := be16 (p.getD 2 0) (p.getD 3 0)

def IsFrame (p : Bytes) : Prop := p.head? = some dollar

instance (p : Bytes) : Decidable (IsFrame p) := inferInstanceAs (Decidable (_ = _))

def nextUnit (p : Bytes) : Option Bytes :=
  if IsFrame p then
    if 4 ≤ p.length ∧ 4 + frameLength p ≤ p.length then some (p.take (4 + frameLength p)) else none
  else if newline ∈ p then some (p.take (p.idxOf newline + 1)) else none

theorem frameLength_append {p : Bytes} (four : 4 ≤ p.length) (q : Bytes) :
    frameLength (p ++ q) = frameLength p := by
  simp only [frameLength, List.getD_eq_getElem?_getD]
  rw [List.getElem?_append_left (by omega), List.getElem?_append_left (by omega)]

theorem isFrame_append {p : Bytes} (nonempty : p ≠ []) (q : Bytes) :
    IsFrame (p ++ q) ↔ IsFrame p := by
  obtain ⟨x, p, rfl⟩ := List.exists_cons_of_ne_nil nonempty
  rfl

def rtspFraming : Framing UInt8 where
  next := nextUnit
  next_prefix := by
    intro p u h
    unfold nextUnit at h
    split_ifs at h <;> cases h <;> exact List.take_prefix _ _
  next_ne_nil := by
    intro p u h empty
    unfold nextUnit at h
    have length := congrArg List.length empty
    split_ifs at h with frame whole line
    · cases h
      rw [List.length_take, List.length_nil] at length
      omega
    · cases h
      have := List.idxOf_lt_length_of_mem line
      rw [List.length_take, List.length_nil] at length
      omega
  next_append := by
    intro p u q h
    unfold nextUnit at h ⊢
    split_ifs at h with frame whole line
    · cases h
      have nonempty : p ≠ [] := by
        rintro rfl
        simp at whole
      rw [if_pos ((isFrame_append nonempty q).mpr frame), frameLength_append whole.1,
        if_pos (by rw [List.length_append]; omega), List.take_append_of_le_length whole.2]
    · cases h
      have nonempty := List.ne_nil_of_mem line
      have before := List.idxOf_lt_length_of_mem line
      rw [if_neg (mt (isFrame_append nonempty q).mp frame), if_pos (List.mem_append_left q line),
        List.idxOf_append_of_mem line, List.take_append_of_le_length (by omega)]

end GamingAnywhere.Rtsp
