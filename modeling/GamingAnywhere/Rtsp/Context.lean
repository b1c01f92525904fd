import GamingAnywhere.Lib.Bytes
import GamingAnywhere.Lib.Memory
import Mathlib.Logic.Function.Basic

/-!
# Connections, requests and replies

What the request handlers of `rtspserver.cpp` read and write. A pointer is its address, `none` where
it is NULL; a C string is its bytes up to the terminating zero. What the handlers ask of the system
and of the codec library is part of the request's `Env`: the model computes what follows from it.
-/

namespace GamingAnywhere.Rtsp
open Lib

/-! ## `RTSPContext` -/

abbrev rtspChannelMax : Nat := 8

def imageSourceChannelMax : Nat := 8

inductive ServerState
  | idle
  | ready
  | playing
  | pause
  | teardown
  deriving DecidableEq

inductive LowerTransport
  | udp
  | tcp
  | udpMulticast
  deriving DecidableEq

abbrev Ptr := Nat

abbrev StreamId := Fin rtspChannelMax

structure RTSPContext where
  state : ServerState
  seq : Int
  sessionId : Option Bytes
  lowerTransport : StreamId → LowerTransport
  fmtctx : StreamId → Option Ptr
  stream : StreamId → Option Ptr
  encoder : StreamId → Option Ptr

def RTSPContext.start : RTSPContext where
  state := .idle
  seq := 0
  sessionId := none
  lowerTransport _ := .udp
  fmtctx _ := none
  stream _ := none
  encoder _ := none

/-! ## The entries of a stream

The arrays follow each other in the structure without a gap, `rtp` behind them, and `lower_transport` has four bytes
for an entry: what C finds behind the last entry of one array is the first of the next one. -/

def LowerTransport.number : LowerTransport → Nat
  | udp => 0
  | tcp => 1
  | udpMulticast => 2

def overwritten (p : Option Ptr) (word : Nat) : Option Ptr :=
  let address := p.getD 0 / 4294967296 * 4294967296 + word
  if address = 0 then none else some address

namespace RTSPContext

def fmtctxAt (c : RTSPContext) (streamid : Nat) : Option Ptr :=
  if inside : streamid < rtspChannelMax then c.fmtctx ⟨streamid, inside⟩ else c.stream 0

def streamAt (c : RTSPContext) (streamid : Nat) : Option Ptr :=
  if inside : streamid < rtspChannelMax then c.stream ⟨streamid, inside⟩ else c.encoder 0

def setLowerTransport (c : RTSPContext) (streamid : Nat) (t : LowerTransport) : RTSPContext :=
  if inside : streamid < rtspChannelMax then
    { c with lowerTransport := Function.update c.lowerTransport ⟨streamid, inside⟩ t }
  else { c with fmtctx := Function.update c.fmtctx 0 (overwritten (c.fmtctx 0) t.number) }

/-- Behind the last slot the encoder goes to `rtp`, which only the label `error_setup` looks at. -/
def setEntries (c : RTSPContext) (streamid : Nat) (fmtctx stream encoder : Option Ptr) : RTSPContext :=
  if inside : streamid < rtspChannelMax then
    { c with encoder := Function.update c.encoder ⟨streamid, inside⟩ encoder,
             stream := Function.update c.stream ⟨streamid, inside⟩ stream,
             fmtctx := Function.update c.fmtctx ⟨streamid, inside⟩ fmtctx }
  else { c with encoder := Function.update c.encoder 0 stream, stream := Function.update c.stream 0 fmtctx }

variable (c : RTSPContext) (i : StreamId) (k : Nat) (t : LowerTransport) (p q r p' q' r' : Option Ptr)

@[simp] theorem fmtctxAt_slot : c.fmtctxAt i = c.fmtctx i := dif_pos i.isLt

theorem fmtctxAt_zero : c.fmtctxAt 0 = c.fmtctx 0 := c.fmtctxAt_slot 0

@[simp] theorem setLowerTransport_slot :
    c.setLowerTransport i t = { c with lowerTransport := Function.update c.lowerTransport i t } := dif_pos i.isLt

@[simp] theorem setEntries_slot :
    c.setEntries i p q r = { c with encoder := Function.update c.encoder i r,
                                    stream := Function.update c.stream i q,
                                    fmtctx := Function.update c.fmtctx i p } := dif_pos i.isLt

@[simp] theorem sessionId_setLowerTransport : (c.setLowerTransport k t).sessionId = c.sessionId := by
  unfold setLowerTransport
  split <;> rfl

@[simp] theorem state_setLowerTransport : (c.setLowerTransport k t).state = c.state := by
  unfold setLowerTransport
  split <;> rfl

@[simp] theorem sessionId_setEntries : (c.setEntries k p q r).sessionId = c.sessionId := by
  unfold setEntries
  split <;> rfl

@[simp] theorem state_setEntries : (c.setEntries k p q r).state = c.state := by
  unfold setEntries
  split <;> rfl

theorem setEntries_idem : (c.setEntries k p q r).setEntries k p' q' r' = c.setEntries k p' q' r' := by
  unfold setEntries
  split <;> simp only [Function.update_idem]

end RTSPContext

structure SameStreams (c d : RTSPContext) : Prop where
  lowerTransport : d.lowerTransport = c.lowerTransport
  fmtctx : d.fmtctx = c.fmtctx
  stream : d.stream = c.stream
  encoder : d.encoder = c.encoder

theorem SameStreams.refl (c : RTSPContext) : SameStreams c c := ⟨rfl, rfl, rfl, rfl⟩

theorem SameStreams.trans {c d e : RTSPContext} (first : SameStreams c d)
    (second : SameStreams d e) : SameStreams c e :=
  ⟨second.1.trans first.1, second.2.trans first.2, second.3.trans first.3, second.4.trans first.4⟩

/-! ## Requests -/

structure TransportField where
  lowerTransport : LowerTransport
  clientPortMin : Nat
  clientPortMax : Nat

structure MessageHeader where
  seq : Int
  sessionId : Bytes
  transports : List TransportField

inductive Method
  | describe
  | options
  | setup
  | play
  | pause
  | teardown
  | unknown
  deriving DecidableEq

/-- A request: the words of its first line and its headers. `path` is the array that `av_url_split`
leaves the path in; the cells behind the terminating zero hold whatever was there. -/
structure Request where
  method : Method
  url : Bytes
  path : Mem UInt8
  protocol : Bytes
  header : MessageHeader

structure StreamEnv where
  guessFormat : Bool
  allocContext : Option Ptr
  openPb : Bool
  newStream : Option Ptr
  encoderInit : Option Ptr
  writeHeader : Bool

structure Env where
  date : Bytes
  sdp : Bytes
  rand : Nat × Nat
  getpeername : Bool
  getsockname : Bool
  rtpPort : Nat
  rtcpPort : Nat
  stream : StreamEnv
  registerClient : Int

structure Conf where
  object : Bytes
  videoCodec : Nat
  audioCodec : Nat
  videoSourceChannels : Nat

/-! ## Replies -/

inductive StatusCode
  | ok
  | method
  | session
  | state
  | aggregate
  | transport
  | internal
  | service
  | version
  deriving DecidableEq

def StatusCode.number : StatusCode → Nat
  | ok => 200
  | method => 405
  | session => 454
  | state => 455
  | aggregate => 459
  | transport => 461
  | internal => 500
  | service => 503
  | version => 505

def StatusCode.text : StatusCode → String
  | ok => "OK"
  | method => "Method Not Allowed"
  | session => "Session Not Found"
  | state => "Method Not Valid in This State"
  | aggregate => "Aggregate operation not allowed"
  | transport => "Unsupported transport"
  | internal => "Internal Server Error"
  | service => "Service Unavailable"
  | version => "RTSP Version not supported"

def ascii (s : String) : Bytes := s.toList.map fun c => UInt8.ofNat c.toNat

def decimal (n : Int) : Bytes := ascii (toString n)

structure Reply where
  status : StatusCode
  writes : List Bytes

def statusLine (code : StatusCode) : Bytes :=
  ascii "RTSP/1.0 " ++ decimal code.number ++ ascii " " ++ ascii code.text ++ ascii "\r\n"

def cseqLine (c : RTSPContext) : Bytes := ascii "CSeq: " ++ decimal c.seq ++ ascii "\r\n"

def emptyLine : Bytes := ascii "\r\n"

def rtspReplyHeader (c : RTSPContext) (date : Bytes) (code : StatusCode) : List Bytes :=
  [statusLine code, cseqLine c, ascii "Date: " ++ date ++ ascii " GMT\r\n"]

def rtspReplyError (c : RTSPContext) (date : Bytes) (code : StatusCode) : Reply :=
  ⟨code, rtspReplyHeader c date code ++ [emptyLine]⟩

def sessionLine (id : Bytes) : Bytes := ascii "Session: " ++ id ++ ascii "\r\n"

end GamingAnywhere.Rtsp
