import GamingAnywhere.Rtsp.Context

/-!
# The request handlers

`rtsp_cmd_describe` to `rtsp_cmd_teardown`, and the dispatch of `rtspserver`. A handler either
answers, or calls `strcmp` on a NULL `session_id`.
-/

namespace GamingAnywhere.Rtsp
open Lib

inductive Fault
  | nullSessionId
  deriving DecidableEq

abbrev Handled := Except Fault (RTSPContext × Reply)

/-! ## Paths -/

/-- `strncmp(path, rtspconf->object, baselen) == 0` -/
def UnderObject (conf : Conf) (path : Mem UInt8) : Prop :=
  path.slice 0 conf.object.length = conf.object

instance (conf : Conf) (path : Mem UInt8) : Decidable (UnderObject conf path) :=
  inferInstanceAs (Decidable (_ = _))

/-- `strcmp(path+start, s) == 0` -/
def Names (path : Mem UInt8) (start : Nat) (s : Bytes) : Prop :=
  path.slice start (s.length + 1) = s ++ [0]

instance (path : Mem UInt8) (start : Nat) (s : Bytes) : Decidable (Names path start s) :=
  inferInstanceAs (Decidable (_ = _))

def channelname (i : Nat) : Bytes := ascii "streamid=" ++ decimal i

/-- The stream that a path behind the object names; one more than there are array entries. -/
def streamid? (conf : Conf) (path : Mem UInt8) : Option Nat :=
  (List.range (imageSourceChannelMax + 1)).find? fun i =>
    Names path (conf.object.length + 1) (channelname i)

/-! ## DESCRIBE and OPTIONS -/

def rtspCmdDescribe (conf : Conf) (r : Request) (e : Env) (c : RTSPContext) : Reply :=
  if ¬ Names r.path 0 conf.object then rtspReplyError c e.date .service
  else
    ⟨.ok, rtspReplyHeader c e.date .ok ++
      [ascii "Content-Base: " ++ r.url ++ ascii "/\r\n",
       ascii "Content-Type: application/sdp\r\n",
       ascii "Content-Length: " ++ decimal e.sdp.length ++ ascii "\r\n",
       emptyLine,
       e.sdp]⟩

def rtspCmdOptions (c : RTSPContext) : Reply :=
  ⟨.ok, [statusLine .ok, cseqLine c,
    ascii "Public: OPTIONS, DESCRIBE, SETUP, TEARDOWN, PLAY\r\n", emptyLine]⟩

/-! ## SETUP -/

def findTransport (h : MessageHeader) (lower : LowerTransport) : Option TransportField :=
  h.transports.find? fun th => th.lowerTransport = lower

def supportedTransport (h : MessageHeader) : Option TransportField :=
  (findTransport h .udp).or (findTransport h .tcp)

/-- `rtp_new_av_stream`: the entries are written before the header is, and stay when that fails. -/
def rtpNewAvStream (conf : Conf) (e : StreamEnv) (c : RTSPContext) (streamid codecid : Nat) :
    RTSPContext × Int :=
  if imageSourceChannelMax < streamid then (c, -1)
  else if codecid ≠ conf.videoCodec ∧ codecid ≠ conf.audioCodec then (c, -1)
  else if c.fmtctxAt streamid ≠ none then (c, -1)
  else if e.guessFormat = false then (c, -1)
  else
    match e.allocContext with
    | none => (c, -1)
    | some fmtctx =>
        if e.openPb = false then (c, -1)
        else
          match e.newStream with
          | none => (c, -1)
          | some stream =>
              match e.encoderInit with
              | none => (c, -1)
              | some encoder =>
                  let opened := c.setEntries streamid fmtctx stream encoder
                  if e.writeHeader = false then (opened, -1) else (opened, 0)

def errorSetup (c : RTSPContext) (streamid : Nat) : RTSPContext :=
  { c.setEntries streamid none none none with sessionId := none }

def hexDigit (n : Nat) : UInt8 :=
  if n % 16 < 10 then UInt8.ofNat (48 + n % 16) else UInt8.ofNat (87 + n % 16)

def hex4 (n : Nat) : Bytes := [hexDigit (n / 4096), hexDigit (n / 256), hexDigit (n / 16), hexDigit n]

def newSessionId (rand : Nat × Nat) : Bytes := hex4 (rand.1 % 0x0ffff) ++ hex4 (rand.2 % 0x0ffff)

def createSession (c : RTSPContext) (h : MessageHeader) (rand : Nat × Nat) :
    RTSPContext × MessageHeader :=
  if c.sessionId = none ∧ h.sessionId = [] then
    ({ c with sessionId := some (newSessionId rand) }, { h with sessionId := newSessionId rand })
  else (c, h)

def transportLine (th : TransportField) (streamid : Nat) (e : Env) : List Bytes :=
  match th.lowerTransport with
  | .udp =>
      [ascii "Transport: RTP/AVP/UDP;unicast;client_port=" ++ decimal th.clientPortMin ++
        ascii "-" ++ decimal th.clientPortMax ++ ascii ";server_port=" ++ decimal e.rtpPort ++
        ascii "-" ++ decimal e.rtcpPort ++ ascii "\r\n"]
  | .tcp =>
      [ascii "Transport: RTP/AVP/TCP;unicast;interleaved=" ++ decimal (streamid * 2 : Nat) ++
        ascii "-" ++ decimal (streamid * 2 + 1 : Nat) ++ ascii "\r\n"]
  | .udpMulticast => []

def checkStream (e : Env) (c : RTSPContext) (h : MessageHeader) : Except StatusCode TransportField :=
  if c.sessionId ≠ some h.sessionId then .error .session
  else
    match supportedTransport h with
    | none => .error .transport
    | some th =>
        if e.getpeername = false then .error .internal
        else if e.getsockname = false then .error .internal
        else .ok th

def openStream (conf : Conf) (e : Env) (streamid : Nat) (c : RTSPContext) (th : TransportField) :
    RTSPContext × Int :=
  rtpNewAvStream conf e.stream (c.setLowerTransport streamid th.lowerTransport) streamid
    (if streamid = conf.videoSourceChannels then conf.audioCodec else conf.videoCodec)

/-- `rtsp_cmd_setup` from the comparison of the session ids on. -/
def setupStream (conf : Conf) (e : Env) (streamid : Nat) (c : RTSPContext) (h : MessageHeader) :
    RTSPContext × Reply :=
  match checkStream e c h with
  | .error errcode => (errorSetup c streamid, rtspReplyError c e.date errcode)
  | .ok th =>
      let opened := openStream conf e streamid c th
      if opened.2 < 0 then (errorSetup opened.1 streamid, rtspReplyError c e.date .transport)
      else
        ({ opened.1 with state := .ready },
          ⟨.ok, rtspReplyHeader c e.date .ok ++ [sessionLine h.sessionId] ++
            transportLine th streamid e ++ [emptyLine]⟩)

/-- `rtsp_cmd_setup`. The stream can be the one behind the last slot. -/
def rtspCmdSetup (conf : Conf) (r : Request) (e : Env) (c : RTSPContext) : Handled :=
  if ¬ UnderObject conf r.path then .ok (c, rtspReplyError c e.date .aggregate)
  else
    match streamid? conf r.path with
    | none => .ok (c, rtspReplyError c e.date .service)
    | some streamid =>
        if c.state ≠ .idle ∧ c.state ≠ .ready then .ok (c, rtspReplyError c e.date .state)
        else
          let session := createSession c r.header e.rand
          .ok (setupStream conf e streamid session.1 session.2)

/-! ## PLAY, PAUSE and TEARDOWN -/

/-- The two comparisons that the three handlers begin with; `some` is the status of a refusal. -/
def checkSession (conf : Conf) (r : Request) (c : RTSPContext) : Except Fault (Option StatusCode) :=
  if ¬ UnderObject conf r.path then .ok (some .session)
  else
    match c.sessionId with
    | none => .error .nullSessionId
    | some id => if id ≠ r.header.sessionId then .ok (some .session) else .ok none

def replySession (c : RTSPContext) (r : Request) (e : Env) : Reply :=
  ⟨.ok, rtspReplyHeader c e.date .ok ++ [sessionLine r.header.sessionId, emptyLine]⟩

/-- `rtsp_cmd_play` up to `encoder_register_client`. -/
def playCheck (conf : Conf) (r : Request) (c : RTSPContext) : Except Fault (Option StatusCode) :=
  match checkSession conf r c with
  | .error fault => .error fault
  | .ok (some code) => .ok (some code)
  | .ok none => if c.state ≠ .ready ∧ c.state ≠ .pause then .ok (some .state) else .ok none

/-- `rtsp_cmd_play` once `encoder_register_client` has returned. -/
def playRegistered (r : Request) (e : Env) (c : RTSPContext) (ret : Int) : RTSPContext × Reply :=
  if ret < 0 then (c, rtspReplyError c e.date .internal)
  else ({ c with state := .playing }, replySession c r e)

def rtspCmdPlay (conf : Conf) (r : Request) (e : Env) (c : RTSPContext) : Handled :=
  match playCheck conf r c with
  | .error fault => .error fault
  | .ok (some code) => .ok (c, rtspReplyError c e.date code)
  | .ok none => .ok (playRegistered r e c e.registerClient)

def rtspCmdPause (conf : Conf) (r : Request) (e : Env) (c : RTSPContext) : Handled :=
  match checkSession conf r c with
  | .error fault => .error fault
  | .ok (some code) => .ok (c, rtspReplyError c e.date code)
  | .ok none =>
      if c.state ≠ .playing then .ok (c, rtspReplyError c e.date .state)
      else .ok ({ c with state := .pause }, replySession c r e)

def rtspCmdTeardown (conf : Conf) (r : Request) (e : Env) (c : RTSPContext) : Handled :=
  match checkSession conf r c with
  | .error fault => .error fault
  | .ok (some code) => .ok (c, rtspReplyError c e.date code)
  | .ok none => .ok ({ c with state := .teardown }, replySession c r e)

/-! ## The loop of `rtspserver` -/

/-- One request, once its headers have been read. Another protocol version ends the connection, which
sets the state to TEARDOWN. -/
def handle (conf : Conf) (r : Request) (e : Env) (c : RTSPContext) : Handled :=
  if r.protocol ≠ ascii "RTSP/1.0" then
    .ok ({ c with state := .teardown }, rtspReplyError c e.date .version)
  else
    let c : RTSPContext := { c with seq := r.header.seq }
    match r.method with
    | .describe => .ok (c, rtspCmdDescribe conf r e c)
    | .options => .ok (c, rtspCmdOptions c)
    | .setup => rtspCmdSetup conf r e c
    | .play => rtspCmdPlay conf r e c
    | .pause => rtspCmdPause conf r e c
    | .teardown => rtspCmdTeardown conf r e c
    | .unknown => .ok (c, rtspReplyError c e.date .method)

structure Event where
  request : Request
  before : RTSPContext
  handled : Handled

def rtspserver (conf : Conf) : RTSPContext → List (Request × Env) → List Event
  | _, [] => []
  | c, (r, e) :: rest =>
      ⟨r, c, handle conf r e c⟩ ::
        match handle conf r e c with
        | .error _ => []
        | .ok (c', _) => if c'.state = .teardown then [] else rtspserver conf c' rest

end GamingAnywhere.Rtsp
