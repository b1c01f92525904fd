import GamingAnywhere.Client.Session
import GamingAnywhere.Rtsp.Paths
import GamingAnywhere.Rtsp.Session

namespace GamingAnywhere.Rtsp
open Lib Client

/-! ## The library of the player -/

/-- How the RTSP library of the player words a request, given the id of the session, and the id that it finds in
a reply. -/
structure Library where
  word : Bytes → RtspRequest → Request
  sessionOf : Reply → Bytes

def methodFor : RtspRequest → Method
  | .describe => .describe
  | .setup _ => .setup
  | .play => .play
  | .teardown => .teardown

/-- A request has the id of the session, if there is one. Those for the whole session are for the base of the
description, and SETUP is for the stream that the description has under its number. -/
structure Library.Standard (conf : Conf) (lib : Library) : Prop where
  protocol : ∀ id q, (lib.word id q).protocol = ascii "RTSP/1.0"
  method : ∀ id q, (lib.word id q).method = methodFor q
  sessionId : ∀ id q, (lib.word id q).header.sessionId = id
  base : ∀ id q, q = .play ∨ q = .teardown → UnderObject conf (lib.word id q).path
  stream : ∀ id i, Names (lib.word id (.setup i)).path 0 (conf.object ++ slash :: channelname i)
  sessionOf : ∀ c date rand rest, lib.sessionOf
    ⟨.ok, rtspReplyHeader c date .ok ++ sessionLine (newSessionId rand) :: rest⟩ = newSessionId rand

/-- Without a session, PLAY and TEARDOWN are not sent: their handlers are called at once, with an error. -/
def sends (id : Bytes) : RtspRequest → Bool
  | .describe | .setup _ => true
  | .play | .teardown => id ≠ []

def Library.learn (lib : Library) (id : Bytes) : RtspRequest → Reply → Bytes
  | .setup _, reply => if reply.status = .ok then lib.sessionOf reply else id
  | _, _ => id

/-! ## Both together -/

/-- `unsent` is that `continueAfterPLAY` is to be called for a request that was not sent; TEARDOWN has no
handler. -/
structure Negotiation where
  client : StreamClientState
  sessionId : Bytes
  requests : List (RtspRequest × Request)
  unsent : Bool
  replies : List (RtspRequest × Reply)
  server : RTSPContext
  fault : Option Fault

def Negotiation.start : Negotiation where
  client := .start
  sessionId := []
  requests := []
  unsent := false
  replies := []
  server := .start
  fault := none

def Negotiation.called (s : Negotiation) (lib : Library) (client : StreamClientState)
    (sent : List RtspRequest) : Negotiation :=
  { s with
    client := client
    requests := s.requests ++ (sent.filter (sends s.sessionId)).map fun q => (q, lib.word s.sessionId q)
    unsent := RtspRequest.play ∈ sent ∧ s.sessionId = [] }

inductive NegotiationEvent
  | called (l : Callback × Effects)
  | served (q : RtspRequest) (out : Except Fault StatusCode)

def NegotiationEvent.outcome : NegotiationEvent → Option (RtspRequest × Except Fault StatusCode)
  | .called _ => none
  | .served q out => some (q, out)

/-- The callback of a response, of a connection that is lost, or of a request that is not sent. A description has
at most the streams of the server. -/
inductive Responds (conf : Conf) : Callback → RtspRequest → Option StatusCode → Prop
  | describe {subs : Option (List MediaSubsession)} {status : Option StatusCode} :
      (∀ media, subs = some media → status = some .ok ∧ media.length ≤ conf.videoSourceChannels + 1) →
      Responds conf (.describe subs) .describe status
  | setup {i : Nat} {succeeded : Bool} {status : Option StatusCode} : (succeeded = true → status = some .ok) →
      Responds conf (.setup succeeded) (.setup i) status
  | play {succeeded timed : Bool} {status : Option StatusCode} : (succeeded = true ↔ status = some .ok) →
      Responds conf (.play succeeded timed) .play status

inductive NegotiationStep (conf : Conf) (lib : Library) : Negotiation → NegotiationEvent → Negotiation → Prop
  | callback {s : Negotiation} {l : Callback × Effects} {client : StreamClientState} :
      s.client.exitCode = none → s.unsent = false → responds l.1 = false → StreamStep s.client l client →
      NegotiationStep conf lib s (.called l) (s.called lib client l.2.sent)
  | response {s : Negotiation} {l : Callback × Effects} {client : StreamClientState} {q : RtspRequest}
      {reply : Reply} {rest : List (RtspRequest × Reply)} :
      s.client.exitCode = none → s.unsent = false → s.replies = (q, reply) :: rest → s.client.pending = some q →
      Responds conf l.1 q (some reply.status) → StreamStep s.client l client →
      NegotiationStep conf lib s (.called l)
        ({ s with replies := rest, sessionId := lib.learn s.sessionId q reply }.called lib client l.2.sent)
  | broken {s : Negotiation} {l : Callback × Effects} {client : StreamClientState} {q : RtspRequest} :
      s.client.exitCode = none → s.unsent = false → s.fault ≠ none → s.replies = [] → s.client.pending = some q →
      Responds conf l.1 q none → StreamStep s.client l client →
      NegotiationStep conf lib s (.called l) (s.called lib client l.2.sent)
  | refused {s : Negotiation} {l : Callback × Effects} {client : StreamClientState} :
      s.client.exitCode = none → s.unsent = true → Responds conf l.1 .play none → StreamStep s.client l client →
      NegotiationStep conf lib s (.called l) (s.called lib client l.2.sent)
  | serve {s : Negotiation} {q : RtspRequest} {r : Request} {rest : List (RtspRequest × Request)} {e : Env}
      {c : RTSPContext} {reply : Reply} :
      s.fault = none → s.server.state ≠ .teardown → s.requests = (q, r) :: rest →
      handle conf r e s.server = .ok (c, reply) →
      NegotiationStep conf lib s (.served q (.ok reply.status))
        { s with requests := rest, replies := s.replies ++ [(q, reply)], server := c }
  | crash {s : Negotiation} {q : RtspRequest} {r : Request} {rest : List (RtspRequest × Request)} {e : Env}
      {fault : Fault} :
      s.fault = none → s.server.state ≠ .teardown → s.requests = (q, r) :: rest →
      handle conf r e s.server = .error fault →
      NegotiationStep conf lib s (.served q (.error fault)) { s with requests := rest, fault := some fault }

def negotiation (conf : Conf) (lib : Library) : System Negotiation NegotiationEvent where
  Init s := s = Negotiation.start.called lib .start [.describe]
  Step := NegotiationStep conf lib

/-! ## The session as both see it -/

/-- There has been no session, there is one, or it is only the player that still believes so. -/
inductive SessionPhase
  | fresh
  | opened
  | lost
  deriving DecidableEq

/-- Every SETUP behind a refused one is refused, if one had been accepted before, and PLAY and TEARDOWN then stop
the server. -/
inductive PhaseStep : SessionPhase → RtspRequest × Except Fault StatusCode → SessionPhase → Prop
  | described {a : SessionPhase} {code : StatusCode} : code = .ok ∨ code = .service →
      PhaseStep a (.describe, .ok code) a
  | accepted {a : SessionPhase} {i : Nat} : a ≠ .lost → PhaseStep a (.setup i, .ok .ok) .opened
  | refused {i : Nat} {code : StatusCode} : code = .transport ∨ code = .internal →
      PhaseStep .fresh (.setup i, .ok code) .fresh
  | loses {i : Nat} {code : StatusCode} : code = .transport ∨ code = .internal →
      PhaseStep .opened (.setup i, .ok code) .lost
  | unknown {i : Nat} : PhaseStep .lost (.setup i, .ok .session) .lost
  | played {code : StatusCode} : code = .ok ∨ code = .internal → PhaseStep .opened (.play, .ok code) .opened
  | torn : PhaseStep .opened (.teardown, .ok .ok) .opened
  | crashed {q : RtspRequest} : q = .play ∨ q = .teardown → PhaseStep .lost (q, .error .nullSessionId) .lost

def sessionPhases : System SessionPhase (RtspRequest × Except Fault StatusCode) where
  Init a := a = .fresh
  Step := PhaseStep

/-- The id that the server has, and the one that the player has or is to read. -/
def SessionPhase.Knows : SessionPhase → Option Bytes → Bytes → Prop
  | .fresh, session, known => session = none ∧ known = []
  | .opened, session, known => session = some known ∧ ∃ rand, known = newSessionId rand
  | .lost, session, known => session = none ∧ ∃ rand, known = newSessionId rand

theorem newSessionId_ne_nil (rand : Nat × Nat) : newSessionId rand ≠ [] := List.cons_ne_nil _ _

/-! ## The server -/

section
variable {conf : Conf} {lib : Library} {e : Env} {c d : RTSPContext} {i : StreamId} {h : MessageHeader}
  {a : SessionPhase} {known : Bytes} {q : RtspRequest}

theorem chosen_of_names {path : Mem UInt8} (named : Names path 0 (conf.object ++ slash :: channelname i.val)) :
    chosen conf path = some i.val := by
  have under : UnderObject conf path := by
    have cut := congrArg (List.take conf.object.length) named
    rwa [Mem.take_slice _ _ _ _ (by simp; omega), List.append_assoc, List.take_left] at cut
  have behind := (names_cons.mp (names_append named)).2
  rw [Nat.zero_add] at behind
  rw [chosen, if_pos under, streamid?_eq_some_iff]
  exact ⟨Nat.le_of_lt i.isLt, behind⟩

theorem checkStream_matching (same : c.sessionId = some h.sessionId) {code : StatusCode}
    (failed : checkStream e c h = .error code) : code = .transport ∨ code = .internal := by
  rw [checkStream, if_neg (not_not.mpr same)] at failed
  split at failed
  · cases failed
    exact .inl rfl
  · split_ifs at failed <;> cases failed <;> exact .inr rfl

structure Accepted (e : Env) (i : StreamId) (c : RTSPContext) (h : MessageHeader) (d : RTSPContext)
    (reply : Reply) : Prop where
  status : reply.status = .ok
  writes : ∃ rest, reply.writes = rtspReplyHeader c e.date .ok ++ sessionLine h.sessionId :: rest
  state : d.state = .ready
  session : d.sessionId = some h.sessionId
  fmtctx : ∃ p, d.fmtctx = Function.update c.fmtctx i (some p)

theorem openStream_cases (conf : Conf) (e : Env) (i : StreamId) (c : RTSPContext) (th : TransportField) :
    (openStream conf e i c th).1.state = c.state ∧ ((openStream conf e i c th).2 < 0 ∧
        Function.update (openStream conf e i c th).1.fmtctx i none = Function.update c.fmtctx i none ∨
      ∃ p, (openStream conf e i c th).1.fmtctx = Function.update c.fmtctx i (some p)) := by
  rw [openStream, RTSPContext.setLowerTransport_slot]
  rcases rtpNewAvStream_cases conf e.stream
    { c with lowerTransport := Function.update c.lowerTransport i th.lowerTransport } i _ with
    failed | ⟨_, _, p, -, opened⟩
  · rw [failed]
    exact ⟨rfl, .inl ⟨(by decide : (-1 : Int) < 0), rfl⟩⟩
  · rw [opened, RTSPContext.setEntries_slot]
    exact ⟨rfl, .inr ⟨p, rfl⟩⟩

theorem setupStream_matching (conf : Conf) (e : Env) (i : StreamId) (same : c.sessionId = some h.sessionId) :
    Accepted e i c h (setupStream conf e i c h).1 (setupStream conf e i c h).2 ∨
      ((setupStream conf e i c h).2.status = .transport ∨ (setupStream conf e i c h).2.status = .internal) ∧
        (setupStream conf e i c h).1.sessionId = none ∧ (setupStream conf e i c h).1.state = c.state ∧
        (setupStream conf e i c h).1.fmtctx = Function.update c.fmtctx i none := by
  unfold setupStream
  cases checked : checkStream e c h with
  | error code =>
      dsimp only
      rw [errorSetup_slot]
      exact .inr ⟨checkStream_matching same checked, rfl, rfl, rfl⟩
  | ok th =>
      have session := openStream_session conf e i c th
      obtain ⟨state, opened⟩ := openStream_cases conf e i c th
      dsimp only
      generalize openStream conf e i c th = out at session state opened
      split_ifs with failed
      · rw [errorSetup_slot]
        refine .inr ⟨.inl rfl, rfl, state, ?_⟩
        rcases opened with ⟨-, fmtctx⟩ | ⟨p, fmtctx⟩
        · exact fmtctx
        · exact (congrArg (Function.update · i none) fmtctx).trans (Function.update_idem ..)
      · have opened := opened.resolve_left fun refused => failed refused.1
        exact .inl ⟨rfl, ⟨transportLine th i e ++ [emptyLine], by simp⟩, rfl, session.trans same, opened⟩

structure Answered (lib : Library) (q : RtspRequest) (known : Bytes) (before : StreamId → Option Ptr)
    (a : SessionPhase) (d : RTSPContext) (reply : Reply) : Prop where
  phase : a.Knows d.sessionId (lib.learn known q reply)
  same : known ≠ [] → lib.learn known q reply = known
  told : ∀ i, q = .setup i → reply.status = .ok → lib.learn known q reply ≠ []
  idle : d.state = .idle → d.sessionId = none
  early : q ≠ .play → q ≠ .teardown → d.state = .idle ∨ d.state = .ready
  playing : q = .play → reply.status = .ok → d.state = .playing
  opened : ∀ i : StreamId, q = .setup i → reply.status = .ok → d.fmtctx i ≠ none
  others : ∀ i : StreamId, q ≠ .setup i → before i ≠ none → d.fmtctx i ≠ none

inductive Handles (lib : Library) (q : RtspRequest) (known : Bytes) (before : StreamId → Option Ptr)
    (a : SessionPhase) : Handled → Prop
  | crashed {fault : Fault} : PhaseStep a (q, .error fault) a → Handles lib q known before a (.error fault)
  | answered {b : SessionPhase} {d : RTSPContext} {reply : Reply} : PhaseStep a (q, .ok reply.status) b →
      Answered lib q known before b d reply → Handles lib q known before a (.ok (d, reply))

theorem Accepted.answered {reply : Reply} {rand : Nat × Nat} (standard : lib.Standard conf)
    (accepted : Accepted e i c h d reply) (new : h.sessionId = newSessionId rand)
    (same : known ≠ [] → h.sessionId = known) : Answered lib (.setup i) known c.fmtctx .opened d reply := by
  obtain ⟨status, ⟨rest, writes⟩, state, session, p, fmtctx⟩ := accepted
  have learned : lib.learn known (.setup i) reply = h.sessionId := by
    rw [Library.learn, if_pos status, new, ← standard.sessionOf c e.date rand rest, ← new, ← writes, ← status]
  refine ⟨?_, fun had => learned.trans (same had), fun _ _ _ => ?_, ?_, fun _ _ => .inr state, nofun, ?_, ?_⟩
  · rw [learned]
    exact ⟨session, rand, new⟩
  · rw [learned, new]
    exact newSessionId_ne_nil rand
  · rw [state]
    nofun
  · intro j setup _
    obtain rfl := Fin.ext (RtspRequest.setup.inj setup)
    rw [fmtctx, Function.update_self]
    exact Option.some_ne_none p
  · intro j other held
    have apart : j ≠ i := by
      rintro rfl
      exact other rfl
    rwa [fmtctx, Function.update_of_ne apart]

theorem answered_refused {reply : Reply} {before : StreamId → Option Ptr} (refused : reply.status ≠ .ok)
    (knows : a.Knows none known) (session : d.sessionId = none) (early : d.state = .idle ∨ d.state = .ready)
    (fmtctx : d.fmtctx = Function.update before i none) : Answered lib (.setup i) known before a d reply := by
  have learned : lib.learn known (.setup i) reply = known := if_neg refused
  refine ⟨?_, fun _ => learned, fun _ _ ok => absurd ok refused, fun _ => session, fun _ _ => early, nofun,
    fun _ _ ok => absurd ok refused, ?_⟩
  · rw [learned, session]
    exact knows
  · intro j other held
    have apart : j ≠ i := by
      rintro rfl
      exact other rfl
    rwa [fmtctx, Function.update_of_ne apart]

theorem setupStream_handles {rand : Nat × Nat} (standard : lib.Standard conf)
    (same : c.sessionId = some h.sessionId) (new : h.sessionId = newSessionId rand)
    (early : c.state = .idle ∨ c.state = .ready) (e : Env) (i : StreamId)
    (believed : a = .fresh ∧ known = [] ∨ a = .opened ∧ known = h.sessionId) :
    Handles lib (.setup i) known c.fmtctx a (.ok (setupStream conf e i c h)) := by
  have cases := setupStream_matching conf e i same
  obtain ⟨⟨d, reply⟩, result⟩ : ∃ out, setupStream conf e i c h = out := ⟨_, rfl⟩
  rw [result] at cases ⊢
  rcases cases with accepted | ⟨code, session, state, fmtctx⟩
  · have status : reply.status = .ok := accepted.status
    refine .answered (b := .opened) ?_ (accepted.answered standard new ?_)
    · rw [status]
      refine .accepted ?_
      rcases believed with ⟨rfl, -⟩ | ⟨rfl, -⟩ <;> nofun
    · intro had
      rcases believed with ⟨-, nothing⟩ | ⟨-, known⟩
      · exact absurd nothing had
      · exact known.symm
  · have refused : reply.status ≠ .ok := by
      rcases code with code | code <;> rw [code] <;> nofun
    rw [← state] at early
    rcases believed with ⟨rfl, nothing⟩ | ⟨rfl, known⟩
    · exact .answered (.refused code) (answered_refused (a := .fresh) refused ⟨rfl, nothing⟩ session early fmtctx)
    · refine .answered (.loses code) (answered_refused (a := .lost) refused ⟨rfl, rand, ?_⟩ session early fmtctx)
      exact known.trans new

theorem handle_setup (standard : lib.Standard conf) (knows : a.Knows c.sessionId known)
    (early : c.state = .idle ∨ c.state = .ready) (e : Env) (i : StreamId) :
    Handles lib (.setup i) known c.fmtctx a (handle conf (lib.word known (.setup i)) e c) := by
  let c' : RTSPContext := { c with seq := (lib.word known (.setup i)).header.seq }
  have handled : handle conf (lib.word known (.setup i)) e c = .ok (setupStream conf e i
      (createSession c' (lib.word known (.setup i)).header e.rand).1
      (createSession c' (lib.word known (.setup i)).header e.rand).2) := by
    rw [handle, if_neg (not_not.mpr (standard.protocol ..)), standard.method]
    change rtspCmdSetup _ _ _ _ = _
    have ready : ¬ (c.state ≠ .idle ∧ c.state ≠ .ready) := fun neither => early.elim neither.1 neither.2
    rw [rtspCmdSetup_of_chosen_some (chosen_of_names (standard.stream known i)), if_neg ready]
  rw [handled]
  have named : (lib.word known (.setup i)).header.sessionId = known := standard.sessionId ..
  generalize (lib.word known (.setup i)).header = header at named
  cases a with
  | fresh =>
      obtain ⟨absent, rfl⟩ := knows
      have created : createSession c' header e.rand =
          ({ c' with sessionId := some (newSessionId e.rand) }, { header with sessionId := newSessionId e.rand }) :=
        if_pos ⟨absent, named⟩
      rw [created]
      exact setupStream_handles (c := { c' with sessionId := some (newSessionId e.rand) })
        (h := { header with sessionId := newSessionId e.rand }) standard rfl rfl early e i (.inl ⟨rfl, rfl⟩)
  | opened =>
      obtain ⟨present, rand, new⟩ := knows
      have had : header.sessionId ≠ [] := by
        rw [named, new]
        exact newSessionId_ne_nil rand
      rw [createSession_mismatch had]
      refine setupStream_handles (c := c') standard ?_ (named.trans new) early e i (.inr ⟨rfl, named.symm⟩)
      rw [named]
      exact present
  | lost =>
      obtain ⟨absent, rand, new⟩ := knows
      have had : header.sessionId ≠ [] := by
        rw [named, new]
        exact newSessionId_ne_nil rand
      have other : c'.sessionId ≠ some header.sessionId := by
        change c.sessionId ≠ _
        rw [absent]
        rintro ⟨⟩
      rw [createSession_mismatch had]
      have failed : setupStream conf e i c' header = (errorSetup c' i, rtspReplyError c' e.date .session) := by
        rw [setupStream, show checkStream e c' header = .error .session from if_pos other]
      rw [failed, errorSetup_slot]
      exact .answered .unknown (answered_refused (a := .lost) (by rintro ⟨⟩) ⟨rfl, rand, new⟩ rfl early rfl)

theorem answered_unchanged {reply : Reply} (other : ∀ i, q ≠ .setup i) (knows : a.Knows c.sessionId known)
    (session : d.sessionId = c.sessionId) (fmtctx : d.fmtctx = c.fmtctx) (idle : d.state = .idle → c.sessionId = none)
    (early : q ≠ .play → q ≠ .teardown → d.state = .idle ∨ d.state = .ready)
    (playing : q = .play → reply.status = .ok → d.state = .playing) :
    Answered lib q known c.fmtctx a d reply := by
  have learned : lib.learn known q reply = known := by
    cases q with
    | setup i => exact absurd rfl (other i)
    | describe | play | teardown => rfl
  refine ⟨?_, fun _ => learned, fun i setup => absurd setup (other i), ?_, early, playing,
    fun i setup => absurd setup (other i), ?_⟩
  · rw [learned, session]
    exact knows
  · rw [session]
    exact idle
  · intro i _ held
    rwa [fmtctx]

theorem checkSession_knows (standard : lib.Standard conf) (knows : a.Knows c.sessionId known)
    (whole : q = .play ∨ q = .teardown) : checkSession conf (lib.word known q) c =
      if a = .opened then .ok none else .error .nullSessionId := by
  rw [checkSession, if_neg (not_not.mpr (standard.base known q whole))]
  cases a with
  | opened =>
      rw [knows.1, if_pos rfl]
      exact if_neg fun other => other (standard.sessionId known q).symm
  | fresh | lost =>
      rw [knows.1]
      rfl

theorem handle_whole (standard : lib.Standard conf) (knows : a.Knows c.sessionId known)
    (idle : c.state = .idle → c.sessionId = none) (early : q = .play → c.state = .idle ∨ c.state = .ready)
    (had : known ≠ []) (e : Env) (whole : q = .play ∨ q = .teardown) :
    Handles lib q known c.fmtctx a (handle conf (lib.word known q) e c) := by
  let c' : RTSPContext := { c with seq := (lib.word known q).header.seq }
  have checked := checkSession_knows (c := c') standard knows whole
  rw [handle, if_neg (not_not.mpr (standard.protocol ..)), standard.method]
  by_cases opened : a = .opened
  · rw [if_pos opened] at checked
    obtain rfl := opened
    have present : c.sessionId = some known := knows.1
    have going : c.state ≠ .idle := fun first => by rw [idle first] at present; cases present
    rcases whole with rfl | rfl
    · have ready : ¬ (c'.state ≠ .ready ∧ c'.state ≠ .pause) :=
        fun neither => neither.1 ((early rfl).resolve_left going)
      change Handles lib _ known _ _ (rtspCmdPlay conf (lib.word known .play) e c')
      rw [rtspCmdPlay, playCheck, checked]
      dsimp only
      rw [if_neg ready, playRegistered]
      dsimp only
      split_ifs with failed
      · exact .answered (.played (.inr rfl)) (answered_unchanged (by rintro _ ⟨⟩) knows rfl rfl idle
          (fun other => absurd rfl other) (by rintro _ ⟨⟩))
      · exact .answered (.played (.inl rfl)) (answered_unchanged (by rintro _ ⟨⟩) knows rfl rfl (by rintro ⟨⟩)
          (fun other => absurd rfl other) fun _ _ => rfl)
    · change Handles lib _ known _ _ (rtspCmdTeardown conf (lib.word known .teardown) e c')
      rw [rtspCmdTeardown, checked]
      exact .answered .torn (answered_unchanged (by rintro _ ⟨⟩) knows rfl rfl (by rintro ⟨⟩)
        (fun _ other => absurd rfl other) (by rintro ⟨⟩))
  · rw [if_neg opened] at checked
    obtain rfl : a = .lost := by
      cases a with
      | fresh => exact absurd knows.2 had
      | opened => exact absurd rfl opened
      | lost => rfl
    rcases whole with rfl | rfl
    · change Handles lib _ known _ _ (rtspCmdPlay conf (lib.word known .play) e c')
      rw [rtspCmdPlay, playCheck, checked]
      exact .crashed (.crashed (.inl rfl))
    · change Handles lib _ known _ _ (rtspCmdTeardown conf (lib.word known .teardown) e c')
      rw [rtspCmdTeardown, checked]
      exact .crashed (.crashed (.inr rfl))

theorem handle_describe (standard : lib.Standard conf) (knows : a.Knows c.sessionId known)
    (idle : c.state = .idle → c.sessionId = none) (early : c.state = .idle ∨ c.state = .ready) (e : Env) :
    Handles lib .describe known c.fmtctx a (handle conf (lib.word known .describe) e c) := by
  rw [handle, if_neg (not_not.mpr (standard.protocol ..)), standard.method]
  change Handles lib _ known _ _ (.ok (_, rtspCmdDescribe ..))
  refine .answered (.described ?_)
    (answered_unchanged (by rintro _ ⟨⟩) knows rfl rfl idle (fun _ _ => early) (by rintro ⟨⟩))
  unfold rtspCmdDescribe
  split_ifs
  · exact .inl rfl
  · exact .inr rfl

theorem handle_request (standard : lib.Standard conf) (knows : a.Knows c.sessionId known)
    (idle : c.state = .idle → c.sessionId = none) (early : q ≠ .teardown → c.state = .idle ∨ c.state = .ready)
    (stream : ∀ i, q = .setup i → i < rtspChannelMax) (sent : sends known q = true) (e : Env) :
    Handles lib q known c.fmtctx a (handle conf (lib.word known q) e c) := by
  cases q with
  | describe => exact handle_describe standard knows idle (early nofun) e
  | setup i => exact handle_setup standard knows (early nofun) e ⟨i, stream i rfl⟩
  | play => exact handle_whole standard knows idle (fun _ => early nofun) (of_decide_eq_true sent) e (.inl rfl)
  | teardown => exact handle_whole (q := .teardown) standard knows idle nofun (of_decide_eq_true sent) e (.inr rfl)

end

/-! ## What holds in between -/

def Negotiation.known (s : Negotiation) (lib : Library) : Bytes :=
  s.replies.foldl (fun id p => lib.learn id p.1 p.2) s.sessionId

/-- While the server runs: `asked` is the request that it is to answer, and behind it there may be TEARDOWN. -/
structure Negotiation.Sound (s : Negotiation) (lib : Library) (a : SessionPhase) (asked : Option RtspRequest)
    (torn : Bool) : Prop where
  requests : s.requests = (asked.toList ++ if torn then [RtspRequest.teardown] else []).map fun q =>
    (q, lib.word s.sessionId q)
  plain : asked ≠ some .teardown
  sent : ∀ q, asked = some q → sends s.sessionId q = true
  running : s.client.exitCode = none → torn = false ∧
    asked.toList ++ s.replies.map Prod.fst ++ (if s.unsent then [.play] else []) = s.client.pending.toList ∧
    ∃ sent created closed done, s.client.Running sent created closed done
  media : ∀ entry ∈ s.client.media, entry.2 < rtspChannelMax
  stream : ∀ i, asked = some (.setup i) → i < rtspChannelMax
  torn : torn = true → s.sessionId ≠ []
  named : s.client.sinks ≠ [] → s.sessionId ≠ []
  level : asked ≠ none → s.known lib = s.sessionId
  kept : s.sessionId ≠ [] → s.known lib = s.sessionId
  told : ∀ i reply, (.setup i, reply) ∈ s.replies → reply.status = .ok → s.known lib ≠ []
  phase : a.Knows s.server.sessionId (s.known lib)
  idle : s.server.state = .idle → s.server.sessionId = none
  early : asked ≠ none ∨ s.client.exitCode = none ∧ (∃ q, q ≠ .play ∧ s.client.pending = some q) →
    s.server.state = .idle ∨ s.server.state = .ready
  playing : s.client.exitCode = none →
    (s.client.pending = none ∨ ∃ reply, (.play, reply) ∈ s.replies ∧ reply.status = .ok) → s.server.state = .playing
  opened : s.client.exitCode = none → ∀ i : StreamId,
    (i.val ∈ s.client.sinks ∨ ∃ reply, (.setup i, reply) ∈ s.replies ∧ reply.status = .ok) → s.server.fmtctx i ≠ none

section
variable {conf : Conf} {lib : Library} {s t : Negotiation} {a b : SessionPhase} {asked : Option RtspRequest}
  {torn : Bool} {q : RtspRequest}

theorem Negotiation.Sound.asked_running (sound : s.Sound lib a asked torn) (running : s.client.exitCode = none)
    (waits : asked = some q) : s.replies = [] ∧ s.unsent = false ∧ s.client.pending = some q := by
  obtain ⟨-, same, -⟩ := sound.running running
  rw [waits] at same
  cases pending : s.client.pending with
  | none =>
      rw [pending] at same
      cases same
  | some q' =>
      rw [pending] at same
      obtain ⟨rfl, none_left⟩ := List.cons_eq_cons.mp same
      obtain ⟨silent, sent⟩ := List.append_eq_nil_iff.mp none_left
      exact ⟨List.map_eq_nil_iff.mp silent, by simpa using sent, rfl⟩

theorem Negotiation.Sound.unasked (sound : s.Sound lib a asked torn) (running : s.client.exitCode = none)
    (answered : s.replies ≠ [] ∨ s.unsent = true) : asked = none := by
  cases asked with
  | none => rfl
  | some q =>
      obtain ⟨silent, sent, -⟩ := sound.asked_running running rfl
      rcases answered with replied | refused
      · exact absurd silent replied
      · cases sent.symm.trans refused

theorem Negotiation.Sound.serve (sound : s.Sound lib a (some q) torn) {c : RTSPContext} {reply : Reply}
    (answered : Answered lib q (s.known lib) s.server.fmtctx b c reply) (rest : List (RtspRequest × Request))
    (left : s.requests = (q, lib.word s.sessionId q) :: rest) :
    Negotiation.Sound { s with requests := rest, replies := s.replies ++ [(q, reply)], server := c } lib b none torn := by
  have known : Negotiation.known { s with requests := rest, replies := s.replies ++ [(q, reply)], server := c } lib =
      lib.learn (s.known lib) q reply := List.foldl_append ..
  have level := sound.level (Option.some_ne_none q)
  have plain : q ≠ .teardown := fun same => sound.plain (congrArg some same)
  constructor
  case requests =>
    have all := sound.requests
    rw [left] at all
    exact (List.cons_eq_cons.mp all).2
  case plain => nofun
  case sent => nofun
  case running =>
    intro running
    obtain ⟨nothing, sent, pending⟩ := sound.asked_running running rfl
    obtain ⟨quiet, -, client⟩ := sound.running running
    refine ⟨quiet, ?_, client⟩
    rw [nothing, sent, pending]
    rfl
  case media => exact sound.media
  case stream => nofun
  case torn => exact sound.torn
  case named => exact sound.named
  case level => exact fun waits => absurd rfl waits
  case kept =>
    intro had
    rw [known, answered.same (by rwa [level])]
    exact level
  case told =>
    intro i reply' member ok
    rw [known]
    rcases List.mem_append.mp member with before | now
    · have had := sound.told i reply' before ok
      rwa [answered.same had]
    · obtain ⟨setup, rfl⟩ := Prod.mk.inj (List.mem_singleton.mp now)
      exact answered.told i setup.symm ok
  case phase =>
    rw [known]
    exact answered.phase
  case idle => exact answered.idle
  case early =>
    rintro (waits | ⟨running, q', other, pending'⟩)
    · exact absurd rfl waits
    · obtain ⟨-, -, pending⟩ := sound.asked_running running rfl
      obtain rfl := Option.some.inj (pending.symm.trans pending')
      exact answered.early other plain
  case playing =>
    rintro running (silent | ⟨reply', member, ok⟩)
    · obtain ⟨-, -, pending⟩ := sound.asked_running running rfl
      cases silent.symm.trans pending
    · obtain ⟨nothing, -, -⟩ := sound.asked_running running rfl
      rw [nothing] at member
      obtain ⟨play, rfl⟩ := Prod.mk.inj (List.mem_singleton.mp member)
      exact answered.playing play.symm ok
  case opened =>
    rintro running i (plays | ⟨reply', member, ok⟩)
    · obtain ⟨-, -, pending⟩ := sound.asked_running running rfl
      obtain ⟨-, -, sent, created, closed, done, client⟩ := sound.running running
      have other : q ≠ .setup i := by
        rintro rfl
        exact (client.asking pending).2 plays
      exact answered.others i other (sound.opened running i (.inl plays))
    · obtain ⟨nothing, -, -⟩ := sound.asked_running running rfl
      rw [nothing] at member
      obtain ⟨setup, rfl⟩ := Prod.mk.inj (List.mem_singleton.mp member)
      exact answered.opened i setup.symm ok

theorem Negotiation.Sound.tear (sound : s.Sound lib a none true) {c : RTSPContext} {reply : Reply}
    (answered : Answered lib .teardown (s.known lib) s.server.fmtctx b c reply) :
    Negotiation.Sound { s with requests := [], replies := s.replies ++ [(.teardown, reply)], server := c } lib b none
      false := by
  have known : Negotiation.known { s with requests := [], replies := s.replies ++ [(.teardown, reply)], server := c }
      lib = s.known lib := List.foldl_append ..
  have exited : ¬ s.client.exitCode = none := fun running => absurd (sound.running running).1 (by decide)
  constructor
  case requests => rfl
  case plain => nofun
  case sent => nofun
  case running => exact fun running => absurd running exited
  case media => exact sound.media
  case stream => nofun
  case torn => nofun
  case named => exact sound.named
  case level => exact fun waits => absurd rfl waits
  case kept =>
    rw [known]
    exact sound.kept
  case told =>
    intro i reply' member ok
    rw [known]
    rcases List.mem_append.mp member with before | now
    · exact sound.told i reply' before ok
    · cases List.mem_singleton.mp now
  case phase =>
    rw [known]
    exact answered.phase
  case idle => exact answered.idle
  case early => exact fun waits => absurd (waits.resolve_left fun waits => waits rfl).1 exited
  case playing => exact fun running => absurd running exited
  case opened => exact fun running => absurd running exited

/-! ## What a callback leads to -/

structure Asking (s t : StreamClientState) (sent : List RtspRequest) (asked : Option RtspRequest)
    (torn : Bool) : Prop where
  sent : sent = asked.toList ++ if torn then [.teardown] else []
  plain : asked ≠ some .teardown
  torn : torn = true → s.sinks ≠ [] ∧ t.exitCode ≠ none
  going : asked ≠ none → t.exitCode = none

section
variable {client t : StreamClientState} {l : Callback × Effects} {sent : List RtspRequest} {c : Callback}
  {status : Option StatusCode} {u : Negotiation}

theorem quiet_asking (quiet : responds c = false) (asks : Asks client c t sent) :
    ∃ torn, Asking client t sent none torn ∧ (t.exitCode = none → t.pending = client.pending) := by
  cases asks with
  | quiet _ pending => exact ⟨false, ⟨rfl, nofun, nofun, fun waits => absurd rfl waits⟩, fun _ => pending⟩
  | plays _ => cases quiet
  | next responding => cases quiet.symm.trans responding
  | exits exited =>
      exact ⟨false, ⟨rfl, nofun, nofun, fun waits => absurd rfl waits⟩, fun going => absurd going exited⟩
  | tears plays exited =>
      exact ⟨true, ⟨rfl, nofun, fun _ => ⟨plays, exited⟩, fun waits => absurd rfl waits⟩,
        fun going => absurd going exited⟩

theorem Responds.asking (responding : Responds conf c q status) (running : client.exitCode = none)
    (asks : Asks client c t sent) :
    ∃ asked torn, Asking client t sent asked torn ∧ (t.exitCode = none → t.pending = asked) ∧
      (asked ≠ none → q ≠ .play) ∧
      (t.exitCode = none → t.pending = none → q = .play ∧ status = some .ok) := by
  cases asks with
  | quiet quiet _ => cases responding <;> cases quiet
  | plays silent =>
      refine ⟨none, false, ⟨rfl, nofun, nofun, fun waits => absurd rfl waits⟩, fun _ => silent,
        fun waits => absurd rfl waits, fun _ _ => ?_⟩
      cases responding with
      | play ok => exact ⟨rfl, ok.mp rfl⟩
  | @next _ _ q' _ other going waits plain =>
      refine ⟨some q', false, ⟨rfl, fun torn => plain (Option.some.inj torn), nofun, fun _ => going.trans running⟩,
        fun _ => waits, fun _ => ?_, fun _ silent => ?_⟩
      · rintro rfl
        cases responding with
        | play => exact other _ _ rfl
      · cases waits.symm.trans silent
  | exits exited =>
      exact ⟨none, false, ⟨rfl, nofun, nofun, fun waits => absurd rfl waits⟩, fun going => absurd going exited,
        fun waits => absurd rfl waits, fun going => absurd going exited⟩
  | tears plays exited =>
      exact ⟨none, true, ⟨rfl, nofun, fun _ => ⟨plays, exited⟩, fun waits => absurd rfl waits⟩,
        fun going => absurd going exited, fun waits => absurd rfl waits, fun going => absurd going exited⟩

theorem Responds.ends (responding : Responds conf c .play none) (running : client.exitCode = none)
    (asks : Asks client c t sent) : t.exitCode ≠ none ∧ ∃ torn, Asking client t sent none torn := by
  obtain ⟨asked, torn, asking, pending, first, silent⟩ := responding.asking running asks
  obtain rfl : asked = none := by
    by_contra waits
    exact first waits rfl
  exact ⟨fun going => absurd (silent going (pending going)).2 nofun, torn, asking⟩

variable (lib u) in
theorem Asking.called (asking : Asking client t sent asked torn) (named : torn = true → u.sessionId ≠ []) :
    (u.called lib t sent).requests = u.requests ++
        ((asked.filter (sends u.sessionId)).toList ++ if torn then [RtspRequest.teardown] else []).map
          (fun q => (q, lib.word u.sessionId q)) ∧
      (asked.filter (sends u.sessionId)).toList ++ (if (u.called lib t sent).unsent then [.play] else []) =
        asked.toList := by
  have last : (if torn then [RtspRequest.teardown] else []).filter (sends u.sessionId) =
      if torn then [.teardown] else [] := by
    cases torn with
    | false => rfl
    | true => simp [sends, named rfl]
  have unsent : (u.called lib t sent).unsent = decide (asked = some .play ∧ u.sessionId = []) := by
    rw [Negotiation.called, asking.sent]
    cases torn <;> cases asked <;> simp [eq_comm]
  constructor
  · rw [Negotiation.called, asking.sent, List.filter_append, last, Option.toList_filter]
  · rw [unsent]
    cases waits : asked with
    | none => rfl
    | some q =>
        cases q with
        | describe | setup i => rfl
        | play => by_cases absent : u.sessionId = [] <;> simp [Option.filter, sends, absent]
        | teardown => exact absurd waits asking.plain

end

/-! ## The player goes on -/

theorem Negotiation.Sound.goes_on (sound : s.Sound lib a asked torn) (running : s.client.exitCode = none)
    {l : Callback × Effects} {client : StreamClientState} (step : StreamStep s.client l client)
    (going : client.exitCode = none) : ∃ sent created closed done, client.Running sent created closed done := by
  obtain ⟨-, -, sent, created, closed, done, before⟩ := sound.running running
  obtain ⟨done', now⟩ := (step.kept before).1.resolve_right fun ended => ended.ended going
  exact ⟨_, _, _, done', now⟩

theorem Negotiation.Sound.callback (sound : s.Sound lib a asked torn) (running : s.client.exitCode = none)
    (sent : s.unsent = false) {l : Callback × Effects} {client : StreamClientState} (quiet : responds l.1 = false)
    (step : StreamStep s.client l client) : ∃ torn, (s.called lib client l.2.sent).Sound lib a asked torn := by
  obtain ⟨rfl, same, -⟩ := sound.running running
  obtain ⟨media, sinks⟩ := step.extends
  have undescribed : client.media = s.client.media := by
    refine media.resolve_right ?_
    rintro ⟨subs, describes, -⟩
    rw [describes] at quiet
    cases quiet
  have among (i : Nat) (member : i ∈ client.sinks) : i ∈ s.client.sinks := by
    refine (sinks i member).resolve_right ?_
    rintro ⟨setup, -⟩
    rw [setup] at quiet
    cases quiet
  obtain ⟨torn, asking, pending⟩ := quiet_asking quiet step.asks
  have named : torn = true → s.sessionId ≠ [] := fun gone => sound.named (asking.torn gone).1
  obtain ⟨requests, unsent⟩ := asking.called lib s named
  refine ⟨torn, ?_⟩
  constructor
  case requests =>
    rw [requests, sound.requests]
    simp [Negotiation.called]
  case plain => exact sound.plain
  case sent => exact sound.sent
  case running =>
    intro going
    refine ⟨Bool.eq_false_iff.mpr fun gone => (asking.torn gone).2 going, ?_, sound.goes_on running step going⟩
    rw [sent] at same
    rw [show (s.called lib client l.2.sent).client.pending = s.client.pending from pending going, ← same]
    exact congrArg (asked.toList ++ s.replies.map Prod.fst ++ ·) unsent
  case media =>
    change ∀ entry ∈ client.media, _
    rw [undescribed]
    exact sound.media
  case stream => exact sound.stream
  case torn => exact named
  case named =>
    intro plays
    obtain ⟨i, member⟩ := List.exists_mem_of_ne_nil _ plays
    exact sound.named (List.ne_nil_of_mem (among i member))
  case level => exact sound.level
  case kept => exact sound.kept
  case told => exact sound.told
  case phase => exact sound.phase
  case idle => exact sound.idle
  case early =>
    rintro (waits | ⟨going, q, other, waits⟩)
    · exact sound.early (.inl waits)
    · exact sound.early (.inr ⟨running, q, other, (pending going).symm.trans waits⟩)
  case playing =>
    rintro going (silent | answered)
    · exact sound.playing running (.inl ((pending going).symm.trans silent))
    · exact sound.playing running (.inr answered)
  case opened =>
    rintro going i (plays | answered)
    · exact sound.opened running i (.inl (among i plays))
    · exact sound.opened running i (.inr answered)

theorem Negotiation.Sound.refused (sound : s.Sound lib a asked torn) (running : s.client.exitCode = none)
    (unsent : s.unsent = true) {l : Callback × Effects} {client : StreamClientState}
    (responding : Responds conf l.1 .play none) (step : StreamStep s.client l client) :
    ∃ asked torn, (s.called lib client l.2.sent).Sound lib a asked torn := by
  obtain rfl := sound.unasked running (.inr unsent)
  obtain ⟨rfl, -⟩ := sound.running running
  obtain ⟨media, sinks⟩ := step.extends
  obtain ⟨exited, torn, asking⟩ := responding.ends running step.asks
  have named : torn = true → s.sessionId ≠ [] := fun gone => sound.named (asking.torn gone).1
  obtain ⟨requests, -⟩ := asking.called lib s named
  have gone : ¬ (s.called lib client l.2.sent).client.exitCode = none := exited
  refine ⟨none, torn, ?_⟩
  constructor
  case requests =>
    rw [requests, sound.requests]
    rfl
  case plain => nofun
  case sent => nofun
  case running => exact fun going => absurd going gone
  case media =>
    change ∀ entry ∈ client.media, _
    rcases media with same | ⟨subs, describes, -⟩
    · rw [same]
      exact sound.media
    · rw [describes] at responding
      cases responding
  case stream => nofun
  case torn => exact named
  case named =>
    intro plays
    obtain ⟨i, member⟩ := List.exists_mem_of_ne_nil _ plays
    rcases sinks i member with before | ⟨setup, -⟩
    · exact sound.named (List.ne_nil_of_mem before)
    · rw [setup] at responding
      cases responding
  case level => exact fun waits => absurd rfl waits
  case kept => exact sound.kept
  case told => exact sound.told
  case phase => exact sound.phase
  case idle => exact sound.idle
  case early => exact fun waits => absurd (waits.resolve_left fun waits => waits rfl).1 gone
  case playing => exact fun going => absurd going gone
  case opened => exact fun going => absurd going gone

section
variable {l : Callback × Effects} {client : StreamClientState} {reply : Reply} {rest : List (RtspRequest × Reply)}

theorem Negotiation.Sound.replied (sound : s.Sound lib a asked torn) (running : s.client.exitCode = none)
    (replied : s.replies = (q, reply) :: rest) :
    asked = none ∧ rest = [] ∧ s.known lib = lib.learn s.sessionId q reply := by
  obtain rfl := sound.unasked running (.inl (replied ▸ List.cons_ne_nil _ _))
  obtain ⟨-, same, -⟩ := sound.running running
  rw [replied] at same
  obtain rfl : rest = [] := by
    cases pending : s.client.pending with
    | none =>
        rw [pending] at same
        cases same
    | some q' =>
        rw [pending] at same
        have nothing := (List.append_eq_nil_iff.mp (List.cons_eq_cons.mp same).2).1
        exact List.map_eq_nil_iff.mp nothing
  refine ⟨rfl, rfl, ?_⟩
  rw [Negotiation.known, replied]
  rfl

theorem Negotiation.Sound.learned (sound : s.Sound lib a asked torn) (running : s.client.exitCode = none)
    (replied : s.replies = (q, reply) :: rest) (plays : s.client.sinks ≠ []) :
    lib.learn s.sessionId q reply ≠ [] := by
  have had := sound.named plays
  rwa [← (sound.replied running replied).2.2, sound.kept had]

theorem Responds.new_sink (responding : Responds conf l.1 q (some reply.status))
    (pends : s.client.pending = some q) {i : Nat} (setup : l.1 = .setup true ∧ s.client.pending = some (.setup i)) :
    q = .setup i ∧ reply.status = .ok := by
  obtain rfl := Option.some.inj (pends.symm.trans setup.2)
  rw [setup.1] at responding
  cases responding with
  | setup ok => exact ⟨rfl, Option.some.inj (ok rfl)⟩

theorem Negotiation.Sound.fits (sound : s.Sound lib a asked torn) (few : conf.videoSourceChannels < rtspChannelMax)
    {status : Option StatusCode} (responding : Responds conf l.1 q status) (step : StreamStep s.client l client) :
    ∀ entry ∈ client.media, entry.2 < rtspChannelMax := by
  rcases step.extends.1 with same | ⟨subs, describes, described⟩
  · rw [same]
    exact sound.media
  · rw [describes] at responding
    cases responding with
    | describe short =>
        obtain ⟨-, short⟩ := short subs rfl
        intro entry member
        rw [described] at member
        obtain ⟨-, less, -⟩ := List.mem_zipIdx member
        omega

theorem Negotiation.Sound.response (sound : s.Sound lib a asked torn) (running : s.client.exitCode = none)
    (few : conf.videoSourceChannels < rtspChannelMax) (replied : s.replies = (q, reply) :: rest)
    (pends : s.client.pending = some q) (responding : Responds conf l.1 q (some reply.status))
    (step : StreamStep s.client l client) : ∃ asked torn,
      ({ s with replies := rest, sessionId := lib.learn s.sessionId q reply }.called lib client l.2.sent).Sound lib a
        asked torn := by
  obtain ⟨rfl, rfl, known⟩ := sound.replied running replied
  obtain ⟨rfl, -⟩ := sound.running running
  have sinks := step.extends.2
  have fits := sound.fits few responding step
  obtain ⟨asked, torn, asking, pending, first, plays⟩ := responding.asking running step.asks
  have named : torn = true → lib.learn s.sessionId q reply ≠ [] :=
    fun gone => sound.learned running replied (asking.torn gone).1
  obtain ⟨requests, unsent⟩ := asking.called lib
    { s with replies := [], sessionId := lib.learn s.sessionId q reply } named
  have kept (q' : RtspRequest) (waits : asked.filter (sends (lib.learn s.sessionId q reply)) = some q') :
      asked = some q' ∧ sends (lib.learn s.sessionId q reply) q' = true := Option.filter_eq_some_iff.mp waits
  have stays : asked ≠ none → s.server.state = .idle ∨ s.server.state = .ready := fun waits =>
    sound.early (.inr ⟨running, q, first waits, pends⟩)
  refine ⟨asked.filter (sends (lib.learn s.sessionId q reply)), torn, ?_⟩
  constructor
  case requests =>
    rw [requests, sound.requests]
    rfl
  case plain => exact fun waits => asking.plain (kept _ waits).1
  case sent => exact fun q' waits => (kept q' waits).2
  case running =>
    intro going
    refine ⟨Bool.eq_false_iff.mpr fun gone => (asking.torn gone).2 going, ?_, sound.goes_on running step going⟩
    have waits : client.pending.toList = asked.toList := congrArg Option.toList (pending going)
    rw [← unsent] at waits
    exact (congrArg (· ++ _) (List.append_nil _)).trans waits.symm
  case media => exact fits
  case stream =>
    intro i waits
    obtain ⟨waits, -⟩ := kept _ waits
    have going := asking.going (by rw [waits]; nofun)
    obtain ⟨_, _, _, _, now⟩ := sound.goes_on running step going
    obtain ⟨entry, member, rfl⟩ := List.mem_map.mp (now.asking ((pending going).trans waits)).1
    exact fits entry member
  case torn => exact named
  case named =>
    intro plays
    obtain ⟨i, member⟩ := List.exists_mem_of_ne_nil _ plays
    rcases sinks i member with before | now
    · exact sound.learned running replied (List.ne_nil_of_mem before)
    · obtain ⟨rfl, ok⟩ := responding.new_sink pends now
      have had := sound.told i reply (replied ▸ List.mem_cons_self) ok
      rwa [known] at had
  case level => exact fun _ => rfl
  case kept => exact fun _ => rfl
  case told => nofun
  case phase => exact known ▸ sound.phase
  case idle => exact sound.idle
  case early =>
    rintro (waits | ⟨going, q', other, waits⟩)
    · exact stays fun nothing => waits (by rw [nothing]; rfl)
    · exact stays fun nothing => by cases waits.symm.trans ((pending going).trans nothing)
  case playing =>
    rintro going (silent | ⟨reply', member, -⟩)
    · obtain ⟨rfl, ok⟩ := plays going silent
      exact sound.playing running (.inr ⟨reply, replied ▸ List.mem_cons_self, Option.some.inj ok⟩)
    · cases member
  case opened =>
    rintro going i (plays | ⟨reply', member, -⟩)
    · rcases sinks i plays with before | now
      · exact sound.opened running i (.inl before)
      · obtain ⟨rfl, ok⟩ := responding.new_sink pends now
        exact sound.opened running i (.inr ⟨reply, replied ▸ List.mem_cons_self, ok⟩)
    · cases member

end

theorem Negotiation.sound_start (lib : Library) :
    (Negotiation.start.called lib .start [.describe]).Sound lib .fresh (some .describe) false where
  requests := rfl
  plain := nofun
  sent _ waits := by
    obtain rfl := Option.some.inj waits
    rfl
  running _ := ⟨rfl, rfl, [.describe], [], [], [], List.nodup_nil, ⟨rfl, rfl, rfl⟩, .refl [], .refl [], rfl⟩
  media := nofun
  stream := nofun
  torn := nofun
  named had := absurd rfl had
  level _ := rfl
  kept _ := rfl
  told := nofun
  phase := ⟨rfl, rfl⟩
  idle _ := rfl
  early _ := .inl rfl
  playing _ silent := by
    rcases silent with silent | ⟨reply, member, -⟩
    · cases silent
    · cases member
  opened _ i plays := by
    rcases plays with plays | ⟨reply, member, -⟩
    · cases plays
    · cases member

theorem Negotiation.Sound.handles (sound : s.Sound lib a asked torn) (standard : lib.Standard conf) {r : Request}
    {rest : List (RtspRequest × Request)} (next : s.requests = (q, r) :: rest) (e : Env) :
    Handles lib q (s.known lib) s.server.fmtctx a (handle conf r e s.server) ∧ r = lib.word s.sessionId q ∧
      (asked = some q ∨ asked = none ∧ torn = true ∧ q = .teardown ∧ rest = []) := by
  have all := sound.requests
  rw [next] at all
  cases asked with
  | some q' =>
      obtain ⟨same, -⟩ := List.cons_eq_cons.mp all
      obtain ⟨rfl, rfl⟩ := Prod.mk.inj same
      refine ⟨?_, rfl, .inl rfl⟩
      rw [← sound.level (Option.some_ne_none q)]
      exact handle_request standard sound.phase sound.idle (fun _ => sound.early (.inl (Option.some_ne_none q)))
        (fun i setup => sound.stream i (congrArg some setup))
        (by rw [sound.level (Option.some_ne_none q)]; exact sound.sent q rfl) e
  | none =>
      cases torn with
      | false => cases all
      | true =>
          obtain ⟨same, rfl⟩ := List.cons_eq_cons.mp all
          obtain ⟨rfl, rfl⟩ := Prod.mk.inj same
          refine ⟨?_, rfl, .inr ⟨rfl, rfl, rfl, rfl⟩⟩
          rw [← sound.kept (sound.torn rfl)]
          exact handle_request (q := .teardown) standard sound.phase sound.idle (fun other => absurd rfl other) nofun
            (decide_eq_true (by rw [sound.kept (sound.torn rfl)]; exact sound.torn rfl)) e

structure Negotiation.Agrees (s : Negotiation) (ls : List NegotiationEvent) (a : SessionPhase) : Prop where
  phases : sessionPhases.Run .fresh (ls.filterMap NegotiationEvent.outcome) a
  fault : ∀ fault, s.fault = some fault ↔ ∃ q, (q, .error fault) ∈ ls.filterMap NegotiationEvent.outcome
  session : s.fault = none → (s.server.sessionId.isSome = true ↔ a = .opened)
  streams : s.fault = none → s.client.exitCode = none → ∀ i : StreamId, i.val ∈ s.client.sinks →
    s.server.fmtctx i ≠ none
  playing : s.fault = none → s.client.exitCode = none → s.client.pending = none → s.server.state = .playing

theorem SessionPhase.Knows.opened_iff {session : Option Bytes} {known : Bytes} (knows : a.Knows session known) :
    session.isSome = true ↔ a = .opened := by
  cases a with
  | fresh | lost => simp [knows.1]
  | opened => simp [knows.1]

structure Negotiation.Kept (lib : Library) (ls : List NegotiationEvent) (s : Negotiation) : Prop where
  phases : ∃ a, sessionPhases.Run .fresh (ls.filterMap NegotiationEvent.outcome) a ∧
    (s.fault = none → ∃ asked torn, s.Sound lib a asked torn)
  fault : ∀ fault, s.fault = some fault ↔ ∃ q, (q, .error fault) ∈ ls.filterMap NegotiationEvent.outcome

theorem Negotiation.Kept.called {ls : List NegotiationEvent} (before : s.Kept lib ls) (l : Callback × Effects)
    (same : t.fault = s.fault)
    (sound : s.fault = none → ∀ a asked torn, s.Sound lib a asked torn → ∃ asked torn, t.Sound lib a asked torn) :
    t.Kept lib (ls ++ [.called l]) := by
  have silent : (ls ++ [NegotiationEvent.called l]).filterMap NegotiationEvent.outcome =
      ls.filterMap NegotiationEvent.outcome := by
    rw [List.filterMap_append]
    exact List.append_nil _
  obtain ⟨⟨a, run, here⟩, fault⟩ := before
  refine ⟨⟨a, by rwa [silent], fun going => ?_⟩, by rwa [silent, same]⟩
  rw [same] at going
  obtain ⟨asked, torn, sound'⟩ := here going
  exact sound going a asked torn sound'

theorem NegotiationStep.kept {l : NegotiationEvent} {ls : List NegotiationEvent} (standard : lib.Standard conf)
    (few : conf.videoSourceChannels < rtspChannelMax) (before : s.Kept lib ls) (step : NegotiationStep conf lib s l t) :
    t.Kept lib (ls ++ [l]) := by
  cases step with
  | callback running sent quiet taken =>
      exact before.called _ rfl fun _ _ asked _ sound => ⟨asked, sound.callback running sent quiet taken⟩
  | response running _ replied pends responds taken =>
      exact before.called _ rfl fun _ _ _ _ sound => sound.response running few replied pends responds taken
  | broken _ _ fault =>
      exact before.called _ rfl fun going => absurd going fault
  | refused running unsent responds taken =>
      exact before.called _ rfl fun _ _ _ _ sound => sound.refused running unsent responds taken
  | @serve q r rest e c reply going _ next answered =>
      obtain ⟨⟨a, run, here⟩, fault⟩ := before
      obtain ⟨asked, torn, sound⟩ := here going
      obtain ⟨handles, worded, waits⟩ := sound.handles standard next e
      rw [answered] at handles
      cases handles with
      | @answered b _ _ phase after =>
          have outcomes : (ls ++ [NegotiationEvent.served q (.ok reply.status)]).filterMap NegotiationEvent.outcome =
              ls.filterMap NegotiationEvent.outcome ++ [(q, .ok reply.status)] := List.filterMap_append
          refine ⟨⟨b, ?_, fun _ => ?_⟩, ?_⟩
          · rw [outcomes]
            exact run.append (.cons phase (.nil b))
          · rcases waits with rfl | ⟨rfl, rfl, rfl, rfl⟩
            · exact ⟨none, torn, sound.serve after rest (worded ▸ next)⟩
            · exact ⟨none, false, sound.tear after⟩
          · intro f
            rw [outcomes, fault f]
            simp
  | @crash q r rest e f going _ next failed =>
      obtain ⟨⟨a, run, here⟩, fault⟩ := before
      obtain ⟨asked, torn, sound⟩ := here going
      obtain ⟨handles, -, -⟩ := sound.handles standard next e
      rw [failed] at handles
      cases handles with
      | crashed phase =>
          have outcomes : (ls ++ [NegotiationEvent.served q (.error f)]).filterMap NegotiationEvent.outcome =
              ls.filterMap NegotiationEvent.outcome ++ [(q, .error f)] := List.filterMap_append
          refine ⟨⟨a, ?_, nofun⟩, fun g => ?_⟩
          · rw [outcomes]
            exact run.append (.cons phase (.nil a))
          · rw [outcomes]
            constructor
            · intro same
              obtain rfl := Option.some.inj same
              exact ⟨q, List.mem_append_right _ (List.mem_singleton.mpr rfl)⟩
            · rintro ⟨q', member⟩
              rcases List.mem_append.mp member with earlier | now
              · cases going.symm.trans ((fault g).mpr ⟨q', earlier⟩)
              · cases List.mem_singleton.mp now
                rfl

end

/-- In every run, what the server answers is what the phase of the session allows: it stops only where PLAY or
TEARDOWN comes while there is no session, and never otherwise. While it runs, it has a session in the phase that
says so, and a stream behind each sink of the player, and it is playing when the player has nothing more to ask
for. -/
theorem negotiation_agrees (conf : Conf) (few : conf.videoSourceChannels < rtspChannelMax) (lib : Library)
    (standard : lib.Standard conf) (s : Negotiation) (ls : List NegotiationEvent)
    (run : (negotiation conf lib).Run (Negotiation.start.called lib .start [.describe]) ls s) :
    ∃ a, s.Agrees ls a := by
  have start : (Negotiation.start.called lib .start [.describe]).Kept lib [] := by
    refine ⟨⟨.fresh, .nil _, fun _ => ⟨some .describe, false, Negotiation.sound_start lib⟩⟩, fun fault => ?_⟩
    exact ⟨nofun, fun ⟨_, member⟩ => by cases member⟩
  have step (ls : List NegotiationEvent) (s : Negotiation) (l : NegotiationEvent) (t : Negotiation)
      (before : s.Kept lib ls) (taken : (negotiation conf lib).Step s l t) : t.Kept lib (ls ++ [l]) :=
    NegotiationStep.kept standard few before taken
  have kept : s.Kept lib ls := run.history step [] start
  obtain ⟨⟨a, phases, here⟩, fault⟩ := kept
  refine ⟨a, phases, fault, fun going => ?_, fun going running i plays => ?_, fun going running silent => ?_⟩
  · obtain ⟨asked, torn, sound⟩ := here going
    exact sound.phase.opened_iff
  · obtain ⟨asked, torn, sound⟩ := here going
    exact sound.opened running i (.inl plays)
  · obtain ⟨asked, torn, sound⟩ := here going
    exact sound.playing running (.inl silent)

def isSessionLine (line : Bytes) : Bool := line.take 9 = ascii "Session: "

theorem not_isSessionLine {line : Bytes} {x : UInt8} (first : (line.take 9).head? = some x) (apart : x ≠ 83) :
    ¬ isSessionLine line = true := by
  intro same
  rw [of_decide_eq_true same] at first
  exact apart (Option.some.inj first).symm

def plainLibrary : Library where
  word id q :=
    { method := methodFor q
      url := ascii "rtsp://server:8554/desktop"
      path := Mem.store (fun _ => 0) 0 (ascii "/desktop" ++
        (match q with | .setup i => slash :: channelname i | _ => []) ++ 0 :: [])
      protocol := ascii "RTSP/1.0"
      header := ⟨1, id, [⟨.tcp, 0, 1⟩]⟩ }
  sessionOf reply := (((reply.writes.find? isSessionLine).getD []).drop 9).take 8

theorem plainLibrary_standard : plainLibrary.Standard desktopConf where
  protocol _ _ := rfl
  method _ _ := rfl
  sessionId _ _ := rfl
  base id q whole := by
    rcases whole with rfl | rfl <;> rfl
  stream id i := names_store _ _ []
  sessionOf c date rand rest := by
    have named : isSessionLine (sessionLine (newSessionId rand)) = true := rfl
    have status : ¬ isSessionLine (statusLine .ok) = true := by decide
    have cseq : ¬ isSessionLine (cseqLine c) = true := not_isSessionLine (x := 67) rfl (by decide)
    have dated : ¬ isSessionLine (ascii "Date: " ++ date ++ ascii " GMT\r\n") = true :=
      not_isSessionLine (x := 68) rfl (by decide)
    change (((List.find? _ (statusLine .ok :: cseqLine c :: _ :: sessionLine (newSessionId rand) :: rest)).getD
      []).drop 9).take 8 = _
    rw [List.find?_cons_of_neg status, List.find?_cons_of_neg cseq, List.find?_cons_of_neg dated,
      List.find?_cons_of_pos named]
    rfl

theorem negotiation_agrees_playing : ∃ s ls a,
    (negotiation desktopConf plainLibrary).Run (Negotiation.start.called plainLibrary .start [.describe]) ls s ∧
    s.client.sinks = [0] ∧ s.client.pending = none ∧ s.Agrees ls a := by
  obtain ⟨s, ls, run, sinks, pending⟩ : ∃ s ls,
      (negotiation desktopConf plainLibrary).Run (Negotiation.start.called plainLibrary .start [.describe]) ls s ∧
      s.client.sinks = [0] ∧ s.client.pending = none := by
    have described (media : List MediaSubsession) (same : some [videoSubsession] = some media) :
        some StatusCode.ok = some .ok ∧ media.length ≤ desktopConf.videoSourceChannels + 1 := by
      cases same
      exact ⟨rfl, by decide⟩
    refine ⟨_, _, .cons (.serve (e := obligingEnv) rfl nofun rfl rfl) (.cons
      (.response rfl rfl rfl rfl (.describe described) (.describe rfl)) (.cons
      (.serve (e := obligingEnv) rfl nofun rfl rfl) (.cons
      (.response rfl rfl rfl rfl (.setup fun _ => rfl) (@StreamStep.setup _ 0 true rfl)) (.cons
      (.serve (e := obligingEnv) rfl nofun rfl rfl) (.cons
      (.response rfl rfl rfl rfl (.play (iff_of_true rfl rfl)) (@StreamStep.play _ true false rfl)) (.nil _)))))),
      rfl, rfl⟩
  have few : desktopConf.videoSourceChannels < rtspChannelMax := by decide
  obtain ⟨a, agrees⟩ := negotiation_agrees desktopConf few plainLibrary plainLibrary_standard s ls run
  exact ⟨s, ls, a, run, sinks, pending, agrees⟩

end GamingAnywhere.Rtsp
