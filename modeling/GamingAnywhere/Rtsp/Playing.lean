import GamingAnywhere.Rtsp.Session

namespace GamingAnywhere.Rtsp
open Lib

variable {conf : Conf} {r : Request} {e : Env} {c d : RTSPContext} {reply : Reply}

def Played (c : RTSPContext) : Prop := c.state = .playing ∨ c.state = .pause ∨ c.state = .teardown

def Registers (conf : Conf) (r : Request) (c : RTSPContext) : Prop :=
  r.protocol = ascii "RTSP/1.0" ∧ r.method = .play ∧ playCheck conf r c = .ok none

/-- The handler of PLAY is what the server does in its two steps. -/
theorem handle_play (registers : Registers conf r c) :
    handle conf r e c =
      .ok (playRegistered r e { c with seq := r.header.seq } e.registerClient) := by
  obtain ⟨protocol, method, check⟩ := registers
  have check : playCheck conf r { c with seq := r.header.seq } = .ok none := check
  rw [handle, if_neg (not_not.mpr protocol), method]
  simp only [rtspCmdPlay, check]

theorem rtspCmdSetup_refused (answered : rtspCmdSetup conf r e c = .ok (d, reply))
    (idle : c.state ≠ .idle) (ready : c.state ≠ .ready) : d = c := by
  rcases rtspCmdSetup_cases answered with ⟨-, same, -⟩ | ⟨i, reached, -⟩
  · exact same
  · rw [reachesStream, if_neg fun h => h.2.elim idle ready] at reached
    cases reached

theorem handle_streams (answered : handle conf r e c = .ok (d, reply)) (idle : c.state ≠ .idle)
    (ready : c.state ≠ .ready) : SameStreams c d := by
  by_cases protocol : r.protocol = ascii "RTSP/1.0"
  · cases compares : r.method.comparesSession with
    | true =>
        have same := ((handle_comparing protocol compares).answered answered).2.1
        exact ⟨same.lowerTransport, same.fmtctx, same.stream, same.encoder⟩
    | false =>
        rw [handle, if_neg (not_not.mpr protocol)] at answered
        cases method : r.method <;> rw [method] at answered compares
        case setup =>
          obtain rfl := rtspCmdSetup_refused answered idle ready
          exact ⟨rfl, rfl, rfl, rfl⟩
        case describe | options | unknown =>
          cases answered
          exact ⟨rfl, rfl, rfl, rfl⟩
        case play | pause | teardown => cases compares
  · rw [handle, if_pos protocol] at answered
    cases answered
    exact ⟨rfl, rfl, rfl, rfl⟩

theorem Played.not_idle (played : Played c) : c.state ≠ .idle := by
  rcases played with state | state | state <;> rw [state] <;> nofun

theorem Played.not_ready (played : Played c) : c.state ≠ .ready := by
  rcases played with state | state | state <;> rw [state] <;> nofun

theorem handle_played (answered : handle conf r e c = .ok (d, reply)) (played : Played c)
    (registers : ¬ Registers conf r c) : Played d := by
  by_cases protocol : r.protocol = ascii "RTSP/1.0"
  · rw [handle, if_neg (not_not.mpr protocol)] at answered
    cases method : r.method <;> rw [method] at answered
    case describe | options | unknown =>
      cases answered
      exact played
    case setup =>
      obtain rfl := rtspCmdSetup_refused answered played.not_idle played.not_ready
      exact played
    case play =>
      have unregistered : playCheck conf r { c with seq := r.header.seq } ≠ .ok none :=
        fun check => registers ⟨protocol, method, check⟩
      simp only [rtspCmdPlay] at answered
      split at answered
      · cases answered
      · cases answered
        exact played
      · exact absurd ‹_› unregistered
    case pause =>
      simp only [rtspCmdPause] at answered
      split at answered
      · cases answered
      · cases answered
        exact played
      · split_ifs at answered
        · cases answered
          exact played
        · cases answered
          exact .inr (.inl rfl)
    case teardown =>
      simp only [rtspCmdTeardown] at answered
      split at answered
      · cases answered
      · cases answered
        exact played
      · cases answered
        exact .inr (.inr rfl)
  · rw [handle, if_pos protocol] at answered
    cases answered
    exact .inr (.inr rfl)

theorem playCheck_state (check : playCheck conf r c = .ok none) :
    c.state = .ready ∨ c.state = .pause := by
  unfold playCheck at check
  split at check
  · cases check
  · cases check
  · split at check
    · cases check
    · rename_i state
      by_cases ready : c.state = .ready
      · exact .inl ready
      · exact .inr (not_not.mp fun pause => state ⟨ready, pause⟩)

theorem handle_keeps_played (answered : handle conf r e c = .ok (d, reply)) (played : Played c) :
    Played d := by
  by_cases registers : Registers conf r c
  · rw [handle_play registers, playRegistered] at answered
    split_ifs at answered
    · cases answered
      exact played
    · cases answered
      exact .inl rfl
  · exact handle_played answered played registers

/-! ## The session of a client that plays -/

def HasSession (c : RTSPContext) : Prop :=
  c.state = .playing ∨ c.state = .pause → c.sessionId ≠ none

theorem rtspCmdSetup_hasSession (answered : rtspCmdSetup conf r e c = .ok (d, reply))
    (session : HasSession c) : HasSession d := by
  rcases rtspCmdSetup_cases answered with ⟨-, rfl, -⟩ | ⟨i, reached, result⟩
  · exact session
  · intro plays
    rcases setupStream_cases conf e i (createSession c r.header e.rand).1
      (createSession c r.header e.rand).2 with ⟨-, created⟩ | ⟨-, context⟩
    · rw [← result] at created
      rw [created]
      nofun
    · rw [← result] at context
      have state : d.state = c.state := by
        rw [show d = _ from context, errorSetup_state, assign_state]
        exact (createSession_streams c r.header e.rand).2
      rw [reachesStream] at reached
      split_ifs at reached with early
      rw [state] at plays
      rcases early.2 with idle | ready
      · simp [idle] at plays
      · simp [ready] at plays

theorem handle_hasSession (answered : handle conf r e c = .ok (d, reply)) (session : HasSession c) :
    HasSession d := by
  by_cases protocol : r.protocol = ascii "RTSP/1.0"
  · cases compares : r.method.comparesSession with
    | true =>
        have comparing : Comparing conf r e { c with seq := r.header.seq } (handle conf r e c) :=
          handle_comparing protocol compares
        rcases checkSession_cases conf r { c with seq := r.header.seq } with
          ⟨check, -⟩ | ⟨check, -⟩ | ⟨check, same⟩
        · rw [comparing.fault check] at answered
          cases answered
        · rw [comparing.refused check] at answered
          cases answered
          exact session
        · intro
          rw [(comparing.answered answered).1, same]
          exact Option.some_ne_none _
    | false =>
        rw [handle, if_neg (not_not.mpr protocol)] at answered
        cases method : r.method <;> rw [method] at answered compares
        case setup => exact rtspCmdSetup_hasSession answered session
        case describe | options | unknown =>
          cases answered
          exact session
        case play | pause | teardown => cases compares
  · rw [handle, if_pos protocol] at answered
    cases answered
    intro plays
    rcases plays with state | state <;> cases state

theorem rtspserver_hasSession (conf : Conf) (c : RTSPContext) (requests : List (Request × Env))
    (session : HasSession c) : ∀ ev ∈ rtspserver conf c requests, HasSession ev.before := by
  induction requests generalizing c with
  | nil => simp [rtspserver]
  | cons first rest ih =>
      obtain ⟨r, e⟩ := first
      rw [rtspserver, List.forall_mem_cons]
      refine ⟨session, ?_⟩
      cases answered : handle conf r e c with
      | error fault => simp
      | ok answer =>
          dsimp only
          split_ifs
          · simp
          · exact ih answer.1 (handle_hasSession answered session)

/-! ## Answers -/

theorem handle_answers (session : c.sessionId ≠ none) :
    ∃ d reply, handle conf r e c = .ok (d, reply) := by
  by_cases protocol : r.protocol = ascii "RTSP/1.0"
  · cases compares : r.method.comparesSession with
    | true =>
        have comparing : Comparing conf r e { c with seq := r.header.seq } (handle conf r e c) :=
          handle_comparing protocol compares
        rcases checkSession_cases conf r { c with seq := r.header.seq } with
          ⟨-, -, null⟩ | ⟨check, -⟩ | ⟨check, -⟩
        · exact absurd null session
        · exact ⟨_, _, comparing.refused check⟩
        · obtain ⟨d, reply, passed, -⟩ := comparing.passed check
          exact ⟨d, reply, passed⟩
    | false =>
        rw [handle, if_neg (not_not.mpr protocol)]
        cases method : r.method <;> rw [method] at compares
        case setup => exact rtspCmdSetup_answers ..
        case describe | options | unknown => exact ⟨_, _, rfl⟩
        case play | pause | teardown => cases compares
  · rw [handle, if_pos protocol]
    exact ⟨_, _, rfl⟩

def Reply.Begins (reply : Reply) : Prop := ∃ left, reply.writes = statusLine reply.status :: left

theorem rtspReplyError_begins (c : RTSPContext) (date : Bytes) (code : StatusCode) :
    (rtspReplyError c date code).Begins := ⟨_, rfl⟩

theorem replySession_begins (c : RTSPContext) (r : Request) (e : Env) :
    (replySession c r e).Begins := ⟨_, rfl⟩

theorem setupStream_begins (conf : Conf) (e : Env) (k : Nat) (c : RTSPContext) (h : MessageHeader) :
    (setupStream conf e k c h).2.Begins := by
  rw [setupStream]
  split
  · exact rtspReplyError_begins ..
  · dsimp only
    split_ifs
    · exact rtspReplyError_begins ..
    · exact ⟨_, rfl⟩

theorem playRegistered_begins (r : Request) (e : Env) (c : RTSPContext) (ret : Int) :
    (playRegistered r e c ret).2.Begins := by
  rw [playRegistered]
  split_ifs
  · exact rtspReplyError_begins ..
  · exact replySession_begins ..

theorem rtspCmdSetup_begins (answered : rtspCmdSetup conf r e c = .ok (d, reply)) :
    reply.Begins := by
  unfold rtspCmdSetup at answered
  split at answered
  · cases answered
    exact rtspReplyError_begins ..
  · split at answered
    · cases answered
      exact rtspReplyError_begins ..
    · rename_i streamid _
      split_ifs at answered with state
      · cases answered
        exact rtspReplyError_begins ..
      · have begins := setupStream_begins conf e streamid
          (createSession c r.header e.rand).1 (createSession c r.header e.rand).2
        rwa [Except.ok.inj answered] at begins

theorem rtspCmdPlay_begins (answered : rtspCmdPlay conf r e c = .ok (d, reply)) :
    reply.Begins := by
  unfold rtspCmdPlay at answered
  split at answered
  · cases answered
  · cases answered
    exact rtspReplyError_begins ..
  · have begins := playRegistered_begins r e c e.registerClient
    rwa [Except.ok.inj answered] at begins

theorem rtspCmdPause_begins (answered : rtspCmdPause conf r e c = .ok (d, reply)) :
    reply.Begins := by
  unfold rtspCmdPause at answered
  split at answered
  · cases answered
  · cases answered
    exact rtspReplyError_begins ..
  · split_ifs at answered <;> cases answered
    · exact rtspReplyError_begins ..
    · exact replySession_begins ..

theorem rtspCmdTeardown_begins (answered : rtspCmdTeardown conf r e c = .ok (d, reply)) :
    reply.Begins := by
  unfold rtspCmdTeardown at answered
  split at answered
  · cases answered
  · cases answered
    exact rtspReplyError_begins ..
  · cases answered
    exact replySession_begins ..

theorem rtspCmdDescribe_begins (conf : Conf) (r : Request) (e : Env) (c : RTSPContext) :
    (rtspCmdDescribe conf r e c).Begins := by
  unfold rtspCmdDescribe
  split
  · exact rtspReplyError_begins ..
  · exact ⟨_, rfl⟩

theorem handle_begins (answered : handle conf r e c = .ok (d, reply)) : reply.Begins := by
  by_cases protocol : r.protocol = ascii "RTSP/1.0"
  · rw [handle, if_neg (not_not.mpr protocol)] at answered
    cases method : r.method <;> rw [method] at answered
    case setup => exact rtspCmdSetup_begins answered
    case play => exact rtspCmdPlay_begins answered
    case pause => exact rtspCmdPause_begins answered
    case teardown => exact rtspCmdTeardown_begins answered
    case describe =>
      cases answered
      exact rtspCmdDescribe_begins ..
    case options =>
      cases answered
      exact ⟨_, rfl⟩
    case unknown =>
      cases answered
      exact rtspReplyError_begins ..
  · rw [handle, if_pos protocol] at answered
    cases answered
    exact rtspReplyError_begins ..

end GamingAnywhere.Rtsp
