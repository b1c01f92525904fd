import GamingAnywhere.Rtsp.Setup

namespace GamingAnywhere.Rtsp
open Lib

variable {conf : Conf} {r : Request} {e : Env} {c d : RTSPContext}

/-! ## The handlers that compare -/

structure Comparing (conf : Conf) (r : Request) (e : Env) (c : RTSPContext) (out : Handled) :
    Prop where
  fault : ∀ {fault}, checkSession conf r c = .error fault → out = .error fault
  refused : ∀ {code}, checkSession conf r c = .ok (some code) →
    out = .ok (c, rtspReplyError c e.date code)
  passed : checkSession conf r c = .ok none →
    ∃ d reply, out = .ok (d, reply) ∧ d.sessionId = c.sessionId ∧ SameStreams c d

theorem rtspCmdPlay_comparing (conf : Conf) (r : Request) (e : Env) (c : RTSPContext) :
    Comparing conf r e c (rtspCmdPlay conf r e c) where
  fault h := by rw [rtspCmdPlay, playCheck, h]
  refused h := by rw [rtspCmdPlay, playCheck, h]
  passed h := by
    rw [rtspCmdPlay, playCheck, h]
    dsimp only
    split_ifs
    · exact ⟨c, _, rfl, rfl, .refl c⟩
    · rw [playRegistered]
      split_ifs
      · exact ⟨c, _, rfl, rfl, .refl c⟩
      · exact ⟨_, _, rfl, rfl, ⟨rfl, rfl, rfl, rfl⟩⟩

theorem rtspCmdPause_comparing (conf : Conf) (r : Request) (e : Env) (c : RTSPContext) :
    Comparing conf r e c (rtspCmdPause conf r e c) where
  fault h := by rw [rtspCmdPause, h]
  refused h := by rw [rtspCmdPause, h]
  passed h := by
    rw [rtspCmdPause, h]
    dsimp only
    split_ifs
    · exact ⟨c, _, rfl, rfl, .refl c⟩
    · exact ⟨_, _, rfl, rfl, ⟨rfl, rfl, rfl, rfl⟩⟩

theorem rtspCmdTeardown_comparing (conf : Conf) (r : Request) (e : Env) (c : RTSPContext) :
    Comparing conf r e c (rtspCmdTeardown conf r e c) where
  fault h := by rw [rtspCmdTeardown, h]
  refused h := by rw [rtspCmdTeardown, h]
  passed h := by
    rw [rtspCmdTeardown, h]
    exact ⟨_, _, rfl, rfl, ⟨rfl, rfl, rfl, rfl⟩⟩

theorem checkSession_cases (conf : Conf) (r : Request) (c : RTSPContext) :
    (checkSession conf r c = .error .nullSessionId ∧ UnderObject conf r.path ∧ c.sessionId = none) ∨
      (checkSession conf r c = .ok (some .session) ∧ (UnderObject conf r.path → c.sessionId ≠ none)) ∨
      (checkSession conf r c = .ok none ∧ c.sessionId = some r.header.sessionId) := by
  unfold checkSession
  by_cases inside : UnderObject conf r.path
  · rw [if_neg (not_not.mpr inside)]
    cases session : c.sessionId with
    | none => exact .inl ⟨rfl, inside, rfl⟩
    | some id =>
        by_cases same : id = r.header.sessionId
        · exact .inr (.inr ⟨if_neg (not_not.mpr same), congrArg some same⟩)
        · exact .inr (.inl ⟨if_pos same, fun _ => nofun⟩)
  · rw [if_pos inside]
    exact .inr (.inl ⟨rfl, fun within => absurd within inside⟩)

theorem Comparing.null_iff {out : Handled} (comparing : Comparing conf r e c out) :
    out = .error .nullSessionId ↔ UnderObject conf r.path ∧ c.sessionId = none := by
  rcases checkSession_cases conf r c with ⟨check, null⟩ | ⟨check, present⟩ | ⟨check, same⟩
  · rw [comparing.fault check]
    exact ⟨fun _ => null, fun _ => rfl⟩
  · rw [comparing.refused check]
    exact ⟨nofun, fun null => absurd null.2 (present null.1)⟩
  · obtain ⟨_, _, result, -⟩ := comparing.passed check
    rw [result, same]
    exact ⟨nofun, nofun⟩

theorem Comparing.answered {out : Handled} (comparing : Comparing conf r e c out) {reply : Reply}
    (answered : out = .ok (d, reply)) :
    d.sessionId = c.sessionId ∧ SameStreams c d ∧
      (c.sessionId ≠ some r.header.sessionId → reply.status ≠ .ok) := by
  rcases checkSession_cases conf r c with ⟨check, -⟩ | ⟨check, -⟩ | ⟨check, same⟩
  · rw [comparing.fault check] at answered
    cases answered
  · rw [comparing.refused check] at answered
    cases answered
    exact ⟨rfl, .refl _, fun _ => nofun⟩
  · obtain ⟨_, _, result, session, streams⟩ := comparing.passed check
    rw [result] at answered
    cases answered
    exact ⟨session, streams, fun other => absurd same other⟩

/-! ## One request -/

def Method.comparesSession : Method → Bool
  | .play | .pause | .teardown => true
  | _ => false

def Compares (conf : Conf) (r : Request) : Prop :=
  r.protocol = ascii "RTSP/1.0" ∧ r.method.comparesSession = true ∧ UnderObject conf r.path

/-- The request names a session that the connection does not have. A SETUP that names none asks for a
new one. -/
def MissingSession (c : RTSPContext) (r : Request) : Prop :=
  (r.method.comparesSession = true ∨ r.method = .setup ∧ r.header.sessionId ≠ []) ∧
    c.sessionId ≠ some r.header.sessionId

structure SessionSafe (ev : Event) : Prop where
  compared : ev.handled ≠ .error .nullSessionId
  missing : MissingSession ev.before ev.request →
    ∃ d reply, ev.handled = .ok (d, reply) ∧ reply.status ≠ .ok

theorem rtspCmdSetup_not_null (conf : Conf) (r : Request) (e : Env) (c : RTSPContext) :
    rtspCmdSetup conf r e c ≠ .error .nullSessionId := by
  obtain ⟨d, reply, answered⟩ := rtspCmdSetup_answers conf r e c
  rw [answered]
  nofun

theorem handle_comparing (protocol : r.protocol = ascii "RTSP/1.0")
    (compares : r.method.comparesSession = true) :
    Comparing conf r e { c with seq := r.header.seq } (handle conf r e c) := by
  rw [handle, if_neg (not_not.mpr protocol)]
  cases method : r.method with
  | play => exact rtspCmdPlay_comparing conf r e _
  | pause => exact rtspCmdPause_comparing conf r e _
  | teardown => exact rtspCmdTeardown_comparing conf r e _
  | _ => simp [method, Method.comparesSession] at compares

theorem handle_null_iff :
    handle conf r e c = .error .nullSessionId ↔ Compares conf r ∧ c.sessionId = none := by
  by_cases protocol : r.protocol = ascii "RTSP/1.0"
  · cases compares : r.method.comparesSession with
    | true =>
        rw [(handle_comparing protocol compares).null_iff, Compares]
        exact ⟨fun h => ⟨⟨protocol, compares, h.1⟩, h.2⟩, fun h => ⟨h.1.2.2, h.2⟩⟩
    | false =>
        refine ⟨fun fault => ?_, fun h => by rw [h.1.2.1] at compares; cases compares⟩
        rw [handle, if_neg (not_not.mpr protocol)] at fault
        cases method : r.method <;> rw [method] at fault compares
        case setup => exact absurd fault (rtspCmdSetup_not_null conf r e _)
        case describe | options | unknown => cases fault
        case play | pause | teardown => cases compares
  · rw [handle, if_pos protocol]
    exact ⟨nofun, fun h => absurd h.1.1 protocol⟩

def sessionAfter (isOpen : Bool) (ev : Event) : Bool :=
  match ev.request.method, ev.handled with
  | .setup, .ok (_, reply) =>
      match reply.status with
      | .ok => true
      | .session | .transport | .internal => false
      | _ => isOpen
  | _, _ => isOpen

theorem errorSetup_sessionId (c : RTSPContext) (k : Nat) : (errorSetup c k).sessionId = none :=
  rfl

theorem setupStream_mismatch (k : Nat) {h : MessageHeader}
    (other : c.sessionId ≠ some h.sessionId) : (setupStream conf e k c h).2.status = .session := by
  have check : checkStream e c h = .error .session := if_pos other
  rw [setupStream, check]
  rfl

theorem createSession_mismatch {h : MessageHeader} (named : h.sessionId ≠ []) (rand : Nat × Nat) :
    createSession c h rand = (c, h) := if_neg fun both => named both.2

theorem rtspCmdSetup_session {reply : Reply} (answered : rtspCmdSetup conf r e c = .ok (d, reply)) :
    (d.sessionId.isSome =
        match reply.status with
        | .ok => true
        | .session | .transport | .internal => false
        | _ => c.sessionId.isSome) ∧
      (r.header.sessionId ≠ [] → c.sessionId ≠ some r.header.sessionId → reply.status ≠ .ok) := by
  rcases rtspCmdSetup_cases answered with ⟨-, rfl, status⟩ | ⟨k, -, result⟩
  · rcases status with status | status | status <;> rw [status] <;> exact ⟨rfl, fun _ _ => nofun⟩
  · constructor
    · rcases setupStream_cases conf e k (createSession c r.header e.rand).1
        (createSession c r.header e.rand).2 with ⟨status, session⟩ | ⟨status, context⟩
      · rw [← result] at status session
        dsimp only at status session
        rw [status, session]
        rfl
      · rw [← result] at status context
        dsimp only at status context
        rw [context, errorSetup_sessionId]
        rcases status with status | status | status <;> rw [status] <;> rfl
    · intro named other
      rw [createSession_mismatch named] at result
      have status : (setupStream conf e k c r.header).2.status = .session :=
        setupStream_mismatch k other
      rw [← result] at status
      rw [status]
      nofun

theorem handle_session {reply : Reply} (answered : handle conf r e c = .ok (d, reply)) :
    d.sessionId.isSome = sessionAfter c.sessionId.isSome ⟨r, c, handle conf r e c⟩ := by
  rw [sessionAfter, answered]
  by_cases protocol : r.protocol = ascii "RTSP/1.0"
  · cases compares : r.method.comparesSession with
    | true =>
        have kept := ((handle_comparing protocol compares).answered answered).1
        rw [kept]
        cases method : r.method <;> rw [method] at compares
        case setup => cases compares
    | false =>
        rw [handle, if_neg (not_not.mpr protocol)] at answered
        cases method : r.method <;> rw [method] at answered compares
        case setup => exact (rtspCmdSetup_session answered).1
        case describe | options | unknown =>
          cases answered
          rfl
        case play | pause | teardown => cases compares
  · rw [handle, if_pos protocol] at answered
    cases answered
    cases r.method <;> rfl

theorem handle_missing {reply : Reply} (answered : handle conf r e c = .ok (d, reply))
    (missing : MissingSession c r) : reply.status ≠ .ok := by
  by_cases protocol : r.protocol = ascii "RTSP/1.0"
  · rcases missing with ⟨compares | ⟨setup, named⟩, other⟩
    · exact ((handle_comparing protocol compares).answered answered).2.2 other
    · rw [handle, if_neg (not_not.mpr protocol), setup] at answered
      exact (rtspCmdSetup_session answered).2 named other
  · rw [handle, if_pos protocol] at answered
    cases answered
    nofun

theorem sessionSafe_iff (conf : Conf) (r : Request) (e : Env) (c : RTSPContext) :
    SessionSafe ⟨r, c, handle conf r e c⟩ ↔ (Compares conf r → c.sessionId.isSome = true) := by
  have null_iff : handle conf r e c = .error .nullSessionId ↔
      Compares conf r ∧ c.sessionId = none := handle_null_iff
  constructor
  · intro safe compares
    by_contra absent
    exact safe.compared (null_iff.mpr ⟨compares, Option.not_isSome_iff_eq_none.mp absent⟩)
  · intro present
    have compared : handle conf r e c ≠ .error .nullSessionId := by
      intro fault
      obtain ⟨compares, absent⟩ := null_iff.mp fault
      have := present compares
      simp [absent] at this
    refine ⟨compared, fun missing => ?_⟩
    cases result : handle conf r e c with
    | error fault =>
        cases fault
        exact absurd result compared
    | ok answer => exact ⟨answer.1, answer.2, rfl, handle_missing result missing⟩

/-! ## A whole connection -/

/-- PLAY, PAUSE and TEARDOWN come only while the last SETUP that was accepted or refused for its
session, its transport or its stream was accepted. -/
def Admissible (conf : Conf) : Bool → List Event → Prop
  | _, [] => True
  | isOpen, ev :: rest =>
      (Compares conf ev.request → isOpen = true) ∧ Admissible conf (sessionAfter isOpen ev) rest

theorem admissible_cons {isOpen : Bool} {ev : Event} {rest : List Event} :
    Admissible conf isOpen (ev :: rest) ↔
      (Compares conf ev.request → isOpen = true) ∧
        Admissible conf (sessionAfter isOpen ev) rest := Iff.rfl

theorem rtspserver_safe_iff (conf : Conf) (c : RTSPContext) (requests : List (Request × Env)) :
    (∀ ev ∈ rtspserver conf c requests, SessionSafe ev) ↔
      Admissible conf c.sessionId.isSome (rtspserver conf c requests) := by
  induction requests generalizing c with
  | nil => simp [rtspserver, Admissible]
  | cons first rest ih =>
      obtain ⟨r, e⟩ := first
      rw [rtspserver, List.forall_mem_cons, admissible_cons, sessionSafe_iff conf r e c]
      refine and_congr_right fun _ => ?_
      cases answered : handle conf r e c with
      | error fault => simp [Admissible]
      | ok answer =>
          have session := handle_session answered
          rw [answered] at session
          rw [← session]
          dsimp only
          split_ifs
          · simp [Admissible]
          · exact ih answer.1

theorem rtspserver_session_safe_iff (conf : Conf) (requests : List (Request × Env)) :
    (∀ ev ∈ rtspserver conf .start requests, SessionSafe ev) ↔
      Admissible conf false (rtspserver conf .start requests) :=
  rtspserver_safe_iff conf .start requests

theorem playWithoutSetup_compares_null :
    ¬ ∀ (conf : Conf) (requests : List (Request × Env)), (∀ request ∈ requests,
      UnderObject conf request.1.path) → ∀ ev ∈ rtspserver conf .start requests, SessionSafe ev := by
  intro safe
  have served := safe desktopConf [(desktopRequest .play (ascii "12345678"), obligingEnv)]
    (by decide +kernel) _ List.mem_cons_self
  exact served.compared rfl

end GamingAnywhere.Rtsp
