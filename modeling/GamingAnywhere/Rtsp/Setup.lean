import GamingAnywhere.Rtsp.Commands

namespace GamingAnywhere.Rtsp
open Lib

variable {conf : Conf} {r : Request} {e : Env} {c d : RTSPContext} {i : StreamId}

/-! ## Opening a stream -/

theorem rtpNewAvStream_cases (conf : Conf) (e : StreamEnv) (c : RTSPContext) (k codecid : Nat) :
    rtpNewAvStream conf e c k codecid = (c, -1) ∨
      ∃ encoder stream fmtctx, c.fmtctxAt k = none ∧ (rtpNewAvStream conf e c k codecid).1 =
        c.setEntries k (some fmtctx) (some stream) (some encoder) := by
  unfold rtpNewAvStream
  by_cases fresh : c.fmtctxAt k = none
  · split
    · exact .inl rfl
    · split
      · exact .inl rfl
      · split
        · exact .inl rfl
        · split
          · exact .inl rfl
          · split
            · exact .inl rfl
            · split
              · exact .inl rfl
              · split
                · exact .inl rfl
                · split
                  · exact .inl rfl
                  · rename_i fmtctx _ _ _ stream _ _ encoder _
                    dsimp only
                    split <;> exact .inr ⟨encoder, stream, fmtctx, fresh, rfl⟩
  · simp only [fresh, ne_eq, not_false_eq_true, if_true, ite_self, true_or]

theorem errorSetup_rtpNewAvStream (conf : Conf) (e : StreamEnv) (c : RTSPContext) (k codecid : Nat) :
    errorSetup (rtpNewAvStream conf e c k codecid).1 k = errorSetup c k := by
  rcases rtpNewAvStream_cases conf e c k codecid with same | ⟨encoder, stream, fmtctx, -, opened⟩
  · rw [same]
  · rw [opened]
    simp only [errorSetup, RTSPContext.setEntries_idem]

/-! ## The part behind the session -/

/-- The transport that is written to `lower_transport` before the stream is opened; `none` where the
request fails earlier. -/
def assignedTransport (e : Env) (c : RTSPContext) (h : MessageHeader) : Option LowerTransport :=
  (checkStream e c h).toOption.map TransportField.lowerTransport

def assign (c : RTSPContext) (k : Nat) (transport : Option LowerTransport) : RTSPContext :=
  transport.elim c (c.setLowerTransport k)

theorem assign_state (c : RTSPContext) (k : Nat) (transport : Option LowerTransport) :
    (assign c k transport).state = c.state := by
  cases transport with
  | none => rfl
  | some t => exact RTSPContext.state_setLowerTransport c k t

theorem errorSetup_state (c : RTSPContext) (k : Nat) : (errorSetup c k).state = c.state :=
  RTSPContext.state_setEntries c k none none none

theorem errorSetup_slot (c : RTSPContext) (i : StreamId) :
    errorSetup c i = { c with sessionId := none,
                              encoder := Function.update c.encoder i none,
                              stream := Function.update c.stream i none,
                              fmtctx := Function.update c.fmtctx i none } := by
  rw [errorSetup, RTSPContext.setEntries_slot]

theorem checkStream_error {h : MessageHeader} {code : StatusCode}
    (failed : checkStream e c h = .error code) :
    code = .session ∨ code = .transport ∨ code = .internal := by
  unfold checkStream at failed
  split at failed
  · cases failed
    exact .inl rfl
  · split at failed
    · cases failed
      exact .inr (.inl rfl)
    · split_ifs at failed <;> cases failed <;> exact .inr (.inr rfl)

theorem checkStream_ok {h : MessageHeader} {th : TransportField}
    (passed : checkStream e c h = .ok th) : c.sessionId = some h.sessionId := by
  unfold checkStream at passed
  split at passed
  · cases passed
  · exact not_not.mp ‹_›

theorem openStream_session (conf : Conf) (e : Env) (k : Nat) (c : RTSPContext) (th : TransportField) :
    (openStream conf e k c th).1.sessionId = c.sessionId := by
  unfold openStream
  rcases rtpNewAvStream_cases conf e.stream (c.setLowerTransport k th.lowerTransport) k _ with
    same | ⟨_, _, _, -, opened⟩
  · rw [same, RTSPContext.sessionId_setLowerTransport]
  · rw [opened, RTSPContext.sessionId_setEntries, RTSPContext.sessionId_setLowerTransport]

theorem setupStream_cases (conf : Conf) (e : Env) (k : Nat) (c : RTSPContext) (h : MessageHeader) :
    ((setupStream conf e k c h).2.status = .ok ∧
        (setupStream conf e k c h).1.sessionId = some h.sessionId) ∨
      (((setupStream conf e k c h).2.status = .session ∨
          (setupStream conf e k c h).2.status = .transport ∨
          (setupStream conf e k c h).2.status = .internal) ∧
        (setupStream conf e k c h).1 = errorSetup (assign c k (assignedTransport e c h)) k) := by
  unfold setupStream assignedTransport
  cases checked : checkStream e c h with
  | error code => exact .inr ⟨checkStream_error checked, rfl⟩
  | ok th =>
      dsimp only
      split_ifs with failed
      · exact .inr ⟨.inr (.inl rfl), errorSetup_rtpNewAvStream ..⟩
      · exact .inl ⟨rfl, (openStream_session ..).trans (checkStream_ok checked)⟩

def reachesStream (conf : Conf) (r : Request) (c : RTSPContext) : Option Nat :=
  if UnderObject conf r.path ∧ (c.state = .idle ∨ c.state = .ready) then streamid? conf r.path
  else none

def StaysInside (conf : Conf) (r : Request) (c : RTSPContext) : Prop :=
  r.method = .setup → ∀ k, reachesStream conf r c = some k → k < rtspChannelMax

theorem rtspCmdSetup_cases {reply : Reply} (answered : rtspCmdSetup conf r e c = .ok (d, reply)) :
    (reachesStream conf r c = none ∧ d = c ∧
        (reply.status = .aggregate ∨ reply.status = .service ∨ reply.status = .state)) ∨
      ∃ k, reachesStream conf r c = some k ∧
        (d, reply) = setupStream conf e k (createSession c r.header e.rand).1
          (createSession c r.header e.rand).2 := by
  unfold rtspCmdSetup at answered
  unfold reachesStream
  split at answered
  · rename_i outside
    cases answered
    exact .inl ⟨if_neg fun h => outside h.1, rfl, .inl rfl⟩
  · rename_i object
    split at answered
    · rename_i unnamed
      cases answered
      exact .inl ⟨by rw [unnamed, ite_self], rfl, .inr (.inl rfl)⟩
    · rename_i streamid named
      split at answered
      · rename_i state
        cases answered
        exact .inl ⟨if_neg fun h => h.2.elim state.1 state.2, rfl, .inr (.inr rfl)⟩
      · rename_i state
        have state : c.state = .idle ∨ c.state = .ready := by
          by_cases idle : c.state = .idle
          · exact .inl idle
          · exact .inr (not_not.mp fun ready => state ⟨idle, ready⟩)
        exact .inr ⟨streamid, by rw [if_pos ⟨not_not.mp object, state⟩, named], (Except.ok.inj answered).symm⟩

theorem rtspCmdSetup_answers (conf : Conf) (r : Request) (e : Env) (c : RTSPContext) :
    ∃ d reply, rtspCmdSetup conf r e c = .ok (d, reply) := by
  unfold rtspCmdSetup
  split
  · exact ⟨_, _, rfl⟩
  · split
    · exact ⟨_, _, rfl⟩
    · split
      · exact ⟨_, _, rfl⟩
      · exact ⟨_, _, rfl⟩

/-! ## Refusals -/

structure Unchanged (c d : RTSPContext) : Prop extends SameStreams c d where
  sessionId : d.sessionId = c.sessionId
  state : d.state = c.state

theorem Unchanged.refl (c : RTSPContext) : Unchanged c c := ⟨.refl c, rfl, rfl⟩

theorem createSession_streams (c : RTSPContext) (h : MessageHeader) (rand : Nat × Nat) :
    SameStreams c (createSession c h rand).1 ∧ (createSession c h rand).1.state = c.state := by
  unfold createSession
  split_ifs
  · exact ⟨⟨rfl, rfl, rfl, rfl⟩, rfl⟩
  · exact ⟨.refl c, rfl⟩

theorem update_eq_self_iff {α : Type} {f : StreamId → α} {i : StreamId} {x : α} :
    Function.update f i x = f ↔ f i = x := by
  rw [Function.update_eq_iff]
  exact ⟨fun h => h.1.symm, fun h => ⟨h.symm, fun _ _ => rfl⟩⟩

def RTSPContext.HasTransport (c : RTSPContext) (k : Nat) (t : LowerTransport) : Prop :=
  if inside : k < rtspChannelMax then c.lowerTransport ⟨k, inside⟩ = t
  else overwritten (c.fmtctxAt 0) t.number = c.fmtctxAt 0

structure RTSPContext.Vacant (c : RTSPContext) (k : Nat) : Prop where
  fmtctx : c.fmtctxAt k = none
  stream : c.streamAt k = none
  encoder : ∀ inside : k < rtspChannelMax, c.encoder ⟨k, inside⟩ = none

theorem sameStreams_slot_iff {i : StreamId} {transport : Option LowerTransport} (streams : SameStreams c d) :
    SameStreams c (errorSetup (assign d i transport) i) ↔
      c.Vacant i ∧ ∀ t ∈ transport, c.HasTransport i t := by
  have has (t : LowerTransport) : c.HasTransport i t ↔ c.lowerTransport i = t := by
    rw [RTSPContext.HasTransport, dif_pos i.isLt]
  have vacant : c.Vacant i ↔ c.fmtctx i = none ∧ c.stream i = none ∧ c.encoder i = none := by
    have stream : c.streamAt i = c.stream i := dif_pos i.isLt
    constructor
    · rintro ⟨first, second, third⟩
      exact ⟨(c.fmtctxAt_slot i).symm.trans first, stream.symm.trans second, third i.isLt⟩
    · rintro ⟨first, second, third⟩
      exact ⟨(c.fmtctxAt_slot i).trans first, stream.trans second, fun _ => third⟩
  have lower : (assign d i transport).lowerTransport = c.lowerTransport ↔ ∀ t ∈ transport, c.lowerTransport i = t := by
    cases transport with
    | none => simp [assign, streams.lowerTransport]
    | some t =>
        rw [assign, Option.elim_some, RTSPContext.setLowerTransport_slot, streams.lowerTransport]
        simp [eq_comm]
  have others : SameStreams c { assign d i transport with lowerTransport := c.lowerTransport } := by
    cases transport with
    | none => exact ⟨rfl, streams.fmtctx, streams.stream, streams.encoder⟩
    | some t =>
        rw [assign, Option.elim_some, RTSPContext.setLowerTransport_slot]
        exact ⟨rfl, streams.fmtctx, streams.stream, streams.encoder⟩
  simp only [has, vacant, ← lower]
  rw [errorSetup_slot]
  generalize assign d i transport = x at lower others
  constructor
  · rintro ⟨same, fmtctx, stream, encoder⟩
    refine ⟨⟨?_, ?_, ?_⟩, same⟩
    · rw [← fmtctx]
      exact Function.update_self ..
    · rw [← stream]
      exact Function.update_self ..
    · rw [← encoder]
      exact Function.update_self ..
  · rintro ⟨⟨fmtctx, stream, encoder⟩, same⟩
    have fmtctxs : x.fmtctx = c.fmtctx := others.fmtctx
    have streams : x.stream = c.stream := others.stream
    have encoders : x.encoder = c.encoder := others.encoder
    refine ⟨same, ?_, ?_, ?_⟩
    · change Function.update x.fmtctx i none = _
      rw [fmtctxs, update_eq_self_iff, fmtctx]
    · change Function.update x.stream i none = _
      rw [streams, update_eq_self_iff, stream]
    · change Function.update x.encoder i none = _
      rw [encoders, update_eq_self_iff, encoder]

theorem sameStreams_behind_iff {k : Nat} {transport : Option LowerTransport} (behind : ¬ k < rtspChannelMax)
    (streams : SameStreams c d) :
    SameStreams c (errorSetup (assign d k transport) k) ↔
      c.Vacant k ∧ ∀ t ∈ transport, c.HasTransport k t := by
  have has (t : LowerTransport) : c.HasTransport k t ↔ overwritten (c.fmtctx 0) t.number = c.fmtctx 0 := by
    rw [RTSPContext.HasTransport, dif_neg behind, RTSPContext.fmtctxAt_zero]
  have vacant : c.Vacant k ↔ c.stream 0 = none ∧ c.encoder 0 = none := by
    have fmtctx : c.fmtctxAt k = c.stream 0 := dif_neg behind
    have stream : c.streamAt k = c.encoder 0 := dif_neg behind
    constructor
    · rintro ⟨first, second, -⟩
      exact ⟨fmtctx.symm.trans first, stream.symm.trans second⟩
    · rintro ⟨first, second⟩
      exact ⟨fmtctx.trans first, stream.trans second, fun inside => absurd inside behind⟩
  have cleared : errorSetup (assign d k transport) k =
      { assign d k transport with sessionId := none,
                                  encoder := Function.update (assign d k transport).encoder 0 none,
                                  stream := Function.update (assign d k transport).stream 0 none } := by
    rw [errorSetup, RTSPContext.setEntries, dif_neg behind]
  have pointers : (assign d k transport).lowerTransport = c.lowerTransport ∧
      (assign d k transport).stream = c.stream ∧ (assign d k transport).encoder = c.encoder ∧
      ((assign d k transport).fmtctx = c.fmtctx ↔
        ∀ t ∈ transport, overwritten (c.fmtctx 0) t.number = c.fmtctx 0) := by
    cases transport with
    | none => exact ⟨streams.lowerTransport, streams.stream, streams.encoder, by simp [assign, streams.fmtctx]⟩
    | some t =>
        rw [assign, Option.elim_some, RTSPContext.setLowerTransport, dif_neg behind]
        refine ⟨streams.lowerTransport, streams.stream, streams.encoder, ?_⟩
        rw [streams.fmtctx, update_eq_self_iff, eq_comm]
        simp
  simp only [has, vacant]
  rw [cleared]
  generalize assign d k transport = x at pointers
  obtain ⟨lower, stream, encoder, fmtctx⟩ := pointers
  constructor
  · rintro ⟨-, same, nostream, noencoder⟩
    refine ⟨⟨?_, ?_⟩, fmtctx.mp same⟩
    · rw [← nostream]
      exact Function.update_self (0 : StreamId) none x.stream
    · rw [← noencoder]
      exact Function.update_self (0 : StreamId) none x.encoder
  · rintro ⟨⟨nostream, noencoder⟩, same⟩
    refine ⟨lower, fmtctx.mpr same, ?_, ?_⟩
    · change Function.update x.stream 0 none = _
      rw [stream, update_eq_self_iff, nostream]
    · change Function.update x.encoder 0 none = _
      rw [encoder, update_eq_self_iff, noencoder]

theorem unchanged_errorSetup_iff {k : Nat} {transport : Option LowerTransport} (streams : SameStreams c d)
    (state : d.state = c.state) :
    Unchanged c (errorSetup (assign d k transport) k) ↔
      c.sessionId = none ∧ c.Vacant k ∧ ∀ t ∈ transport, c.HasTransport k t := by
  have same : SameStreams c (errorSetup (assign d k transport) k) ↔
      c.Vacant k ∧ ∀ t ∈ transport, c.HasTransport k t := by
    by_cases inside : k < rtspChannelMax
    · exact sameStreams_slot_iff (i := ⟨k, inside⟩) streams
    · exact sameStreams_behind_iff inside streams
  have after : (errorSetup (assign d k transport) k).state = c.state := by
    rw [errorSetup_state, assign_state, state]
  rw [← same]
  exact ⟨fun unchanged => ⟨unchanged.sessionId.symm, unchanged.toSameStreams⟩,
    fun both => ⟨both.2, both.1.symm, after⟩⟩

/-- There was nothing that `error_setup` could destroy: no session, no entry of the stream, and the
transport to be tried already in its place. -/
def NothingToLose (r : Request) (e : Env) (c : RTSPContext) (k : Nat) : Prop :=
  c.sessionId = none ∧ c.Vacant k ∧
    ∀ t ∈ assignedTransport e (createSession c r.header e.rand).1
      (createSession c r.header e.rand).2, c.HasTransport k t

theorem rtspCmdSetup_unchanged_iff {reply : Reply}
    (answered : rtspCmdSetup conf r e c = .ok (d, reply)) (refused : reply.status ≠ .ok) :
    Unchanged c d ↔ ∀ k, reachesStream conf r c = some k → NothingToLose r e c k := by
  rcases rtspCmdSetup_cases answered with ⟨early, rfl, -⟩ | ⟨k, reached, result⟩
  · rw [early]
    exact ⟨fun _ _ => nofun, fun _ => .refl _⟩
  · have failed : d = errorSetup (assign (createSession c r.header e.rand).1 k
        (assignedTransport e (createSession c r.header e.rand).1
          (createSession c r.header e.rand).2)) k := by
      rcases setupStream_cases conf e k (createSession c r.header e.rand).1
        (createSession c r.header e.rand).2 with ⟨accepted, -⟩ | ⟨-, context⟩
      · rw [← result] at accepted
        exact absurd accepted refused
      · rwa [← result] at context
    obtain ⟨streams, state⟩ := createSession_streams c r.header e.rand
    rw [failed, unchanged_errorSetup_iff streams state, reached]
    constructor
    · rintro nothing _ ⟨⟩
      exact nothing
    · exact fun nothing => nothing k rfl

/-! ## A client that repeats a SETUP -/

def desktopConf : Conf := ⟨ascii "/desktop", 28, 86018, 1⟩

def desktopRequest (method : Method) (sessionId : Bytes) : Request where
  method := method
  url := ascii "rtsp://server:8554/desktop/streamid=0"
  path i := (ascii "/desktop/streamid=0").getD i 0
  protocol := ascii "RTSP/1.0"
  header := ⟨1, sessionId, [⟨.tcp, 0, 1⟩]⟩

theorem desktopRequest_inside (method : Method) (sessionId : Bytes) (c : RTSPContext) :
    StaysInside desktopConf (desktopRequest method sessionId) c := by
  intro _ k reached
  have first : streamid? desktopConf (desktopRequest method sessionId).path = some 0 := rfl
  rw [reachesStream, first] at reached
  split_ifs at reached
  obtain rfl := Option.some.inj reached
  decide

def obligingEnv : Env :=
  ⟨ascii "Thu, 01 Jan 1970 00:00:00", [], (0x1234, 0x5678), true, true, 0, 0,
    ⟨true, some 4096, true, some 8192, some 12288, true⟩, 0⟩

def Event.losesSession (ev : Event) : Bool :=
  match ev.handled with
  | .ok (d, reply) => reply.status ≠ .ok && d.sessionId ≠ ev.before.sessionId
  | .error _ => false

theorem Event.losesSession_spec {ev : Event} (loses : ev.losesSession = true) :
    ∃ d reply, ev.handled = .ok (d, reply) ∧ reply.status ≠ .ok ∧ ¬ Unchanged ev.before d := by
  unfold losesSession at loses
  split at loses
  · rename_i d reply answered
    simp only [Bool.and_eq_true, decide_eq_true_eq] at loses
    exact ⟨d, reply, answered, loses.1, fun same => loses.2 same.sessionId⟩
  · cases loses

theorem repeatedSetup_loses_session :
    ¬ ∀ (conf : Conf) (requests : List (Request × Env)), ∀ ev ∈ rtspserver conf .start requests,
      ev.request.method = .setup → ∀ d reply, ev.handled = .ok (d, reply) → reply.status ≠ .ok →
        Unchanged ev.before d := by
  intro unchanged
  have found : ∃ ev ∈ rtspserver desktopConf .start
      [(desktopRequest .setup [], obligingEnv),
       (desktopRequest .setup (ascii "12345678"), obligingEnv)],
      ev.request.method = .setup ∧ ev.losesSession = true := by
    decide +kernel
  obtain ⟨ev, member, setup, loses⟩ := found
  obtain ⟨d, reply, answered, refused, changed⟩ := ev.losesSession_spec loses
  exact changed (unchanged _ _ ev member setup d reply answered refused)

theorem strangeSetup_unchanged : Unchanged .start (errorSetup .start 0) := by
  have answered : rtspCmdSetup desktopConf (desktopRequest .setup (ascii "x")) obligingEnv .start =
      .ok (errorSetup .start 0, rtspReplyError .start obligingEnv.date .session) := rfl
  have vacant (k : Nat) : RTSPContext.start.Vacant k :=
    ⟨by unfold RTSPContext.fmtctxAt; split <;> rfl, by unfold RTSPContext.streamAt; split <;> rfl, fun _ => rfl⟩
  exact (rtspCmdSetup_unchanged_iff answered (by decide)).mpr fun k _ => ⟨rfl, vacant k, nofun⟩

end GamingAnywhere.Rtsp
