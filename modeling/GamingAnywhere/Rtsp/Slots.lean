import GamingAnywhere.Rtsp.Paths

/-!
# Stream slots

The indices with which a SETUP reaches the per-stream arrays. `rtsp_cmd_setup` compares the path with
one name more than there are slots, and `rtp_new_av_stream` lets the same number pass: the stream
behind the last one is set up in whatever follows the arrays.
-/

namespace GamingAnywhere.Rtsp
open Lib

/-! ## Accesses -/

inductive Slots
  | lowerTransport
  | fmtctx
  | stream
  | encoder
  | videoSourceWidth
  | videoSourceHeight
  deriving DecidableEq

def Slots.size : Slots → Nat
  | lowerTransport | fmtctx | stream | encoder => rtspChannelMax
  | videoSourceWidth | videoSourceHeight => imageSourceChannelMax

structure Access where
  slots : Slots
  index : Nat
  deriving DecidableEq

def Access.InRange (a : Access) : Prop := a.index < a.slots.size

instance (a : Access) : Decidable a.InRange := inferInstanceAs (Decidable (_ < _))

structure Traced (α : Type) where
  value : α
  accesses : List Access

namespace Traced

variable {α β : Type}

def pure (a : α) : Traced α := ⟨a, []⟩

def after (accesses : List Access) (t : Traced α) : Traced α := ⟨t.value, accesses ++ t.accesses⟩

def bind (t : Traced α) (f : α → Traced β) : Traced β := (f t.value).after t.accesses

@[simp] theorem value_pure (a : α) : (pure a).value = a := rfl

@[simp] theorem accesses_pure (a : α) : (pure a).accesses = [] := rfl

@[simp] theorem value_after (accesses : List Access) (t : Traced α) :
    (t.after accesses).value = t.value := rfl

@[simp] theorem accesses_after (accesses : List Access) (t : Traced α) :
    (t.after accesses).accesses = accesses ++ t.accesses := rfl

@[simp] theorem value_bind (t : Traced α) (f : α → Traced β) : (t.bind f).value = (f t.value).value :=
  rfl

@[simp] theorem accesses_bind (t : Traced α) (f : α → Traced β) :
    (t.bind f).accesses = t.accesses ++ (f t.value).accesses := rfl

end Traced

/-- The arrays as C indexes them: behind the last slot is what follows them in memory. -/
structure StreamCells where
  lowerTransport : Nat → LowerTransport
  fmtctx : Nat → Option Ptr
  stream : Nat → Option Ptr
  encoder : Nat → Option Ptr

def overlay {α : Type} (slots : StreamId → α) (behind : Nat → α) (i : Nat) : α :=
  if inside : i < rtspChannelMax then slots ⟨i, inside⟩ else behind i

def RTSPContext.cells (c : RTSPContext) (behind : StreamCells) : StreamCells where
  lowerTransport := overlay c.lowerTransport behind.lowerTransport
  fmtctx := overlay c.fmtctx behind.fmtctx
  stream := overlay c.stream behind.stream
  encoder := overlay c.encoder behind.encoder

/-! ## The accesses of a SETUP -/

/-- `rtp_new_av_stream` on any stream number. -/
def newAvStreamAt (conf : Conf) (e : StreamEnv) (m : StreamCells) (streamid codecid : Nat) :
    Traced (StreamCells × Int) :=
  if imageSourceChannelMax < streamid then .pure (m, -1)
  else if codecid ≠ conf.videoCodec ∧ codecid ≠ conf.audioCodec then .pure (m, -1)
  else
    .after [⟨.fmtctx, streamid⟩] <|
      if m.fmtctx streamid ≠ none then .pure (m, -1)
      else if e.guessFormat = false then .pure (m, -1)
      else
        match e.allocContext with
        | none => .pure (m, -1)
        | some fmtctx =>
            .after [⟨.lowerTransport, streamid⟩] <|
            .after (if m.lowerTransport streamid = .udp then [] else [⟨.lowerTransport, streamid⟩]) <|
              if e.openPb = false then .pure (m, -1)
              else
                match e.newStream with
                | none => .pure (m, -1)
                | some stream =>
                    .after (if codecid = conf.videoCodec then
                      [⟨.videoSourceWidth, streamid⟩, ⟨.videoSourceHeight, streamid⟩] else []) <|
                      match e.encoderInit with
                      | none => .pure (m, -1)
                      | some encoder =>
                          let opened : StreamCells :=
                            { m with encoder := Function.update m.encoder streamid (some encoder),
                                     stream := Function.update m.stream streamid (some stream),
                                     fmtctx := Function.update m.fmtctx streamid (some fmtctx) }
                          .after [⟨.encoder, streamid⟩, ⟨.stream, streamid⟩, ⟨.fmtctx, streamid⟩,
                            ⟨.fmtctx, streamid⟩] <|
                            if e.writeHeader = false then .pure (opened, -1)
                            else
                              .after (⟨.lowerTransport, streamid⟩ ::
                                if m.lowerTransport streamid = .tcp then [⟨.fmtctx, streamid⟩]
                                else []) <|
                                .pure (opened, 0)

/-- The label `error_setup`: each entry is tested, and cleared where it is not NULL. -/
def errorSetupAt (m : StreamCells) (streamid : Nat) : Traced StreamCells :=
  .after (⟨.encoder, streamid⟩ ::
    if m.encoder streamid = none then [] else [⟨.encoder, streamid⟩]) <|
  .after (⟨.stream, streamid⟩ ::
    if m.stream streamid = none then [] else [⟨.stream, streamid⟩]) <|
  .after (⟨.fmtctx, streamid⟩ ::
    if m.fmtctx streamid = none then [] else [⟨.fmtctx, streamid⟩, ⟨.fmtctx, streamid⟩]) <|
    .pure { m with encoder := Function.update m.encoder streamid none,
                   stream := Function.update m.stream streamid none,
                   fmtctx := Function.update m.fmtctx streamid none }

def openStreamAt (conf : Conf) (e : Env) (streamid : Nat) (m : StreamCells) (th : TransportField) :
    Traced (StreamCells × Int) :=
  .after [⟨.lowerTransport, streamid⟩] <|
    newAvStreamAt conf e.stream
      { m with lowerTransport := Function.update m.lowerTransport streamid th.lowerTransport } streamid
      (if streamid = conf.videoSourceChannels then conf.audioCodec else conf.videoCodec)

def setupStreamAt (conf : Conf) (e : Env) (streamid : Nat) (m : StreamCells) (c : RTSPContext)
    (h : MessageHeader) : Traced (StreamCells × StatusCode) :=
  match checkStream e c h with
  | .error errcode => (errorSetupAt m streamid).bind fun m => .pure (m, errcode)
  | .ok th =>
      (openStreamAt conf e streamid m th).bind fun opened =>
        if opened.2 < 0 then (errorSetupAt opened.1 streamid).bind fun m => .pure (m, .transport)
        else
          .after (if th.lowerTransport = .udp then [⟨.fmtctx, streamid⟩, ⟨.fmtctx, streamid⟩] else []) <|
            .pure (opened.1, .ok)

/-- `rtsp_cmd_setup` with the arrays as C indexes them: the entries it leaves and the status it
answers. -/
def rtspCmdSetupAt (conf : Conf) (r : Request) (e : Env) (m : StreamCells) (c : RTSPContext) :
    Traced (StreamCells × StatusCode) :=
  if ¬ UnderObject conf r.path then .pure (m, .aggregate)
  else
    match streamid? conf r.path with
    | none => .pure (m, .service)
    | some streamid =>
        if c.state ≠ .idle ∧ c.state ≠ .ready then .pure (m, .state)
        else
          let session := createSession c r.header e.rand
          setupStreamAt conf e streamid m session.1 session.2

/-! ## Inside the arrays -/

section
variable {conf : Conf} {r : Request} {e : Env} {c d : RTSPContext} {behind : StreamCells}
  {i : StreamId}

theorem overlay_apply {α : Type} (slots : StreamId → α) (behind : Nat → α) (i : StreamId) :
    overlay slots behind i.val = slots i := dif_pos i.isLt

theorem overlay_update {α : Type} (slots : StreamId → α) (behind : Nat → α) (i : StreamId) (x : α) :
    overlay (Function.update slots i x) behind = Function.update (overlay slots behind) i.val x := by
  funext j
  by_cases inside : j < rtspChannelMax
  · simp only [overlay, dif_pos inside, Function.update_apply, Fin.ext_iff]
  · have other : j ≠ i.val := by omega
    rw [Function.update_of_ne other, overlay, dif_neg inside, overlay, dif_neg inside]

theorem errorSetupAt_value (c : RTSPContext) (behind : StreamCells) (i : StreamId) :
    (errorSetupAt (c.cells behind) i).value = (errorSetup c i).cells behind := by
  simp only [errorSetupAt, Traced.value_after, Traced.value_pure, RTSPContext.cells, errorSetup,
    RTSPContext.setEntries_slot, overlay_update]

theorem newAvStreamAt_value (conf : Conf) (e : StreamEnv) (c : RTSPContext) (behind : StreamCells)
    (i : StreamId) (codecid : Nat) :
    (newAvStreamAt conf e (c.cells behind) i codecid).value =
      ((rtpNewAvStream conf e c i codecid).1.cells behind, (rtpNewAvStream conf e c i codecid).2) := by
  have fmtctx : (c.cells behind).fmtctx i.val = c.fmtctx i := overlay_apply ..
  unfold newAvStreamAt rtpNewAvStream
  rw [fmtctx, RTSPContext.fmtctxAt_slot]
  split
  · rfl
  · split
    · rfl
    · rw [Traced.value_after]
      split
      · rfl
      · split
        · rfl
        · cases e.allocContext with
          | none => rfl
          | some fmtctx =>
              dsimp only [Traced.value_after]
              split
              · rfl
              · cases e.newStream with
                | none => rfl
                | some stream =>
                    dsimp only [Traced.value_after]
                    cases e.encoderInit with
                    | none => rfl
                    | some encoder =>
                        dsimp only [Traced.value_after]
                        split
                        · simp only [Traced.value_pure, RTSPContext.cells, RTSPContext.setEntries_slot,
                            overlay_update]
                        · simp only [Traced.value_after, Traced.value_pure, RTSPContext.cells,
                            RTSPContext.setEntries_slot, overlay_update]

theorem openStreamAt_value (conf : Conf) (e : Env) (c : RTSPContext) (behind : StreamCells)
    (i : StreamId) (th : TransportField) :
    (openStreamAt conf e i (c.cells behind) th).value =
      ((openStream conf e i c th).1.cells behind, (openStream conf e i c th).2) := by
  unfold openStreamAt openStream
  rw [Traced.value_after, RTSPContext.setLowerTransport_slot, ← newAvStreamAt_value]
  simp only [RTSPContext.cells, overlay_update]

theorem setupStreamAt_value (conf : Conf) (e : Env) (c : RTSPContext) (behind : StreamCells)
    (i : StreamId) (h : MessageHeader) :
    (setupStreamAt conf e i (c.cells behind) c h).value =
      ((setupStream conf e i c h).1.cells behind, (setupStream conf e i c h).2.status) := by
  unfold setupStreamAt setupStream
  cases checkStream e c h with
  | error errcode =>
      simp only [Traced.value_bind, Traced.value_pure, errorSetupAt_value]
      rfl
  | ok th =>
      simp only [Traced.value_bind, openStreamAt_value]
      split
      · simp only [Traced.value_bind, Traced.value_pure, errorSetupAt_value]
        rfl
      · rfl

theorem createSession_cells (c : RTSPContext) (h : MessageHeader) (rand : Nat × Nat)
    (behind : StreamCells) : (createSession c h rand).1.cells behind = c.cells behind := by
  obtain ⟨streams, -⟩ := createSession_streams c h rand
  simp only [RTSPContext.cells, streams.lowerTransport, streams.fmtctx, streams.stream,
    streams.encoder]

theorem rtspCmdSetupAt_of_reachesStream {m : StreamCells} {streamid : Nat}
    (reached : reachesStream conf r c = some streamid) :
    rtspCmdSetupAt conf r e m c = setupStreamAt conf e streamid m (createSession c r.header e.rand).1
      (createSession c r.header e.rand).2 := by
  unfold reachesStream at reached
  split at reached
  · rename_i checks
    have state : ¬(c.state ≠ .idle ∧ c.state ≠ .ready) :=
      fun other => checks.2.elim other.1 other.2
    rw [rtspCmdSetupAt, if_neg (not_not.mpr checks.1), reached]
    exact if_neg state
  · cases reached

theorem reachesStream_spec {k : Nat} (reached : reachesStream conf r c = some k) :
    UnderObject conf r.path ∧ (c.state = .idle ∨ c.state = .ready) ∧ k ≤ rtspChannelMax ∧
      Names r.path (conf.object.length + 1) (channelname k) := by
  unfold reachesStream at reached
  split at reached
  · rename_i checks
    obtain ⟨le, named⟩ := streamid?_eq_some_iff.mp reached
    exact ⟨checks.1, checks.2, le, named⟩
  · cases reached

theorem rtspCmdSetupAt_early {m : StreamCells} {reply : Reply} (early : reachesStream conf r c = none)
    (answered : rtspCmdSetup conf r e c = .ok (d, reply)) :
    (rtspCmdSetupAt conf r e m c).value = (m, reply.status) := by
  unfold reachesStream at early
  unfold rtspCmdSetup at answered
  unfold rtspCmdSetupAt
  by_cases under : UnderObject conf r.path
  · rw [if_neg (not_not.mpr under)] at answered ⊢
    cases named : streamid? conf r.path with
    | none =>
        rw [named] at answered
        cases answered
        rfl
    | some streamid =>
        rw [named] at answered
        dsimp only at answered ⊢
        have state : c.state ≠ .idle ∧ c.state ≠ .ready := by
          rw [← not_or]
          intro state
          rw [if_pos ⟨under, state⟩, named] at early
          cases early
        rw [if_pos state] at answered ⊢
        cases answered
        rfl
  · rw [if_pos under] at answered ⊢
    cases answered
    rfl

theorem rtspCmdSetupAt_value {reply : Reply} (behind : StreamCells)
    (inside : reachesStream conf r c ≠ some rtspChannelMax)
    (answered : rtspCmdSetup conf r e c = .ok (d, reply)) :
    (rtspCmdSetupAt conf r e (c.cells behind) c).value = (d.cells behind, reply.status) := by
  rcases rtspCmdSetup_cases answered with ⟨early, rfl, -⟩ | ⟨k, reached, result⟩
  · exact rtspCmdSetupAt_early early answered
  · have below : k < rtspChannelMax := by
      refine Nat.lt_of_le_of_ne (reachesStream_spec reached).2.2.1 ?_
      rintro rfl
      exact inside reached
    obtain ⟨rfl, rfl⟩ := Prod.ext_iff.mp result
    rw [rtspCmdSetupAt_of_reachesStream reached, ← createSession_cells c r.header e.rand]
    exact setupStreamAt_value conf e _ behind ⟨k, below⟩ _

/-! ## Behind the arrays -/

theorem newAvStreamAt_ret {m : StreamCells} {k : Nat} (same : m.fmtctx k = c.fmtctxAt k) (conf : Conf)
    (e : StreamEnv) (codecid : Nat) :
    (newAvStreamAt conf e m k codecid).value.2 = (rtpNewAvStream conf e c k codecid).2 := by
  unfold newAvStreamAt rtpNewAvStream
  rw [same]
  split
  · rfl
  · split
    · rfl
    · rw [Traced.value_after]
      split
      · rfl
      · split
        · rfl
        · cases e.allocContext with
          | none => rfl
          | some fmtctx =>
              dsimp only [Traced.value_after]
              split
              · rfl
              · cases e.newStream with
                | none => rfl
                | some stream =>
                    dsimp only [Traced.value_after]
                    cases e.encoderInit with
                    | none => rfl
                    | some encoder =>
                        dsimp only [Traced.value_after]
                        split <;> rfl

/-- Behind the last slot they give the same answer, where the memory there is that of the structure. -/
theorem rtspCmdSetupAt_status {m : StreamCells} {reply : Reply} (next : m.fmtctx rtspChannelMax = c.stream 0)
    (reached : reachesStream conf r c = some rtspChannelMax)
    (answered : rtspCmdSetup conf r e c = .ok (d, reply)) :
    (rtspCmdSetupAt conf r e m c).value.2 = reply.status := by
  rcases rtspCmdSetup_cases answered with ⟨early, -⟩ | ⟨k, there, result⟩
  · rw [early] at reached
    cases reached
  · obtain rfl := Option.some.inj (there.symm.trans reached)
    obtain ⟨streams, -⟩ := createSession_streams c r.header e.rand
    rw [rtspCmdSetupAt_of_reachesStream reached, show reply = _ from congrArg Prod.snd result]
    have same : m.fmtctx rtspChannelMax = (createSession c r.header e.rand).1.stream 0 := by
      rw [next, streams.stream]
    generalize createSession c r.header e.rand = session at same
    obtain ⟨x, h⟩ := session
    unfold setupStreamAt setupStream
    cases checkStream e x h with
    | error errcode => rfl
    | ok th =>
        have ret : (openStreamAt conf e rtspChannelMax m th).value.2 =
            (openStream conf e rtspChannelMax x th).2 := by
          rw [openStreamAt, openStream, Traced.value_after]
          have after : m.fmtctx rtspChannelMax =
              (x.setLowerTransport rtspChannelMax th.lowerTransport).fmtctxAt rtspChannelMax := same
          apply newAvStreamAt_ret
          exact after
        simp only [Traced.value_bind, ret]
        split <;> rfl

end

/-! ## Every index is the stream number -/

theorem Access.inRange_iff (a : Access) : a.InRange ↔ a.index < rtspChannelMax := by
  obtain ⟨slots, index⟩ := a
  cases slots <;> rfl

def Traced.At {α : Type} (t : Traced α) (k : Nat) : Prop := ∀ a ∈ t.accesses, a.index = k

namespace Traced

variable {α β : Type} {k : Nat}

theorem at_pure (a : α) : (pure a).At k := nofun

theorem At.after {accesses : List Access} {t : Traced α} (rest : t.At k)
    (first : ∀ a ∈ accesses, a.index = k) : (t.after accesses).At k := by
  intro a member
  exact (List.mem_append.mp member).elim (first a) (rest a)

theorem At.bind {t : Traced α} {f : α → Traced β} (first : t.At k) (rest : (f t.value).At k) :
    (t.bind f).At k := rest.after first

end Traced

theorem newAvStreamAt_at (conf : Conf) (e : StreamEnv) (m : StreamCells) (streamid codecid : Nat) :
    (newAvStreamAt conf e m streamid codecid).At streamid := by
  unfold newAvStreamAt
  split
  · exact Traced.at_pure _
  · split
    · exact Traced.at_pure _
    · refine Traced.At.after ?_ (by simp)
      split
      · exact Traced.at_pure _
      · split
        · exact Traced.at_pure _
        · split
          · exact Traced.at_pure _
          · refine Traced.At.after (Traced.At.after ?_ (by split <;> simp)) (by simp)
            split
            · exact Traced.at_pure _
            · split
              · exact Traced.at_pure _
              · refine Traced.At.after ?_ (by split <;> simp)
                split
                · exact Traced.at_pure _
                · refine Traced.At.after ?_ (by simp)
                  split
                  · exact Traced.at_pure _
                  · exact (Traced.at_pure _).after (by split <;> simp)

theorem errorSetupAt_at (m : StreamCells) (streamid : Nat) : (errorSetupAt m streamid).At streamid := by
  unfold errorSetupAt
  refine Traced.At.after (Traced.At.after (Traced.At.after (Traced.at_pure _) ?_) ?_) ?_
  all_goals split <;> simp

theorem setupStreamAt_at (conf : Conf) (e : Env) (streamid : Nat) (m : StreamCells) (c : RTSPContext)
    (h : MessageHeader) : (setupStreamAt conf e streamid m c h).At streamid := by
  unfold setupStreamAt
  split
  · exact (errorSetupAt_at m streamid).bind (Traced.at_pure _)
  · refine Traced.At.bind (Traced.At.after (newAvStreamAt_at _ _ _ _ _) (by simp)) ?_
    split
    · exact (errorSetupAt_at _ streamid).bind (Traced.at_pure _)
    · exact (Traced.at_pure _).after (by split <;> simp)

theorem setupStreamAt_accesses (conf : Conf) (e : Env) (streamid : Nat) (m : StreamCells)
    (c : RTSPContext) (h : MessageHeader) : ∃ a, a ∈ (setupStreamAt conf e streamid m c h).accesses := by
  unfold setupStreamAt
  split
  · exact ⟨_, List.mem_cons_self⟩
  · exact ⟨_, List.mem_cons_self⟩

/-! ## The range -/

section
variable {conf : Conf} {r : Request} {e : Env} {c : RTSPContext} {m : StreamCells}

theorem rtspCmdSetupAt_of_reachesStream_none (unreached : reachesStream conf r c = none) :
    (rtspCmdSetupAt conf r e m c).accesses = [] ∧ (rtspCmdSetupAt conf r e m c).value.2 ≠ .ok := by
  unfold reachesStream at unreached
  unfold rtspCmdSetupAt
  split
  · exact ⟨rfl, nofun⟩
  · rename_i under
    split
    · exact ⟨rfl, nofun⟩
    · rename_i streamid named
      split
      · exact ⟨rfl, nofun⟩
      · rename_i state
        have passed : c.state = .idle ∨ c.state = .ready := by
          by_contra other
          exact state (not_or.mp other)
        rw [if_pos ⟨not_not.mp under, passed⟩, named] at unreached
        cases unreached

theorem reachesStream_eq_some (under : UnderObject conf r.path)
    (state : c.state = .idle ∨ c.state = .ready)
    (named : Names r.path (conf.object.length + 1) (channelname rtspChannelMax)) :
    reachesStream conf r c = some rtspChannelMax := by
  rw [reachesStream, if_pos ⟨under, state⟩, streamid?_eq_some_iff]
  exact ⟨Nat.le_refl _, named⟩

theorem rtspCmdSetupAt_inRange_iff :
    (∀ a ∈ (rtspCmdSetupAt conf r e m c).accesses, a.InRange) ↔
      reachesStream conf r c ≠ some rtspChannelMax := by
  cases reached : reachesStream conf r c with
  | none =>
      rw [(rtspCmdSetupAt_of_reachesStream_none reached).1]
      simp
  | some streamid =>
      rw [rtspCmdSetupAt_of_reachesStream reached, ne_eq, Option.some_inj]
      have le := (reachesStream_spec reached).2.2.1
      have index := setupStreamAt_at conf e streamid m (createSession c r.header e.rand).1
        (createSession c r.header e.rand).2
      constructor
      · rintro inRange rfl
        obtain ⟨a, member⟩ := setupStreamAt_accesses conf e rtspChannelMax m
          (createSession c r.header e.rand).1 (createSession c r.header e.rand).2
        have below := (a.inRange_iff).mp (inRange a member)
        rw [index a member] at below
        exact Nat.lt_irrefl _ below
      · intro other a member
        rw [a.inRange_iff, index a member]
        exact Nat.lt_of_le_of_ne le other

structure SlotsInRange (conf : Conf) (r : Request) (e : Env) (m : StreamCells) (c : RTSPContext) :
    Prop where
  inRange : ∀ a ∈ (rtspCmdSetupAt conf r e m c).accesses, a.InRange
  refused : ∀ k, rtspChannelMax ≤ k → Names r.path (conf.object.length + 1) (channelname k) →
    (rtspCmdSetupAt conf r e m c).value.2 ≠ .ok ∧ (rtspCmdSetupAt conf r e m c).accesses = []

end

theorem rtspCmdSetup_slotsInRange_iff (conf : Conf) (r : Request) (e : Env) (m : StreamCells)
    (c : RTSPContext) :
    SlotsInRange conf r e m c ↔
      ¬(UnderObject conf r.path ∧
        Names r.path (conf.object.length + 1) (channelname rtspChannelMax) ∧
        (c.state = .idle ∨ c.state = .ready)) := by
  constructor
  · rintro slots ⟨under, named, state⟩
    exact rtspCmdSetupAt_inRange_iff.mp slots.inRange (reachesStream_eq_some under state named)
  · intro outside
    have reached : reachesStream conf r c ≠ some rtspChannelMax := by
      intro behind
      obtain ⟨under, state, -, named⟩ := reachesStream_spec behind
      exact outside ⟨under, named, state⟩
    refine ⟨rtspCmdSetupAt_inRange_iff.mpr reached, ?_⟩
    intro k le named
    have unreached : reachesStream conf r c = none := by
      rw [Option.eq_none_iff_forall_ne_some]
      intro j other
      obtain ⟨-, -, below, named'⟩ := reachesStream_spec other
      obtain rfl := Names.channel named named'
      exact reached (other.trans (congrArg some (Nat.le_antisymm below le)))
    obtain ⟨accesses, status⟩ := rtspCmdSetupAt_of_reachesStream_none (e := e) (m := m) unreached
    exact ⟨status, accesses⟩

def desktopCells : StreamCells := ⟨fun _ => .udp, fun _ => none, fun _ => none, fun _ => none⟩

theorem not_rtspCmdSetup_slotsInRange :
    ¬ ∀ (conf : Conf) (r : Request) (e : Env) (m : StreamCells) (c : RTSPContext),
      SlotsInRange conf r e m c := by
  intro slots
  have inRange := (slots desktopConf
    { desktopRequest .setup [] with path := fun i => (ascii "/desktop/streamid=8").getD i 0 }
    obligingEnv desktopCells .start).inRange
  exact absurd inRange (by decide +kernel)

end GamingAnywhere.Rtsp
