import GamingAnywhere.Lib.Accounts
import GamingAnywhere.Encoder.Joining
import GamingAnywhere.Server.Connections

namespace GamingAnywhere.Server
open Lib Rtsp Encoder

/-! ## Steps with packets -/

/-- `packet tid` is `pkt` of the thread, and `looked tid` is that it has found the client playing that it is to
visit next, and has not written to it yet. -/
structure Fanout (ι α : Type*) where
  server : State ι
  packet : Nat → Option α
  looked : Nat → Bool

/-- `written` tells what is written for the client, if anything. A call that fails is only reported. -/
inductive FanoutEvent (ι α : Type*)
  | other (l : Party ι)
  | encoded (tid : Nat) (p : α)
  | locked (tid : Nat) (p : α)
  | looked (tid : Nat) (c : ι)
  | skipped (tid : Nat) (c : ι)
  | written (tid : Nat) (c : ι) (p : Option α)
  | failed (tid : Nat) (c : ι)

def State.moved {ι : Type*} (s : State ι) (tid : Nat) (t : Thread ι) : State ι :=
  { s with registry := { s.registry with threads := s.registry.threads.set tid t } }

/-- The thread does nothing to a packet that the other events tell of. -/
def Untold {ι : Type*} (l : Party ι) (s s' : Registry ι) : Prop :=
  ∀ tid t t', l = .thread tid → s.threads[tid]? = some t → s'.threads[tid]? = some t' →
    (t.place = .encode → t'.place ≠ .tryrdlock) ∧ ∀ left, t'.place ≠ .send left

/-- A step that only changes the context of a connection answers a request, and no SETUP that writes behind the
slots. -/
def Inside {ι : Type*} (conf : Conf) (s s' : State ι) : Prop :=
  s'.registry = s.registry → s'.pending = s.pending → ∀ c, s'.ctx c ≠ s.ctx c →
    ∃ r e reply, handle conf r e (s.ctx c) = .ok (s'.ctx c, reply) ∧ StaysInside conf r (s.ctx c)

variable {ι α : Type*} [DecidableEq ι]

/-- `encoder_send_packet_all` looks at the state, and then `encoder_send_packet` at the stream. In between, only
the lock on the set of the clients keeps anything as it is. -/
inductive FanoutStep (conf : Conf) (cfg : Setup) (channel : Proc → StreamId) :
    Fanout ι α → FanoutEvent ι α → Fanout ι α → Prop
  | other {s : Fanout ι α} {l : Party ι} {server : State ι} : Step conf cfg s.server l server →
      Untold l s.server.registry server.registry → Inside conf s.server server →
      FanoutStep conf cfg channel s (.other l) { s with server := server }
  | encoded {s : Fanout ι α} {tid : Nat} {t : Thread ι} {p : α} :
      s.server.registry.threads[tid]? = some t → t.place = .encode →
      FanoutStep conf cfg channel s (.encoded tid p)
        { s with server := s.server.moved tid { t with place := .tryrdlock },
                 packet := Function.update s.packet tid (some p) }
  | locked {s : Fanout ι α} {tid : Nat} {t : Thread ι} {p : α} :
      s.server.registry.threads[tid]? = some t → t.place = .tryrdlock → s.server.registry.writer = none →
      s.packet tid = some p →
      FanoutStep conf cfg channel s (.locked tid p)
        { s with server := s.server.moved tid { t with place := .send s.server.registry.clients } }
  | looked {s : Fanout ι α} {tid : Nat} {t : Thread ι} {c : ι} {left : List ι} :
      s.server.registry.threads[tid]? = some t → t.place = .send (c :: left) → s.looked tid = false →
      (s.server.ctx c).state = .playing →
      FanoutStep conf cfg channel s (.looked tid c) { s with looked := Function.update s.looked tid true }
  | skipped {s : Fanout ι α} {tid : Nat} {t : Thread ι} {c : ι} {left : List ι} :
      s.server.registry.threads[tid]? = some t → t.place = .send (c :: left) → s.looked tid = false →
      (s.server.ctx c).state ≠ .playing →
      FanoutStep conf cfg channel s (.skipped tid c)
        { s with server := s.server.moved tid { t with place := .send left } }
  | written {s : Fanout ι α} {tid : Nat} {t : Thread ι} {c : ι} {left : List ι} :
      s.server.registry.threads[tid]? = some t → t.place = .send (c :: left) → s.looked tid = true →
      FanoutStep conf cfg channel s
        (.written tid c (if (s.server.ctx c).fmtctx (channel t.proc) = none then none else s.packet tid))
        { s with server := s.server.moved tid { t with place := .send left },
                 looked := Function.update s.looked tid false }
  | failed {s : Fanout ι α} {tid : Nat} {t : Thread ι} {c : ι} {left : List ι} :
      s.server.registry.threads[tid]? = some t → t.place = .send (c :: left) → s.looked tid = true →
      (s.server.ctx c).fmtctx (channel t.proc) ≠ none →
      FanoutStep conf cfg channel s (.failed tid c)
        { s with server := s.server.moved tid { t with place := .send left },
                 looked := Function.update s.looked tid false }

def Fanout.start (ι α : Type*) : Fanout ι α := ⟨.start, fun _ => none, fun _ => false⟩

def fanout (ι α : Type*) [DecidableEq ι] (conf : Conf) (cfg : Setup) (channel : Proc → StreamId) :
    System (Fanout ι α) (FanoutEvent ι α) where
  Init s := s = .start ι α
  Step := FanoutStep conf cfg channel

/-! ## What becomes of the packets -/

def encodedBy (tid : Nat) : FanoutEvent ι α → Option α
  | .encoded tid' p => if tid' = tid then some p else none
  | _ => none

def lockedBy (tid : Nat) : FanoutEvent ι α → Option α
  | .locked tid' p => if tid' = tid then some p else none
  | _ => none

def receivedBy (tid : Nat) (c : ι) : FanoutEvent ι α → Option α
  | .written tid' c' p => if tid' = tid ∧ c' = c then p else none
  | _ => none

def Fanout.onWay (s : Fanout ι α) (tid : Nat) (c : ι) : List α :=
  match s.server.registry.threads[tid]?.map Thread.place with
  | some (.send left) => if c ∈ left then (s.packet tid).toList else []
  | _ => []

def FanoutEvent.party : FanoutEvent ι α → Party ι
  | .other l => l
  | .encoded tid _ | .locked tid _ | .looked tid _ | .skipped tid _ | .written tid _ _ | .failed tid _ =>
      .thread tid

variable {conf : Conf} {cfg : Setup} {channel : Proc → StreamId} {s t : Fanout ι α} {l : FanoutEvent ι α}
  {ls : List (FanoutEvent ι α)} {tid : Nat} {c : ι}

theorem FanoutStep.server (step : FanoutStep conf cfg channel s l t) :
    t.server = s.server ∨ Step conf cfg s.server l.party t.server := by
  cases step with
  | other step => exact .inr step
  | encoded here place => exact .inr (.thread (.thread here (.packet place)))
  | locked here place free => exact .inr (.thread (.thread here (.locked place free)))
  | looked => exact .inl rfl
  | skipped here place | written here place | failed here place =>
      exact .inr (.thread (.thread here (.visited place)))

theorem fanout_server (reachable : (fanout ι α conf cfg channel).Reachable s) :
    (server ι conf cfg).Reachable s.server := by
  refine System.Reachable.invariant (I := fun s => (server ι conf cfg).Reachable s.server) (fun s first => ?_)
    (fun s l t before step => ?_) reachable
  · obtain rfl : s = .start ι α := first
    exact .init rfl
  · rcases FanoutStep.server step with same | taken
    · rwa [same]
    · exact before.step taken

/-! ## The threads -/

inductive ThreadAfter (cfg : Setup) (l : Party ι) (s s' : Registry ι) (tid : Nat) : Prop
  | same : (s'.threads[tid]?.map fun t => (t.proc, t.place)) = (s.threads[tid]?.map fun t => (t.proc, t.place)) →
      l ≠ .thread tid → ThreadAfter cfg l s s' tid
  | spawned {proc : Proc} : s.threads[tid]? = none → s'.threads[tid]? = some ⟨proc, .init, 0, false⟩ →
      ThreadAfter cfg l s s' tid
  | stepped {t t' : Thread ι} : l = .thread tid → s.threads[tid]? = some t → s'.threads[tid]? = some t' →
      ThreadStep cfg s t t' → ThreadAfter cfg l s s' tid

theorem threadAfter {r r' : Registry ι} {l : Party ι} (step : Encoder.Step cfg r l r') (tid : Nat) :
    ThreadAfter cfg l r r' tid := by
  cases step with
  | client step =>
      rcases step.threads with same | ⟨⟨proc, same⟩, -⟩ | ⟨i, same⟩
      · exact .same (by rw [same]) nofun
      · rcases Nat.lt_trichotomy tid r.threads.length with before | last | behind
        · exact .same (by rw [same, List.getElem?_append_left before]) nofun
        · refine @ThreadAfter.spawned _ _ _ _ _ _ proc (List.getElem?_eq_none (Nat.le_of_eq last.symm)) ?_
          rw [same, last, List.getElem?_concat_length]
        · refine .same ?_ nofun
          rw [same, List.getElem?_eq_none (by simp; omega), List.getElem?_eq_none (Nat.le_of_lt behind)]
      · refine .same ?_ nofun
        rw [same, List.getElem?_modify]
        cases r.threads[tid]? with
        | none => rfl
        | some t =>
            simp only [Option.map_eq_map, Option.map_some]
            split_ifs <;> rfl
  | @thread moved t t' here step =>
      by_cases self : moved = tid
      · subst self
        have bound := (List.getElem?_eq_some_iff.mp here).1
        exact .stepped rfl here (List.getElem?_set_self bound) step
      · refine .same ?_ fun party => self (Party.thread.inj party)
        rw [List.getElem?_set_ne self]

def VisitsOnce {ι : Type*} (r : Registry ι) : Prop :=
  ∀ t ∈ r.threads, ∀ left, t.place = .send left → left.Nodup

theorem visitsOnce {r : Registry ι} (reachable : (encoders ι cfg).Reachable r) : VisitsOnce r := by
  refine reachable.invariant_of (I := Members) (fun r first => ?_) (fun r => members) fun r l r' among before step => ?_
  · obtain rfl : r = .start := first
    exact nofun
  · cases step with
    | client step =>
        intro t member left place
        rcases step.place_mem member with init | ⟨u, there, same⟩
        · rw [init] at place
          cases place
        · exact before u there left (same.trans place)
    | @thread _ u _ here step =>
        intro t member left place
        rcases List.mem_or_eq_of_mem_set member with there | rfl
        · exact before t there left place
        · cases step with
          | locked _ _ =>
              obtain rfl := ThreadPlace.send.inj place
              exact among.nodup
          | visited sending =>
              obtain rfl := ThreadPlace.send.inj place
              exact (List.nodup_cons.mp (before _ (List.mem_of_getElem? here) _ sending)).2
          | running | noPacket | sent => cases proc : u.proc <;> simp [proc, Proc.body, Proc.next] at place
          | _ => cases place

/-! ## One thread and one client -/

theorem Fanout.onWay_send {th : Thread ι} {left : List ι} (here : s.server.registry.threads[tid]? = some th)
    (place : th.place = .send left) : s.onWay tid c = if c ∈ left then (s.packet tid).toList else [] := by
  rw [Fanout.onWay, here, Option.map_some, place]

theorem Fanout.onWay_nil (here : ∀ th, s.server.registry.threads[tid]? = some th → ∀ left, th.place ≠ .send left) :
    s.onWay tid c = [] := by
  rw [Fanout.onWay]
  cases found : s.server.registry.threads[tid]? with
  | none => rfl
  | some th =>
      have elsewhere := here th found
      rw [Option.map_some]
      cases place : th.place with
      | send left => exact absurd place (elsewhere left)
      | _ => rfl

theorem Fanout.onWay_congr (packet : t.packet tid = s.packet tid)
    (place : t.server.registry.threads[tid]?.map Thread.place = s.server.registry.threads[tid]?.map Thread.place) :
    t.onWay tid c = s.onWay tid c := by
  rw [Fanout.onWay, Fanout.onWay, place, packet]

omit [DecidableEq ι] in
theorem State.moved_thread {moved : Nat} {th th' : Thread ι} {s : State ι}
    (here : s.registry.threads[moved]? = some th) : (s.moved moved th').registry.threads[moved]? = some th' :=
  List.getElem?_set_self (List.getElem?_eq_some_iff.mp here).1

omit [DecidableEq ι] in
theorem State.moved_other {moved : Nat} {th : Thread ι} {s : State ι} (other : moved ≠ tid) :
    (s.moved moved th).registry.threads[tid]? = s.registry.threads[tid]? :=
  List.getElem?_set_ne other

theorem Untold.onWay {party : Party ι} {server : State ι} (step : Step conf cfg s.server party server)
    (untold : Untold party s.server.registry server.registry) (tid : Nat) (c : ι) :
    Fanout.onWay { s with server := server } tid c = s.onWay tid c := by
  rcases step.registry with same | step
  · exact Fanout.onWay_congr rfl (by rw [same])
  · cases threadAfter step tid with
    | same place _ =>
        refine Fanout.onWay_congr rfl ?_
        have places := congrArg (Option.map Prod.snd) place
        simpa only [Option.map_map, Function.comp_def] using places
    | spawned before after =>
        rw [Fanout.onWay_nil, Fanout.onWay_nil]
        · rw [before]
          nofun
        · intro th found left
          obtain rfl := Option.some.inj (after.symm.trans found)
          nofun
    | @stepped th th' acts before after step =>
        have told := (untold tid th th' acts before after).2
        rw [Fanout.onWay_nil, Fanout.onWay, before, Option.map_some]
        · cases step with
          | visited => exact absurd rfl (told _)
          | sent place =>
              rw [place]
              exact (if_neg List.not_mem_nil).symm
          | read _ place | _ place => rw [place]
        · intro u found left
          obtain rfl := Option.some.inj (after.symm.trans found)
          exact told left

theorem VisitsOnce.onWay (once : VisitsOnce s.server.registry) {moved : Nat} {th : Thread ι} {d : ι} {left : List ι}
    (here : s.server.registry.threads[moved]? = some th) (place : th.place = .send (d :: left)) (tid : Nat) (c : ι)
    (looked : Nat → Bool) :
    moved = tid ∧ d = c ∧ s.onWay tid c = (s.packet tid).toList ∧
        Fanout.onWay ⟨s.server.moved moved { th with place := .send left }, s.packet, looked⟩ tid c = [] ∨
      ¬ (moved = tid ∧ d = c) ∧
        Fanout.onWay ⟨s.server.moved moved { th with place := .send left }, s.packet, looked⟩ tid c =
          s.onWay tid c := by
  by_cases self : moved = tid
  · subst self
    have apart := List.nodup_cons.mp (once th (List.mem_of_getElem? here) _ place)
    by_cases same : d = c
    · subst same
      refine .inl ⟨rfl, rfl, ?_, ?_⟩
      · rw [Fanout.onWay_send here place, if_pos List.mem_cons_self]
      · rw [Fanout.onWay_send (State.moved_thread here) rfl, if_neg apart.1]
    · refine .inr ⟨fun both => same both.2, ?_⟩
      rw [Fanout.onWay_send here place, Fanout.onWay_send (State.moved_thread here) rfl]
      simp [Ne.symm same]
  · refine .inr ⟨fun both => self both.1, Fanout.onWay_congr rfl ?_⟩
    rw [State.moved_other self]

inductive Carries (channel : Proc → StreamId) (tid : Nat) (c : ι) (s : Fanout ι α) (l : FanoutEvent ι α)
    (t : Fanout ι α) : Prop
  | elsewhere : lockedBy tid l = none → receivedBy tid c l = none → t.onWay tid c = s.onWay tid c →
      Carries channel tid c s l t
  | locks {p : α} : l = .locked tid p → s.onWay tid c = [] →
      t.onWay tid c = (if c ∈ s.server.registry.clients then [p] else []) → Carries channel tid c s l t
  | skips : l = .skipped tid c → (s.server.ctx c).state ≠ .playing → t.onWay tid c = [] →
      Carries channel tid c s l t
  | writes {th : Thread ι} : s.server.registry.threads[tid]? = some th →
      l = .written tid c (if (s.server.ctx c).fmtctx (channel th.proc) = none then none else s.packet tid) →
      s.onWay tid c = (s.packet tid).toList → t.onWay tid c = [] → Carries channel tid c s l t
  | fails : l = .failed tid c → t.onWay tid c = [] → Carries channel tid c s l t

theorem carries_encoded {moved : Nat} {th : Thread ι} {p : α} (here : s.server.registry.threads[moved]? = some th)
    (place : th.place = .encode) (tid : Nat) (c : ι) :
    Carries channel tid c s (.encoded moved p) { s with
      server := s.server.moved moved { th with place := .tryrdlock },
      packet := Function.update s.packet moved (some p) } := by
  refine .elsewhere rfl rfl ?_
  by_cases self : moved = tid
  · subst self
    rw [Fanout.onWay_nil, Fanout.onWay_nil]
    · intro u found left
      obtain rfl := Option.some.inj (here.symm.trans found)
      rw [place]
      nofun
    · intro u found left
      obtain rfl := Option.some.inj ((State.moved_thread here).symm.trans found)
      nofun
  · refine Fanout.onWay_congr (Function.update_of_ne (Ne.symm self) _ _) ?_
    rw [State.moved_other self]

theorem carries_locked {moved : Nat} {th : Thread ι} {p : α} (here : s.server.registry.threads[moved]? = some th)
    (place : th.place = .tryrdlock) (packet : s.packet moved = some p) (tid : Nat) (c : ι) :
    Carries channel tid c s (.locked moved p) { s with
      server := s.server.moved moved { th with place := .send s.server.registry.clients } } := by
  by_cases self : moved = tid
  · subst self
    refine .locks rfl (Fanout.onWay_nil ?_) ?_
    · intro u found left
      obtain rfl := Option.some.inj (here.symm.trans found)
      rw [place]
      nofun
    · rw [Fanout.onWay_send (State.moved_thread here) rfl, packet]
      rfl
  · refine .elsewhere (if_neg self) rfl (Fanout.onWay_congr rfl ?_)
    rw [State.moved_other self]

theorem FanoutStep.carries (step : FanoutStep conf cfg channel s l t)
    (once : VisitsOnce s.server.registry) (tid : Nat) (c : ι) :
    Carries channel tid c s l t := by
  cases step with
  | other step untold => exact .elsewhere rfl rfl (untold.onWay step tid c)
  | encoded here place => exact carries_encoded here place tid c
  | locked here place _ packet => exact carries_locked here place packet tid c
  | looked => exact .elsewhere rfl rfl (Fanout.onWay_congr rfl rfl)
  | skipped here place _ state =>
      rcases once.onWay here place tid c _ with ⟨rfl, rfl, -, after⟩ | ⟨-, same⟩
      · exact .skips rfl state after
      · exact .elsewhere rfl rfl same
  | written here place _ =>
      rcases once.onWay here place tid c _ with ⟨rfl, rfl, before, after⟩ | ⟨apart, same⟩
      · exact .writes here rfl before after
      · exact .elsewhere rfl (if_neg apart) same
  | failed here place =>
      rcases once.onWay here place tid c _ with ⟨rfl, rfl, -, after⟩ | ⟨-, same⟩
      · exact .fails rfl after
      · exact .elsewhere rfl rfl same

/-! ## From the encoder to the lock -/

/-- What has been encoded, and not been taken to the clients, by the place of the thread. -/
def Due {ι α : Type*} (packet : Option α) : Option (ThreadPlace ι) → List α → Prop
  | some .tryrdlock, due | some .launchedTest, due => packet.toList = due ∧ due.length = 1
  | some .quit, due | some .ended, due => due.length ≤ 1
  | _, due => due = []

omit [DecidableEq ι] in
theorem Due.length_le {packet : Option α} {place : Option (ThreadPlace ι)} {due : List α}
    (holds : Due packet place due) : due.length ≤ 1 := by
  unfold Due at holds
  split at holds
  · exact Nat.le_of_eq holds.2
  · exact Nat.le_of_eq holds.2
  · exact holds
  · exact holds
  · rw [holds]
    exact Nat.zero_le 1

omit [DecidableEq ι] in
/-- A thread that gives up takes its last packet to no one. -/
theorem due_stepped {r : Registry ι} {th th' : Thread ι} (step : ThreadStep cfg r th th') {packet : Option α}
    {due : List α} (holds : Due packet (some th.place) due) (unencoded : th.place = .encode → th'.place ≠ .tryrdlock)
    (unsent : ∀ left, th'.place ≠ .send left) : Due packet (some th'.place) due := by
  cases step with
  | packet place => exact absurd rfl (unencoded place)
  | locked | visited => exact absurd rfl (unsent _)
  | gaveUp | quitted | startFailed | startReturned | stopped | mismatched | encodeFailed => exact holds.length_le
  | running place | noPacket place | sent place =>
      rw [place] at holds
      cases proc : th.proc <;> exact holds
  | read _ place | _ place =>
      rw [place] at holds
      exact holds

def Fanout.due (s : Fanout ι α) (tid : Nat) : List α → Prop :=
  Due (s.packet tid) (s.server.registry.threads[tid]?.map Thread.place)

theorem due_other {party : Party ι} {server : State ι} (step : Step conf cfg s.server party server)
    (untold : Untold party s.server.registry server.registry) {due : List α} (holds : s.due tid due) :
    Fanout.due { s with server := server } tid due := by
  unfold Fanout.due at holds ⊢
  rcases step.registry with same | step
  · rwa [same]
  · cases threadAfter step tid with
    | same place _ =>
        have places := congrArg (Option.map Prod.snd) place
        simp only [Option.map_map, Function.comp_def] at places
        rwa [places]
    | spawned before after =>
        rw [before] at holds
        rw [after]
        exact holds
    | @stepped th th' acts before after step =>
        rw [before] at holds
        rw [after]
        obtain ⟨unencoded, unsent⟩ := untold tid th th' acts before after
        exact due_stepped step holds unencoded unsent

omit [DecidableEq ι] in
theorem due_encoded {moved : Nat} {th : Thread ι} {p : α} (here : s.server.registry.threads[moved]? = some th)
    (place : th.place = .encode) {due : List α} (holds : s.due tid due) : Fanout.due { s with
      server := s.server.moved moved { th with place := .tryrdlock },
      packet := Function.update s.packet moved (some p) } tid
        (due ++ (encodedBy (ι := ι) tid (.encoded moved p)).toList) := by
  unfold Fanout.due at holds ⊢
  by_cases self : moved = tid
  · subst self
    rw [here, Option.map_some, place] at holds
    obtain rfl : due = [] := holds
    rw [State.moved_thread here, encodedBy, if_pos rfl]
    dsimp only
    rw [Function.update_self]
    exact ⟨rfl, rfl⟩
  · rw [State.moved_other self, encodedBy, if_neg self]
    dsimp only
    rwa [Function.update_of_ne (Ne.symm self), Option.toList_none, List.append_nil]

omit [DecidableEq ι] in
theorem due_locked {moved : Nat} {th : Thread ι} {p : α} (here : s.server.registry.threads[moved]? = some th)
    (place : th.place = .tryrdlock) (packet : s.packet moved = some p) (left : List ι) {due : List α}
    (holds : s.due tid due) : ∃ due', Fanout.due { s with
      server := s.server.moved moved { th with place := .send left } } tid due' ∧
        (lockedBy (ι := ι) tid (.locked moved p)).toList ++ due' = due := by
  unfold Fanout.due at holds ⊢
  by_cases self : moved = tid
  · subst self
    rw [here, Option.map_some, place, packet] at holds
    obtain ⟨rfl, -⟩ := holds
    rw [State.moved_thread here, lockedBy, if_pos rfl]
    exact ⟨[], rfl, rfl⟩
  · rw [State.moved_other self, lockedBy, if_neg self]
    exact ⟨due, holds, rfl⟩

omit [DecidableEq ι] in
theorem due_visited {moved : Nat} {th : Thread ι} {d : ι} {left : List ι}
    (here : s.server.registry.threads[moved]? = some th) (place : th.place = .send (d :: left)) {due : List α}
    (holds : s.due tid due) {looked : Nat → Bool} : Fanout.due { s with
      server := s.server.moved moved { th with place := .send left }, looked := looked } tid due := by
  unfold Fanout.due at holds ⊢
  by_cases self : moved = tid
  · subst self
    rw [here, Option.map_some, place] at holds
    rw [State.moved_thread here]
    exact holds
  · rw [State.moved_other self]
    exact holds

theorem FanoutStep.due (step : FanoutStep conf cfg channel s l t) {due : List α} (holds : s.due tid due) :
    ∃ due', t.due tid due' ∧ (lockedBy tid l).toList ++ due' = due ++ (encodedBy tid l).toList := by
  cases step with
  | other step untold => exact ⟨due, due_other step untold holds, (List.append_nil due).symm⟩
  | encoded here place => exact ⟨_, due_encoded here place holds, rfl⟩
  | locked here place _ packet =>
      obtain ⟨due', after, account⟩ := due_locked here place packet _ holds
      exact ⟨due', after, account.trans (List.append_nil due).symm⟩
  | looked => exact ⟨due, holds, (List.append_nil due).symm⟩
  | skipped here place | written here place | failed here place =>
      exact ⟨due, due_visited here place holds, (List.append_nil due).symm⟩

/-! ## A client that plays -/

structure Attends (conf : Conf) (cfg : Setup) (channel : Proc → StreamId) (tid : Nat) (c : ι) (s : State ι) :
    Prop where
  reachable : (server ι conf cfg).Reachable s
  member : c ∈ s.registry.clients
  thread : ∃ th, s.registry.threads[tid]? = some th ∧ (s.ctx c).fmtctx (channel th.proc) ≠ none

theorem Attends.step {s t : State ι} {l : Party ι} (attends : Attends conf cfg channel tid c s)
    (playing : (s.ctx c).state = .playing) (step : Step conf cfg s l t) : Attends conf cfg channel tid c t := by
  have phases := phase attends.reachable c
  refine ⟨attends.reachable.step step, ?_, ?_⟩
  · rcases Step.registry step with same | registry
    · rw [same]
      exact attends.member
    · generalize t.registry = r at registry
      cases registry with
      | client registry =>
          rcases registry.clients with same | ⟨-, inserted, -⟩ | ⟨erase, erased, -⟩
          · rw [same]
            exact attends.member
          · rw [inserted]
            exact List.mem_insert_of_mem attends.member
          · rw [erased]
            refine (List.mem_erase_of_ne ?_).mpr attends.member
            rintro rfl
            have left := (phases.left (by rw [erase]; rfl)).1
            rw [playing] at left
            cases left
      | thread => exact attends.member
  · obtain ⟨th, here, opened⟩ := attends.thread
    have frozen := (phases.frozen (.inl attends.member) step).fmtctx
    rcases Step.registry step with same | registry
    · exact ⟨th, by rw [same]; exact here, by rw [frozen]; exact opened⟩
    · cases threadAfter registry tid with
      | same place _ =>
          rw [here, Option.map_some] at place
          obtain ⟨th', there, same⟩ := Option.map_eq_some_iff.mp place
          refine ⟨th', there, ?_⟩
          rw [frozen, (Prod.mk.inj same).1]
          exact opened
      | spawned before _ => cases here.symm.trans before
      | @stepped u u' _ before after registry =>
          obtain rfl := Option.some.inj (here.symm.trans before)
          refine ⟨u', after, ?_⟩
          rw [frozen, registry.proc_joined.1]
          exact opened

/-! ## Deliveries -/

/-- The thread has found the client playing, and has done nothing since. -/
def Looked (conf : Conf) (cfg : Setup) (channel : Proc → StreamId) (tid : Nat) (c : ι)
    (ls : List (FanoutEvent ι α)) : Prop :=
  ∃ before since u, ls = before ++ .looked tid c :: since ∧
    (fanout ι α conf cfg channel).Run (.start ι α) before u ∧ (u.server.ctx c).state = .playing ∧
    ∀ l ∈ since, l.party ≠ .thread tid

theorem Looked.later (looked : Looked conf cfg channel tid c ls) (other : l.party ≠ .thread tid) :
    Looked conf cfg channel tid c (ls ++ [l]) := by
  obtain ⟨before, since, u, rfl, run, playing, silent⟩ := looked
  refine ⟨before, since ++ [l], u, List.append_assoc .., run, playing, fun l' member => ?_⟩
  rcases List.mem_append.mp member with earlier | now
  · exact silent l' earlier
  · rwa [List.mem_singleton.mp now]

def Fanout.LookedAt (conf : Conf) (cfg : Setup) (channel : Proc → StreamId) (tid : Nat)
    (ls : List (FanoutEvent ι α)) (s : Fanout ι α) : Prop :=
  s.looked tid = true → ∃ th c left, s.server.registry.threads[tid]? = some th ∧ th.place = .send (c :: left) ∧
    Looked conf cfg channel tid c ls

theorem Fanout.LookedAt.elsewhere (before : s.LookedAt conf cfg channel tid ls) (other : l.party ≠ .thread tid)
    (looked : t.looked tid = s.looked tid)
    (place : ∀ th left, s.server.registry.threads[tid]? = some th → th.place = .send left →
      ∃ th', t.server.registry.threads[tid]? = some th' ∧ th'.place = .send left) :
    t.LookedAt conf cfg channel tid (ls ++ [l]) := by
  intro now
  obtain ⟨th, c, left, here, sending, seen⟩ := before (looked ▸ now)
  obtain ⟨th', there, sending⟩ := place th _ here sending
  exact ⟨th', c, left, there, sending, seen.later other⟩

theorem Untold.elsewhere {party : Party ι} {r r' : Registry ι} (untold : Untold party r r')
    (step : Encoder.Step cfg r party r') {th : Thread ι} {left : List ι}
    (here : r.threads[tid]? = some th) (place : th.place = .send (c :: left)) :
    party ≠ .thread tid ∧ ∃ th', r'.threads[tid]? = some th' ∧ th'.place = .send (c :: left) := by
  cases threadAfter step tid with
  | same same other =>
      rw [here, Option.map_some] at same
      obtain ⟨th', there, same⟩ := Option.map_eq_some_iff.mp same
      exact ⟨other, th', there, (Prod.mk.inj same).2.trans place⟩
  | spawned before after => cases here.symm.trans before
  | @stepped u u' acts before after step =>
      obtain rfl := Option.some.inj (here.symm.trans before)
      have told := (untold tid th u' acts here after).2
      cases step with
      | visited => exact absurd rfl (told _)
      | read _ elsewhere | _ elsewhere => cases place.symm.trans elsewhere

theorem FanoutStep.lookedAt (run : (fanout ι α conf cfg channel).Run (.start ι α) ls s)
    (step : FanoutStep conf cfg channel s l t) (before : s.LookedAt conf cfg channel tid ls) :
    t.LookedAt conf cfg channel tid (ls ++ [l]) := by
  cases step with
  | @other party server step untold =>
      intro now
      obtain ⟨th, c, left, here, place, seen⟩ := before now
      rcases step.registry with same | registry
      · refine ⟨th, c, left, by rwa [same], place, seen.later ?_⟩
        rintro rfl
        cases step with
        | thread step => exact (untold.elsewhere step here place).1 rfl
      · obtain ⟨other, th', there, place⟩ := untold.elsewhere registry here place
        exact ⟨th', c, left, there, place, seen.later other⟩
  | @encoded moved th p here place | @locked moved th p here place =>
      by_cases self : moved = tid
      · subst self
        intro now
        obtain ⟨u, c, left, there, sending, -⟩ := before now
        obtain rfl := Option.some.inj (here.symm.trans there)
        cases place.symm.trans sending
      · refine before.elsewhere (fun same => self (Party.thread.inj same)) rfl fun u left there sending => ?_
        exact ⟨u, (State.moved_other self).trans there, sending⟩
  | @looked moved th c left here place _ playing =>
      by_cases self : moved = tid
      · subst self
        exact fun _ => ⟨th, c, left, here, place, ls, [], s, rfl, run, playing, nofun⟩
      · exact before.elsewhere (fun same => self (Party.thread.inj same)) (Function.update_of_ne (Ne.symm self) _ _)
          fun u left there sending => ⟨u, there, sending⟩
  | @skipped moved th c left here place unseen _ =>
      by_cases self : moved = tid
      · subst self
        exact fun now => by cases unseen.symm.trans now
      · exact before.elsewhere (fun same => self (Party.thread.inj same)) rfl
          fun u left there sending => ⟨u, (State.moved_other self).trans there, sending⟩
  | @written moved th c left here place | @failed moved th c left here place =>
      by_cases self : moved = tid
      · subst self
        exact fun now => by cases (Function.update_self ..).symm.trans now
      · exact before.elsewhere (fun same => self (Party.thread.inj same)) (Function.update_of_ne (Ne.symm self) _ _)
          fun u left there sending => ⟨u, (State.moved_other self).trans there, sending⟩

theorem lookedAt (run : (fanout ι α conf cfg channel).Run (.start ι α) ls s) (tid : Nat) :
    s.LookedAt conf cfg channel tid ls := by
  have step (ls : List (FanoutEvent ι α)) (s : Fanout ι α) (l : FanoutEvent ι α) (t : Fanout ι α)
      (before : (fanout ι α conf cfg channel).Run (.start ι α) ls s ∧ s.LookedAt conf cfg channel tid ls)
      (taken : (fanout ι α conf cfg channel).Step s l t) :
      (fanout ι α conf cfg channel).Run (.start ι α) (ls ++ [l]) t ∧ t.LookedAt conf cfg channel tid (ls ++ [l]) :=
    ⟨before.1.snoc taken, FanoutStep.lookedAt before.1 taken before.2⟩
  exact (run.history (I := fun ls s => (fanout ι α conf cfg channel).Run (.start ι α) ls s ∧
    s.LookedAt conf cfg channel tid ls) step [] ⟨.nil _, nofun⟩).2

structure Entitled (conf : Conf) (cfg : Setup) (channel : Proc → StreamId) (tid : Nat) (c : ι) (p : α)
    (ls : List (FanoutEvent ι α)) (s : Fanout ι α) : Prop where
  packet : s.packet tid = some p
  member : c ∈ s.server.registry.clients
  initialised : s.server.deinit c = false
  opened : ∃ th, s.server.registry.threads[tid]? = some th ∧ (s.server.ctx c).fmtctx (channel th.proc) ≠ none
  looked : Looked conf cfg channel tid c ls

theorem entitled_of_written (run : (fanout ι α conf cfg channel).Run (.start ι α) ls s) {p : α}
    (step : (fanout ι α conf cfg channel).Step s (.written tid c (some p)) t) :
    Entitled conf cfg channel tid c p ls s := by
  have server := fanout_server (run.invariant (fun s l t => System.Reachable.step) (.init rfl))
  generalize label : FanoutEvent.written tid c (some p) = l at step
  cases step with
  | @written moved th d left here place seen =>
      obtain ⟨rfl, rfl, sent⟩ := FanoutEvent.written.inj label
      have member := (members (registry_reachable server)).visits th (List.mem_of_getElem? here) _ place c
        List.mem_cons_self
      obtain ⟨u, d, rest, there, sending, looked⟩ := lookedAt run tid seen
      obtain rfl := Option.some.inj (here.symm.trans there)
      obtain ⟨rfl, -⟩ := List.cons_eq_cons.mp (ThreadPlace.send.inj (place.symm.trans sending))
      split_ifs at sent with opened
      exact ⟨sent.symm, member, deinit_of_member server member, ⟨th, here, opened⟩, looked⟩
  | _ => cases label

def playing (conf : Conf) (cfg : Setup) (channel : Proc → StreamId) (tid : Nat) (c : ι) :
    System (Fanout ι α) (FanoutEvent ι α) :=
  (fanout ι α conf cfg channel).restrict fun s l _ => (s.server.ctx c).state = .playing ∧ l ≠ .failed tid c

theorem received_part (reachable : (fanout ι α conf cfg channel).Reachable s)
    (run : (fanout ι α conf cfg channel).Run s ls t) (tid : Nat) (c : ι) :
    (ls.filterMap (receivedBy tid c) ++ t.onWay tid c).Sublist (s.onWay tid c ++ ls.filterMap (lockedBy tid)) := by
  have step (s : Fanout ι α) (l : FanoutEvent ι α) (t : Fanout ι α)
      (reachable : (fanout ι α conf cfg channel).Reachable s) (step : (fanout ι α conf cfg channel).Step s l t) :
      ((receivedBy tid c l).toList ++ t.onWay tid c).Sublist (s.onWay tid c ++ (lockedBy tid l).toList) := by
    have once := visitsOnce (registry_reachable (fanout_server reachable))
    cases FanoutStep.carries step once tid c with
    | elsewhere unlocked unreceived same =>
        rw [unlocked, unreceived, same, Option.toList_none, List.append_nil]
        exact .refl _
    | locks label before after =>
        rw [label, before, after, lockedBy, if_pos rfl]
        split_ifs
        · exact .refl _
        · exact List.nil_sublist _
    | skips label _ after =>
        rw [label, after]
        exact List.nil_sublist _
    | writes _ label before after =>
        rw [label, before, after, receivedBy, if_pos ⟨rfl, rfl⟩, List.append_nil]
        split_ifs
        · exact List.nil_sublist _
        · exact List.sublist_append_left _ _
    | fails label after =>
        rw [label, after]
        exact List.nil_sublist _
  exact run.balance_rel (I := (fanout ι α conf cfg channel).Reachable) System.accounts_sublist
    (fun s => s.onWay tid c) (fun s l t => System.Reachable.step) step reachable

theorem Fanout.waiting_le {due : List α} (holds : s.due tid due) (c : ι) :
    (s.onWay tid c ++ due).length ≤ 1 := by
  unfold Fanout.due at holds
  unfold Fanout.onWay
  generalize s.server.registry.threads[tid]?.map Thread.place = place at holds ⊢
  cases place with
  | none =>
      obtain rfl : due = [] := holds
      exact Nat.zero_le 1
  | some place =>
      cases place with
      | send left =>
          obtain rfl : due = [] := holds
          rw [List.append_nil]
          dsimp only
          split_ifs
          · exact Option.length_toList_le
          · exact Nat.zero_le 1
      | _ => exact holds.length_le

theorem due_of_reachable (reachable : (fanout ι α conf cfg channel).Reachable s) (tid : Nat) :
    ∃ due, s.due tid due := by
  refine reachable.invariant (I := fun s => ∃ due, s.due tid due) (fun s first => ?_) fun s l t holds step => ?_
  · obtain rfl : s = .start ι α := first
    exact ⟨[], rfl⟩
  · obtain ⟨due, holds⟩ := holds
    obtain ⟨due', kept, -⟩ := FanoutStep.due step holds
    exact ⟨due', kept⟩

theorem locked_account (run : (fanout ι α conf cfg channel).Run s ls t) {due : List α} (holds : s.due tid due) :
    ∃ due', t.due tid due' ∧ ls.filterMap (lockedBy tid) ++ due' = due ++ ls.filterMap (encodedBy tid) := by
  have kept (s : Fanout ι α) (l : FanoutEvent ι α) (t : Fanout ι α) (due : List α) (holds : s.due tid due)
      (step : (fanout ι α conf cfg channel).Step s l t) :
      ∃ due', t.due tid due' ∧ (lockedBy tid l).toList ++ due' = due ++ (encodedBy tid l).toList :=
    FanoutStep.due step holds
  exact run.account System.accounts_eq kept holds

theorem received_all {th : Thread ι} (reachable : (fanout ι α conf cfg channel).Reachable s)
    (member : c ∈ s.server.registry.clients) (here : s.server.registry.threads[tid]? = some th)
    (opened : (s.server.ctx c).fmtctx (channel th.proc) ≠ none)
    (run : (playing conf cfg channel tid c).Run s ls t) :
    s.onWay tid c ++ ls.filterMap (lockedBy tid) = ls.filterMap (receivedBy tid c) ++ t.onWay tid c := by
  have attends : Attends conf cfg channel tid c s.server := ⟨fanout_server reachable, member, th, here, opened⟩
  refine run.balance_option (I := fun s => Attends conf cfg channel tid c s.server) (fun s => s.onWay tid c)
    (fun s l t attends step => ?_) (fun s l t attends step => ?_) attends
  · obtain ⟨⟨playing, -⟩, step⟩ := step
    rcases FanoutStep.server step with same | taken
    · rwa [same]
    · exact attends.step playing taken
  · obtain ⟨⟨playing, writes⟩, step⟩ := step
    have once := visitsOnce (registry_reachable attends.reachable)
    cases FanoutStep.carries step once tid c with
    | elsewhere unlocked unreceived same =>
        rw [unlocked, unreceived, same, Option.toList_none, List.append_nil]
        rfl
    | locks label before after =>
        rw [label, before, after, lockedBy, if_pos rfl, if_pos attends.member]
        rfl
    | skips _ state _ => exact absurd playing state
    | @writes u found label before after =>
        obtain ⟨th, here, opened⟩ := attends.thread
        obtain rfl := Option.some.inj (here.symm.trans found)
        rw [label, before, after, if_neg opened, receivedBy, if_pos ⟨rfl, rfl⟩]
        rfl
    | fails label => exact absurd label writes

structure Fanout.Delivers (conf : Conf) (cfg : Setup) (channel : Proc → StreamId) (ls : List (FanoutEvent ι α))
    (s : Fanout ι α) : Prop where
  locked : ∀ tid, ∃ rest, ls.filterMap (encodedBy tid) = ls.filterMap (lockedBy tid) ++ rest ∧ rest.length ≤ 1
  received : ∀ tid c, (ls.filterMap (receivedBy tid c)).Sublist (ls.filterMap (lockedBy tid))
  entitled : ∀ tid c p t, (fanout ι α conf cfg channel).Step s (.written tid c (some p)) t →
    Entitled conf cfg channel tid c p ls s
  all : ∀ tid c th, c ∈ s.server.registry.clients → s.server.registry.threads[tid]? = some th →
    (s.server.ctx c).fmtctx (channel th.proc) ≠ none → ∀ ls' t, (playing conf cfg channel tid c).Run s ls' t →
      s.onWay tid c ++ ls'.filterMap (lockedBy tid) = ls'.filterMap (receivedBy tid c) ++ t.onWay tid c

/-- The packets that an encoder thread encodes go to the clients in their order, but for the last one where
the thread gives up. Some of them are written for a client, each once, where it has just been found playing; and all
are from the time when it is registered with a stream for them, as long as it plays and no write for it fails. -/
theorem fanout_delivers (run : (fanout ι α conf cfg channel).Run (.start ι α) ls s) :
    s.Delivers conf cfg channel ls := by
  have reachable : (fanout ι α conf cfg channel).Reachable s :=
    run.invariant (fun s l t => System.Reachable.step) (.init rfl)
  refine ⟨fun tid => ?_, fun tid c => ?_, fun tid c p t => entitled_of_written run,
    fun tid c th member here opened ls' t => received_all reachable member here opened⟩
  · have start : (Fanout.start ι α).due tid [] := rfl
    obtain ⟨rest, due, account⟩ := locked_account run start
    exact ⟨rest, account.symm, due.length_le⟩
  · exact (List.sublist_append_left _ _).trans (received_part (.init rfl) run tid c)

omit [DecidableEq ι] in
theorem inside_of_ctx {r r' : State ι} (same : r'.ctx = r.ctx) : Inside conf r r' :=
  fun _ _ c changed => absurd (congrFun same c) changed

omit [DecidableEq ι] in
theorem inside_of_place {r r' : State ι} (moved : r'.registry.place c ≠ r.registry.place c) : Inside conf r r' :=
  fun same => absurd (by rw [same]) moved

omit [DecidableEq ι] in
theorem inside_of_pending {r r' : State ι} (answered : r'.pending c ≠ r.pending c) : Inside conf r r' :=
  fun _ same => absurd (by rw [same]) answered

theorem inside_of_request {r : State ι} {q : Request} {e : Env} {d : RTSPContext} {reply : Reply}
    (answered : handle conf q e (r.ctx c) = .ok (d, reply)) (inside : StaysInside conf q (r.ctx c)) :
    Inside conf r { r with ctx := Function.update r.ctx c d } := by
  intro _ _ b changed
  by_cases same : b = c
  · subst same
    have now : Function.update r.ctx b d b = d := Function.update_self ..
    exact ⟨q, e, reply, answered.trans (congrArg (fun d => Except.ok (d, reply)) now.symm), inside⟩
  · exact absurd (Function.update_of_ne same _ _) changed

/-- The thread has found the client playing, and the client pauses before the packet is written. -/
theorem fanout_delivers_paused : ∃ (ls : List (FanoutEvent Unit Nat)) (s : Fanout Unit Nat),
    ls.filterMap (receivedBy 0 ()) = [5, 6] ∧ (s.server.ctx ()).state = .pause ∧
      s.Delivers desktopConf oneChannel (fun _ => 0) ls := by
  have told {r r' : Registry Unit} {th : Thread Unit} (here : r'.threads[0]? = some th)
      (elsewhere : th.place ≠ .tryrdlock ∧ ∀ left, th.place ≠ .send left) : Untold (.thread 0) r r' := by
    intro tid t t' party before after
    obtain rfl : 0 = tid := Party.thread.inj party
    obtain rfl := Option.some.inj (here.symm.trans after)
    exact ⟨fun _ => elsewhere.1, elsewhere.2⟩
  have quiet {r r' : Registry Unit} : Untold (.client ()) r r' := fun _ _ _ party => nomatch party
  have same {r r' : State Unit} (same : r'.ctx = r.ctx) : Inside desktopConf r r' := inside_of_ctx same
  have start : (fanout Unit Nat desktopConf oneChannel fun _ => 0).Run (.start Unit Nat) [] (.start Unit Nat) :=
    .nil _
  have setup := start.snoc (.other (.request (c := ()) (r := desktopRequest .setup []) (e := obligingEnv)
    ⟨⟨none, rfl⟩, rfl⟩ (by decide) (fun registers => nomatch registers.2.1) rfl) quiet
    (inside_of_request (q := desktopRequest .setup []) (e := obligingEnv) rfl (desktopRequest_inside _ _ _)))
  have play := setup.snoc (.other (.play (c := ()) (r := desktopRequest .play (ascii "12345678"))
    (e := obligingEnv) ⟨⟨none, rfl⟩, rfl⟩ (by decide) ⟨rfl, rfl, rfl⟩) quiet (inside_of_place (c := ()) nofun))
  have s₁ := play.snoc
    (.other (.client (c := ()) nofun (.regWrlock rfl rfl (Registry.noReaders_nil rfl))) quiet (same rfl))
  have s₂ := s₁.snoc (.other (.client (c := ()) nofun (.regFirst rfl rfl)) quiet (same rfl))
  have s₃ := s₂.snoc (.other (.client (c := ()) nofun (.regVideo rfl (by decide))) quiet (same rfl))
  have s₄ := s₃.snoc (.other (.client (c := ()) nofun (.regVideoDone rfl)) quiet (same rfl))
  have s₅ := s₄.snoc (.other (.client (c := ()) nofun (.regAudio rfl rfl)) quiet (same rfl))
  have s₆ := s₅.snoc (.other (.client (c := ()) nofun (.regInsert rfl)) quiet (same rfl))
  have s₇ := s₆.snoc (.other (.client (c := ()) nofun (.regUnlock rfl)) quiet (same rfl))
  have played := s₇.snoc (.other (.played (c := ()) rfl rfl) quiet (inside_of_pending (c := ()) nofun))
  have started := played.snoc (.other (.thread (.thread rfl (.started rfl))) (told rfl ⟨nofun, nofun⟩) (same rfl))
  have running := started.snoc
    (.other (.thread (.thread rfl (.running rfl rfl))) (told rfl ⟨nofun, nofun⟩) (same rfl))
  have loaded := running.snoc (.other (.thread (.thread rfl (.loaded rfl))) (told rfl ⟨nofun, nofun⟩) (same rfl))
  have converted := loaded.snoc
    (.other (.thread (.thread rfl (.converted rfl))) (told rfl ⟨nofun, nofun⟩) (same rfl))
  have encoded := converted.snoc (@FanoutStep.encoded _ _ _ _ _ _ _ 0 _ 5 rfl rfl)
  have locked := encoded.snoc (@FanoutStep.locked _ _ _ _ _ _ _ 0 _ 5 rfl rfl rfl rfl)
  have looked := locked.snoc (@FanoutStep.looked _ _ _ _ _ _ _ 0 _ () _ rfl rfl rfl rfl)
  have written := looked.snoc (@FanoutStep.written _ _ _ _ _ _ _ 0 _ () _ rfl rfl rfl)
  have sent := written.snoc (.other (.thread (.thread rfl (.sent rfl))) (told rfl ⟨nofun, nofun⟩) (same rfl))
  have again := sent.snoc (.other (.thread (.thread rfl (.running rfl rfl))) (told rfl ⟨nofun, nofun⟩) (same rfl))
  have loaded := again.snoc (.other (.thread (.thread rfl (.loaded rfl))) (told rfl ⟨nofun, nofun⟩) (same rfl))
  have converted := loaded.snoc
    (.other (.thread (.thread rfl (.converted rfl))) (told rfl ⟨nofun, nofun⟩) (same rfl))
  have encoded := converted.snoc (@FanoutStep.encoded _ _ _ _ _ _ _ 0 _ 6 rfl rfl)
  have locked := encoded.snoc (@FanoutStep.locked _ _ _ _ _ _ _ 0 _ 6 rfl rfl rfl rfl)
  have looked := locked.snoc (@FanoutStep.looked _ _ _ _ _ _ _ 0 _ () _ rfl rfl rfl rfl)
  have paused := looked.snoc (.other (.request (c := ()) (r := desktopRequest .pause (ascii "12345678"))
    (e := obligingEnv) ⟨⟨_, rfl⟩, rfl⟩ (by decide) (fun registers => nomatch registers.2.1) rfl) quiet
    (inside_of_request (q := desktopRequest .pause (ascii "12345678")) (e := obligingEnv) rfl
      (desktopRequest_inside _ _ _)))
  have written := paused.snoc (@FanoutStep.written _ _ _ _ _ _ _ 0 _ () _ rfl rfl rfl)
  exact ⟨_, _, rfl, rfl, fanout_delivers written⟩

end GamingAnywhere.Server
