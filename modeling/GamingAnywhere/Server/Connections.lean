import GamingAnywhere.Encoder.Membership
import GamingAnywhere.Rtsp.Playing

/-!
# Connections and encoders together

`rtspserver` for any number of connections over the registry of the encoders. A request is served in
one step, but for the PLAY that passes its checks: it calls `encoder_register_client`, whose steps
interleave with everything else. The steps project to steps of the registry, so that what holds of its
runs holds here. Once a client is registered nothing writes the entries of its streams.
-/

namespace GamingAnywhere.Server
open Lib Rtsp Encoder

/-- `pending` is the PLAY of a connection that is in `encoder_register_client`, or has just returned
from it; `deinit` tells that `per_client_deinit` has run. -/
structure State (ι : Type*) where
  registry : Registry ι
  ctx : ι → RTSPContext
  pending : ι → Option (Request × Env)
  deinit : ι → Bool

def State.start {ι : Type*} : State ι := ⟨.start, fun _ => .start, fun _ => none, fun _ => false⟩

def State.Serving {ι : Type*} (s : State ι) (c : ι) : Prop :=
  (∃ ret, s.registry.place c = .idle ret) ∧ s.pending c = none

/-! ## Phases of a connection -/

def registering : ClientPlace → Bool
  | .regWrlock | .regTest | .regVideo _ | .regAudio | .regFailUnlock | .regFailFlag => true
  | .regInsert | .regUnlock => true
  | _ => false

def leaving : ClientPlace → Bool
  | .unregWrlock | .unregErase | .unregTest | .unregJoin _ | .unregJoinAudio => true
  | .unregSync | .unregUnlock | .gone => true
  | _ => false

structure Phase (place : ClientPlace) (registered : Prop) (ctx : RTSPContext)
    (pending : Option (Request × Env)) (deinit : Bool) : Prop where
  played : registered → Played ctx ∨ (ctx.state = .ready ∧ pending ≠ none)
  checked : pending ≠ none → ctx.state = .ready ∨ ctx.state = .pause
  called : registering place = true → pending ≠ none
  left : leaving place = true → ctx.state = .teardown ∧ pending = none
  closed : deinit = true → place = .gone

def State.Phase {ι : Type*} (s : State ι) (c : ι) : Prop :=
  Server.Phase (s.registry.place c) (c ∈ s.registry.clients) (s.ctx c) (s.pending c) (s.deinit c)

/-- From the PLAY that registers the client until `encoder_unregister_client` returns. -/
def Engaged {ι : Type*} (s : State ι) (c : ι) : Prop :=
  c ∈ s.registry.clients ∨ s.pending c ≠ none ∨
    (leaving (s.registry.place c) = true ∧ s.registry.place c ≠ .gone)

theorem State.Phase.engaged {ι : Type*} {s : State ι} {c : ι} (phase : s.Phase c)
    (engaged : Engaged s c) :
    Played (s.ctx c) ∨ ((s.ctx c).state = .ready ∧ s.pending c ≠ none) := by
  rcases engaged with registered | waiting | ⟨left, -⟩
  · exact phase.played registered
  · rcases phase.checked waiting with ready | pause
    · exact .inr ⟨ready, waiting⟩
    · exact .inl (.inr (.inl pause))
  · exact .inl (.inr (.inr (phase.left left).1))

/-! ## Steps -/

variable {ι : Type*} [DecidableEq ι]

inductive Step (conf : Conf) (cfg : Setup) : State ι → Party ι → State ι → Prop
  | request {s c r e d reply} : s.Serving c → (s.ctx c).state ≠ .teardown →
      ¬ Registers conf r (s.ctx c) → handle conf r e (s.ctx c) = .ok (d, reply) →
      Step conf cfg s (.client c) { s with ctx := Function.update s.ctx c d }
  | play {s c r e} : s.Serving c → (s.ctx c).state ≠ .teardown → Registers conf r (s.ctx c) →
      Step conf cfg s (.client c)
        { s with registry := s.registry.goto c .regWrlock,
                 ctx := Function.update s.ctx c { s.ctx c with seq := r.header.seq },
                 pending := Function.update s.pending c (some (r, e)) }
  | played {s c r e ret} : s.registry.place c = .idle (some ret) → s.pending c = some (r, e) →
      Step conf cfg s (.client c)
        { s with ctx := Function.update s.ctx c (playRegistered r e (s.ctx c) ret).1,
                 pending := Function.update s.pending c none }
  -- the label `quit`, after a TEARDOWN or when nothing more is read
  | quit {s c} : s.Serving c →
      Step conf cfg s (.client c)
        { s with registry := s.registry.goto c .unregWrlock,
                 ctx := Function.update s.ctx c { s.ctx c with state := .teardown } }
  | perClientDeinit {s c} : s.registry.place c = .gone →
      Step conf cfg s (.client c) { s with deinit := Function.update s.deinit c true }
  -- inside `encoder_register_client` and `encoder_unregister_client`
  | client {s c registry} : (∀ ret, s.registry.place c ≠ .idle ret) →
      ClientStep cfg c s.registry registry →
      Step conf cfg s (.client c) { s with registry := registry }
  | thread {s tid registry} : Encoder.Step cfg s.registry (.thread tid) registry →
      Step conf cfg s (.thread tid) { s with registry := registry }

def server (ι : Type*) [DecidableEq ι] (conf : Conf) (cfg : Setup) : System (State ι) (Party ι) where
  Init s := s = .start
  Step := Step conf cfg

variable {conf : Conf} {cfg : Setup} {s t : State ι} {l : Party ι} {c d : ι}

/-! ## The registry of the server -/

theorem Step.registry (step : Step conf cfg s l t) :
    t.registry = s.registry ∨ Encoder.Step cfg s.registry l t.registry := by
  cases step with
  | request => exact .inl rfl
  | play serving _ _ =>
      obtain ⟨⟨ret, place⟩, -⟩ := serving
      exact .inr (.client (.register place))
  | played => exact .inl rfl
  | quit serving =>
      obtain ⟨⟨ret, place⟩, -⟩ := serving
      exact .inr (.client (.unregister place))
  | perClientDeinit => exact .inl rfl
  | client _ step => exact .inr (.client step)
  | thread step => exact .inr step

theorem registry_reachable (reachable : (server ι conf cfg).Reachable s) :
    (encoders ι cfg).Reachable s.registry := by
  refine System.Reachable.invariant (I := fun s => (encoders ι cfg).Reachable s.registry)
    (fun s first => ?_) (fun s l t before step => ?_) reachable
  · obtain rfl : s = .start := first
    exact .init rfl
  · rcases Step.registry step with same | step
    · rwa [same]
    · exact before.step step

/-! ## Each connection by itself -/

theorem step_registering {s s' : Registry ι} (step : ClientStep cfg c s s') :
    (registering (s'.place c) = true → registering (s.place c) = true ∨ ∃ ret, s.place c = .idle ret) ∧
      (leaving (s'.place c) = true → leaving (s.place c) = true ∨ ∃ ret, s.place c = .idle ret) ∧
      s.place c ≠ .gone := by
  cases step <;> simp_all [registering, leaving]

theorem State.Phase.other (phase : s.Phase d) (step : Step conf cfg s (.client c) t)
    (other : d ≠ c) : t.Phase d := by
  unfold State.Phase at phase ⊢
  cases step with
  | request | played | perClientDeinit => simpa [Function.update_of_ne other] using phase
  | play | quit => simpa [Function.update_of_ne other, other] using phase
  | client _ step =>
      dsimp only
      rwa [step.place_other other, step.mem_other other]

theorem State.Phase.self (phase : s.Phase c) (refuses : Refuses s.registry)
    (step : Step conf cfg s (.client c) t) : t.Phase c := by
  unfold State.Phase
  cases step with
  | request serving alive unregistered answered =>
      obtain ⟨⟨ret, place⟩, idle⟩ := serving
      simp only [Function.update_self]
      refine ⟨fun registered => ?_, fun waiting => absurd idle waiting, phase.called, ?_, phase.closed⟩
      · rcases phase.played registered with played | ⟨-, waiting⟩
        · exact .inl (handle_played answered played unregistered)
        · exact absurd idle waiting
      · rw [place]
        nofun
  | play serving alive registers =>
      obtain ⟨⟨ret, place⟩, idle⟩ := serving
      simp only [Function.update_self, Registry.goto_place_self]
      refine ⟨fun registered => ?_, fun _ => playCheck_state registers.2.2, fun _ => nofun, nofun,
        fun closed => ?_⟩
      · rcases phase.played registered with played | ⟨-, waiting⟩
        · exact .inl played
        · exact absurd idle waiting
      · have gone := phase.closed closed
        rw [place] at gone
        cases gone
  | played place waiting =>
      simp only [Function.update_self]
      refine ⟨fun registered => ?_, fun none' => absurd rfl none', ?_, ?_, phase.closed⟩
      · unfold playRegistered
        split_ifs with failed
        · refine absurd registered (refuses.refused c ?_)
          rw [place]
          exact decide_eq_true failed
        · exact .inl (.inl rfl)
      · rw [place]
        nofun
      · rw [place]
        nofun
  | quit serving =>
      obtain ⟨⟨ret, place⟩, idle⟩ := serving
      simp only [Function.update_self, Registry.goto_place_self]
      refine ⟨fun _ => .inl (.inr (.inr rfl)), fun waiting => absurd idle waiting, nofun,
        fun _ => ⟨rfl, idle⟩, fun closed => ?_⟩
      have gone := phase.closed closed
      rw [place] at gone
      cases gone
  | perClientDeinit place =>
      exact ⟨phase.played, phase.checked, phase.called, phase.left, fun _ => place⟩
  | client inside step =>
      obtain ⟨entered, left, open'⟩ := step_registering step
      refine ⟨fun registered => ?_, phase.checked, fun now => ?_, fun now => ?_, fun closed =>
        absurd (phase.closed closed) open'⟩
      · rcases step.clients with same | ⟨insert, -⟩ | ⟨-, erased, -⟩
        · exact phase.played (same ▸ registered)
        · have waiting := phase.called (by rw [insert]; rfl)
          rcases phase.checked waiting with ready | pause
          · exact .inr ⟨ready, waiting⟩
          · exact .inl (.inr (.inl pause))
        · rw [erased] at registered
          exact phase.played (List.mem_of_mem_erase registered)
      · rcases entered now with before | ⟨ret, idle⟩
        · exact phase.called before
        · exact absurd idle (inside ret)
      · rcases left now with before | ⟨ret, idle⟩
        · exact phase.left before
        · exact absurd idle (inside ret)

theorem phase (reachable : (server ι conf cfg).Reachable s) (c : ι) : s.Phase c := by
  refine System.Reachable.invariant_of (I := fun s => Refuses s.registry)
    (J := fun s => ∀ c, s.Phase c) (fun s first c => ?_)
    (fun s reachable => refuses (registry_reachable reachable))
    (fun s l t refuses before step c => ?_) reachable c
  · obtain rfl : s = .start := first
    exact ⟨nofun, nofun, nofun, nofun, nofun⟩
  · cases l with
    | client d =>
        by_cases self : c = d
        · subst self
          exact (before c).self refuses step
        · exact (before c).other step self
    | thread tid =>
        cases step with
        | thread step =>
            cases step with
            | thread => exact before c

/-! ## What a registered client can rely on -/

theorem State.Phase.frozen (phase : s.Phase c) (engaged : Engaged s c)
    (step : Step conf cfg s l t) : SameStreams (s.ctx c) (t.ctx c) := by
  have update {d : ι} {x : RTSPContext} (same : c = d → SameStreams (s.ctx c) x) :
      SameStreams (s.ctx c) (Function.update s.ctx d x c) := by
    by_cases self : c = d
    · subst self
      rw [Function.update_self]
      exact same rfl
    · rw [Function.update_of_ne self]
      exact .refl _
  cases step with
  | request serving alive unregistered answered =>
      apply update
      rintro rfl
      rcases phase.engaged engaged with played | ⟨-, waiting⟩
      · exact handle_streams answered played.not_idle played.not_ready
      · exact absurd serving.2 waiting
  | play => exact update fun self => self ▸ ⟨rfl, rfl, rfl, rfl⟩
  | played =>
      apply update
      rintro rfl
      unfold playRegistered
      split_ifs <;> exact ⟨rfl, rfl, rfl, rfl⟩
  | quit => exact update fun self => self ▸ ⟨rfl, rfl, rfl, rfl⟩
  | perClientDeinit | client | thread => exact .refl _

theorem deinit_of_member (reachable : (server ι conf cfg).Reachable s)
    (registered : c ∈ s.registry.clients) : s.deinit c = false := by
  refine Bool.eq_false_iff.mpr fun closed => ?_
  have place := (phase reachable c).closed closed
  exact (members (registry_reachable reachable)).erased c (by rw [place]; rfl) registered

def whileReading (conf : Conf) (cfg : Setup) (tid : Nat) : System (State ι) (Party ι) :=
  (server ι conf cfg).restrict fun s _ t =>
    (∃ thread ∈ s.registry.threads[tid]?, thread.Reading) ∧
      ∃ thread ∈ t.registry.threads[tid]?, thread.Reading

theorem Step.keeps_members (step : Step conf cfg s l t) (exclusive : Exclusive s.registry)
    (reading : ¬ s.registry.NoReaders) (registered : c ∈ s.registry.clients) :
    c ∈ t.registry.clients := by
  rcases step.registry with same | step
  · rwa [same]
  · generalize t.registry = r at step
    cases step with
    | client step =>
        rcases step.clients with same | ⟨-, inserted, -⟩ | ⟨erase, -⟩
        · rwa [same]
        · rw [inserted]
          exact List.mem_insert_of_mem registered
        · have writer := (exclusive.holder _).mp (by rw [erase]; rfl)
          exact absurd (exclusive.readers (by rw [writer]; nofun)) reading
    | thread => exact registered

theorem reader_sees_constant (reachable : (server ι conf cfg).Reachable s) {tid : Nat}
    {ls : List (Party ι)} (run : (whileReading conf cfg tid).Run s ls t)
    (registered : c ∈ s.registry.clients) :
    c ∈ t.registry.clients ∧ SameStreams (s.ctx c) (t.ctx c) := by
  induction run with
  | nil s => exact ⟨registered, .refl _⟩
  | cons taken _ ih =>
      obtain ⟨⟨⟨thread, found, reading⟩, -⟩, step⟩ := taken
      have readers : ¬ Registry.NoReaders _ := fun silent =>
        silent thread (List.mem_of_getElem? found) reading
      have first := (phase reachable c).frozen (.inl registered) step
      obtain ⟨later, rest⟩ := ih (reachable.step step)
        (Step.keeps_members step (exclusive (registry_reachable reachable)) readers registered)
      exact ⟨later, first.trans rest⟩

theorem streams_frozen (reachable : (server ι conf cfg).Reachable s) :
    (∀ c, Engaged s c →
        Played (s.ctx c) ∨ ((s.ctx c).state = .ready ∧ s.pending c ≠ none)) ∧
      (∀ c l t, Engaged s c → (server ι conf cfg).Step s l t → SameStreams (s.ctx c) (t.ctx c)) ∧
      (∀ c, s.deinit c = true → c ∉ s.registry.clients) ∧
      ∀ tid thread left, s.registry.threads[tid]? = some thread → thread.place = .send left →
        ∀ c ∈ left, c ∈ s.registry.clients ∧
          ∀ ls t, (whileReading conf cfg tid).Run s ls t →
            c ∈ t.registry.clients ∧ SameStreams (s.ctx c) (t.ctx c) := by
  refine ⟨fun c => (phase reachable c).engaged, fun c l t => (phase reachable c).frozen,
    fun c closed registered => ?_, fun tid thread left here place c visited => ?_⟩
  · rw [deinit_of_member reachable registered] at closed
    cases closed
  · have registered := (members (registry_reachable reachable)).visits thread
      (List.mem_of_getElem? here) left place c visited
    exact ⟨registered, fun ls t run => reader_sees_constant reachable run registered⟩

theorem playing_frozen : ∃ s : State Unit, () ∈ s.registry.clients ∧
    (s.ctx ()).state = .playing ∧ s.deinit () ≠ true := by
  have start : (server Unit desktopConf oneChannel).Reachable .start := .init rfl
  have setup := start.step (.request (c := ()) (r := desktopRequest .setup []) (e := obligingEnv)
    ⟨⟨none, rfl⟩, rfl⟩ (by decide) (fun registers => nomatch registers.2.1) rfl)
  have play := setup.step (.play (c := ()) (r := desktopRequest .play (ascii "12345678"))
    (e := obligingEnv) ⟨⟨none, rfl⟩, rfl⟩ (by decide) ⟨rfl, rfl, rfl⟩)
  have s₁ := play.step (.client (c := ()) nofun
    (.regWrlock rfl rfl (Registry.noReaders_nil rfl)))
  have s₂ := s₁.step (.client (c := ()) nofun (.regFirst rfl rfl))
  have s₃ := s₂.step (.client (c := ()) nofun (.regVideo rfl (by decide)))
  have s₄ := s₃.step (.client (c := ()) nofun (.regVideoDone rfl))
  have s₅ := s₄.step (.client (c := ()) nofun (.regAudio rfl rfl))
  have s₆ := s₅.step (.client (c := ()) nofun (.regInsert rfl))
  have s₇ := s₆.step (.client (c := ()) nofun (.regUnlock rfl))
  have played := s₇.step (.played (c := ()) rfl rfl)
  have registered : () ∈ [()] := List.mem_singleton.mpr rfl
  exact ⟨_, registered, rfl, fun closed => (streams_frozen played).2.2.1 () closed registered⟩

end GamingAnywhere.Server
