import GamingAnywhere.Encoder.Launching

namespace GamingAnywhere.Encoder
open Lib

variable {ι : Type*} {cfg : Setup} {s s' : Registry ι} {c d : ι}

/-! ## Threads that can be joined -/

def Registry.Live (s : Registry ι) (id : Option Nat) (proc : Proc) : Prop :=
  ∃ tid t, id = some tid ∧ s.threads[tid]? = some t ∧ t.proc = proc ∧ t.joined = false

def JoinsLive (cfg : Setup) (s : Registry ι) : Prop :=
  ∀ c, (∀ i, s.place c = .unregJoin i → i < cfg.videoSourceChannels → s.Joinable (s.vethreadId i)) ∧
    (s.place c = .unregJoinAudio → s.Joinable s.aethreadId)

def FindsClients (s : Registry ι) (l : Party ι) (_ : Registry ι) : Prop :=
  ∀ c, l = .client c → s.place c = .unregErase → s.clients ≠ []

structure AllLive (cfg : Setup) (s : Registry ι) : Prop where
  video : ∀ k < cfg.vencoders, s.Live (s.vethreadId k) (.video k)
  audio : s.Live s.aethreadId .audio

/-- Which encoders have a thread while the holder of the lock is at `p`. -/
def Stage (cfg : Setup) (s : Registry ι) : ClientPlace → Prop
  | .regVideo n => s.clients = [] ∧ ∀ k < n, s.Live (s.vethreadId k) (.video k)
  | .regAudio => s.clients = [] ∧ ∀ k < cfg.vencoders, s.Live (s.vethreadId k) (.video k)
  | .regInsert | .unregTest => AllLive cfg s
  | .unregJoin i => s.clients = [] ∧
      (∀ k, i ≤ k → k < cfg.vencoders → s.Live (s.vethreadId k) (.video k)) ∧
      s.Live s.aethreadId .audio
  | .unregJoinAudio => s.clients = [] ∧ s.Live s.aethreadId .audio
  | _ => True

structure Lively (cfg : Setup) (s : Registry ι) : Prop where
  all : s.clients ≠ [] → AllLive cfg s
  stage : ∀ c, Stage cfg s (s.place c)

structure Keeps (s s' : Registry ι) : Prop where
  clients : s'.clients = s.clients
  vethreadId : s'.vethreadId = s.vethreadId
  aethreadId : s'.aethreadId = s.aethreadId
  live : ∀ {id proc}, s.Live id proc → s'.Live id proc

theorem Registry.Live.joinable {id : Option Nat} {proc : Proc} (live : s.Live id proc) :
    s.Joinable id := by
  obtain ⟨tid, t, stored, here, -, joined⟩ := live
  exact ⟨tid, t, stored, here, joined⟩

theorem Registry.Live.of_threads {id : Option Nat} {proc : Proc} (live : s.Live id proc)
    (threads : s'.threads = s.threads) : s'.Live id proc := by
  obtain ⟨tid, t, stored, here, kept⟩ := live
  exact ⟨tid, t, stored, threads ▸ here, kept⟩

theorem Registry.Live.append {id : Option Nat} {proc : Proc} (live : s.Live id proc)
    {new : List (Thread ι)} (threads : s'.threads = s.threads ++ new) : s'.Live id proc := by
  obtain ⟨tid, t, stored, here, kept⟩ := live
  have bound := (List.getElem?_eq_some_iff.mp here).1
  exact ⟨tid, t, stored, by rw [threads, List.getElem?_append_left bound, here], kept⟩

theorem Registry.Live.join {id : Option Nat} {proc : Proc} (live : s.Live id proc) {tid : Nat}
    {t : Thread ι} (here : s.threads[tid]? = some t) (other : t.proc ≠ proc) :
    (s.join tid).Live id proc := by
  obtain ⟨tid', t', stored, there, same, joined⟩ := live
  have ne : tid ≠ tid' := by
    rintro rfl
    rw [here, Option.some_inj] at there
    exact other (there ▸ same)
  refine ⟨tid', t', stored, ?_, same, joined⟩
  rw [Registry.join, List.getElem?_modify_ne _ _ ne, there]

theorem AllLive.keeps (all : AllLive cfg s) (keeps : Keeps s s') : AllLive cfg s' where
  video k bound := by
    rw [keeps.vethreadId]
    exact keeps.live (all.video k bound)
  audio := by
    rw [keeps.aethreadId]
    exact keeps.live all.audio

theorem AllLive.of_same (all : AllLive cfg s) (threads : s'.threads = s.threads)
    (video : s'.vethreadId = s.vethreadId) (audio : s'.aethreadId = s.aethreadId) :
    AllLive cfg s' where
  video k bound := by
    rw [video]
    exact (all.video k bound).of_threads threads
  audio := by
    rw [audio]
    exact all.audio.of_threads threads

theorem Stage.keeps {p : ClientPlace} (stage : Stage cfg s p) (keeps : Keeps s s') :
    Stage cfg s' p := by
  cases p with
  | regVideo n =>
      refine ⟨keeps.clients.trans stage.1, fun k bound => ?_⟩
      rw [keeps.vethreadId]
      exact keeps.live (stage.2 k bound)
  | regAudio =>
      refine ⟨keeps.clients.trans stage.1, fun k bound => ?_⟩
      rw [keeps.vethreadId]
      exact keeps.live (stage.2 k bound)
  | regInsert => exact AllLive.keeps stage keeps
  | unregTest => exact AllLive.keeps stage keeps
  | unregJoin i =>
      refine ⟨keeps.clients.trans stage.1, fun k from' bound => ?_, ?_⟩
      · rw [keeps.vethreadId]
        exact keeps.live (stage.2.1 k from' bound)
      · rw [keeps.aethreadId]
        exact keeps.live stage.2.2
  | unregJoinAudio =>
      refine ⟨keeps.clients.trans stage.1, ?_⟩
      rw [keeps.aethreadId]
      exact keeps.live stage.2
  | _ => trivial

theorem Stage.of_not_holdsLock {p : ClientPlace} (outside : p.holdsLock = false) : Stage cfg s p := by
  cases p <;> simp_all [Stage]

theorem ThreadStep.proc_joined {t t' : Thread ι} (step : ThreadStep cfg s t t') :
    t'.proc = t.proc ∧ t'.joined = t.joined := by
  cases step <;> exact ⟨rfl, rfl⟩

theorem keeps_thread {tid : Nat} {t t' : Thread ι} (here : s.threads[tid]? = some t)
    (step : ThreadStep cfg s t t') : Keeps s { s with threads := s.threads.set tid t' } := by
  refine ⟨rfl, rfl, rfl, ?_⟩
  rintro id proc ⟨tid', u, stored, there, same, joined⟩
  have bound := (List.getElem?_eq_some_iff.mp there).1
  by_cases moved : tid = tid'
  · subst moved
    obtain rfl : t = u := Option.some.inj (here.symm.trans there)
    exact ⟨tid, t', stored, List.getElem?_set_self bound, step.proc_joined.1.trans same,
      step.proc_joined.2.trans joined⟩
  · exact ⟨tid', u, stored, (List.getElem?_set_ne moved).trans there, same, joined⟩

/-! ## Steps -/

variable [DecidableEq ι]

theorem ClientStep.keeps (step : ClientStep cfg c s s') (outside : (s.place c).holdsLock = false) :
    Keeps s s' := by
  cases step <;>
    first
    | exact ⟨rfl, rfl, rfl, fun live => live.of_threads rfl⟩
    | simp_all

theorem ClientStep.stage_entered (step : ClientStep cfg c s s')
    (outside : (s.place c).holdsLock = false) : Stage cfg s' (s'.place c) := by
  cases step <;> simp_all [Stage]

theorem Stage.create {k : Nat} (stage : Stage cfg s (.regVideo k)) :
    Stage cfg { (s.goto c (.regVideo (k + 1))).spawn (.video k) with
      vethreadId := Function.update s.vethreadId k (some s.threads.length) } (.regVideo (k + 1)) := by
  refine ⟨stage.1, fun j before => ?_⟩
  dsimp only
  by_cases new : j = k
  · rw [new, Function.update_self]
    exact ⟨_, _, rfl, List.getElem?_concat_length, rfl, rfl⟩
  · rw [Function.update_of_ne new]
    exact (stage.2 j (by omega)).append rfl

theorem Stage.join {i tid : Nat} {t : Thread ι} (stage : Stage cfg s (.unregJoin i))
    (bound : i < cfg.vencoders) (stored : s.vethreadId i = some tid)
    (here : s.threads[tid]? = some t) :
    Stage cfg ((s.goto c (.unregJoin (i + 1))).join tid) (.unregJoin (i + 1)) := by
  obtain ⟨tid', t', stored', here', proc, -⟩ := stage.2.1 i (Nat.le_refl i) bound
  obtain rfl : tid = tid' := Option.some.inj (stored.symm.trans stored')
  obtain rfl : t = t' := Option.some.inj (here.symm.trans here')
  have here : (s.goto c (.unregJoin (i + 1))).threads[tid]? = some t := here
  refine ⟨stage.1, fun k later bound => ?_, ?_⟩
  · have other : t.proc ≠ .video k := by
      rw [proc]
      rintro ⟨⟩
      omega
    exact ((stage.2.1 k (by omega) bound).of_threads rfl).join here other
  · exact (stage.2.2.of_threads rfl).join here (by rw [proc]; nofun)

theorem Lively.holder (lively : Lively cfg s) (audio : cfg.aencoder = true)
    (channels : cfg.videoSourceChannels ≤ cfg.vencoders)
    (finds : s.place c = .unregErase → s.clients ≠ []) (step : ClientStep cfg c s s')
    (held : (s.place c).holdsLock = true) :
    (s'.clients ≠ [] → AllLive cfg s') ∧ Stage cfg s' (s'.place c) := by
  have stage := lively.stage c
  cases step with
  | register place | regWrlock place _ _ | regFailFlag place | unregister place
  | unregWrlock place _ _ =>
      rw [place] at held
      cases held
  | regFirst place empty =>
      simp only [Registry.goto_place_self]
      exact ⟨fun present => absurd empty present, empty, nofun⟩
  | regFurther place present =>
      simp only [Registry.goto_place_self]
      have all : AllLive cfg (s.goto c .regInsert) := (lively.all present).of_same rfl rfl rfl
      exact ⟨fun _ => all, all⟩
  | @regVideo k place bound =>
      rw [place] at stage
      simp only [Registry.spawn_place, Registry.goto_place_self]
      exact ⟨fun present => absurd stage.1 present, stage.create⟩
  | regVideoFailed _ place _ | regAudioFailed _ place _ =>
      rw [place] at stage
      simp only [Registry.goto_place_self]
      exact ⟨fun present => absurd stage.1 present, trivial⟩
  | regVideoDone place =>
      rw [place] at stage
      simp only [Registry.goto_place_self]
      exact ⟨fun present => absurd stage.1 present, stage.1,
        fun k bound => (stage.2 k bound).of_threads rfl⟩
  | regAudioNone place none' =>
      rw [audio] at none'
      cases none'
  | regAudio place _ =>
      rw [place] at stage
      simp only [Registry.spawn_place, Registry.goto_place_self]
      exact ⟨fun present => absurd stage.1 present, fun k bound => (stage.2 k bound).append rfl,
        _, _, rfl, List.getElem?_concat_length, rfl, rfl⟩
  | regFailUnlock | regUnlock | unregOthers | unregJoinAudioError | unregSync | unregUnlock =>
      simp only [Registry.goto_place_self]
      exact ⟨fun present => (lively.all present).of_same rfl rfl rfl, trivial⟩
  | regInsert place =>
      rw [place] at stage
      simp only [Registry.goto_place_self]
      exact ⟨fun _ => AllLive.of_same stage rfl rfl rfl, trivial⟩
  | unregErase place =>
      have all := lively.all (finds place)
      simp only [Registry.goto_place_self]
      have all' : AllLive cfg { s.goto c .unregTest with clients := s.clients.erase c } :=
        all.of_same rfl rfl rfl
      exact ⟨fun _ => all', all'⟩
  | unregLast place empty =>
      rw [place] at stage
      simp only [Registry.goto_place_self]
      exact ⟨fun present => absurd empty present, empty,
        fun k _ bound => (stage.video k bound).of_threads rfl, stage.audio.of_threads rfl⟩
  | @unregJoin i tid t place bound stored here _ _ =>
      rw [place] at stage
      simp only [Registry.join_place, Registry.goto_place_self]
      exact ⟨fun present => absurd stage.1 present, stage.join (by omega) stored here⟩
  | @unregJoinError i place bound lost =>
      rw [place] at stage
      simp only [Registry.goto_place_self]
      exact ⟨fun present => absurd stage.1 present, stage.1,
        fun k from' bound => (stage.2.1 k (by omega) bound).of_threads rfl,
        stage.2.2.of_threads rfl⟩
  | unregJoinDone place =>
      rw [place] at stage
      simp only [Registry.goto_place_self]
      exact ⟨fun present => absurd stage.1 present, stage.1, stage.2.2.of_threads rfl⟩
  | unregJoinAudio place _ _ _ _ =>
      rw [place] at stage
      simp only [Registry.join_place, Registry.goto_place_self]
      exact ⟨fun present => absurd stage.1 present, trivial⟩

theorem Lively.client (lively : Lively cfg s) (exclusive : Exclusive s)
    (audio : cfg.aencoder = true) (channels : cfg.videoSourceChannels ≤ cfg.vencoders)
    (finds : s.place c = .unregErase → s.clients ≠ []) (step : ClientStep cfg c s s') :
    Lively cfg s' := by
  cases held : (s.place c).holdsLock with
  | false =>
      have keeps := step.keeps held
      refine ⟨fun present => (lively.all (keeps.clients ▸ present)).keeps keeps, fun d => ?_⟩
      by_cases self : d = c
      · exact self ▸ step.stage_entered held
      · rw [step.place_other self]
        exact (lively.stage d).keeps keeps
  | true =>
      obtain ⟨all, entered⟩ := lively.holder audio channels finds step held
      refine ⟨all, fun d => ?_⟩
      by_cases self : d = c
      · exact self ▸ entered
      · rw [step.place_other self]
        exact Stage.of_not_holdsLock
          (Bool.eq_false_iff.mpr fun holds => self (exclusive.unique holds held))

theorem lively (audio : cfg.aencoder = true) (channels : cfg.videoSourceChannels ≤ cfg.vencoders)
    (reachable : ((encoders ι cfg).restrict FindsClients).Reachable s) : Lively cfg s := by
  refine reachable.invariant_of (I := Exclusive) (fun s first => ?_)
    (fun s before => exclusive before.of_restrict) fun s l t excl holds step => ?_
  · obtain rfl : s = .start := first
    exact ⟨fun present => absurd rfl present, fun _ => trivial⟩
  · obtain ⟨finds, step⟩ := step
    cases step with
    | client step => exact holds.client excl audio channels (finds _ rfl) step
    | thread here step =>
        have keeps := keeps_thread here step
        exact ⟨fun present => (holds.all present).keeps keeps, fun d => (holds.stage d).keeps keeps⟩

theorem unregister_joins_live (audio : cfg.aencoder = true)
    (channels : cfg.videoSourceChannels ≤ cfg.vencoders)
    (reachable : ((encoders ι cfg).restrict FindsClients).Reachable s) : JoinsLive cfg s := by
  have lively := lively audio channels reachable
  intro c
  have stage := lively.stage c
  constructor
  · intro i place bound
    rw [place] at stage
    exact (stage.2.1 i (Nat.le_refl i) (by omega)).joinable
  · intro place
    rw [place] at stage
    exact stage.2.joinable

theorem unplayed_joins_nothing :
    ¬ ∀ (cfg : Setup) (s : Registry Unit), (encoders Unit cfg).Reachable s → JoinsLive cfg s := by
  intro live
  have start : (encoders Unit oneChannel).Reachable .start := .init rfl
  have s₁ := start.step (.client (.unregister (c := ()) rfl))
  have s₂ := s₁.step (.client (.unregWrlock (c := ()) rfl rfl (Registry.noReaders_nil rfl)))
  have s₃ := s₂.step (.client (.unregErase (c := ()) rfl))
  have s₄ := s₃.step (.client (.unregLast (c := ()) rfl rfl))
  obtain ⟨tid, t, stored, -⟩ := (live oneChannel _ s₄ ()).1 0 rfl (by decide)
  cases stored

theorem played_reachable : ∃ s : Registry Unit,
    ((encoders Unit oneChannel).restrict FindsClients).Reachable s ∧ s.place () = .unregJoin 0 ∧
      s.threads = [⟨.video 0, .init, 0, false⟩, ⟨.audio, .init, 0, false⟩] := by
  have elsewhere {s s' : Registry Unit} (place : s.place () ≠ .unregErase) :
      FindsClients s (.client ()) s' := fun _ _ erase => absurd erase place
  have start : ((encoders Unit oneChannel).restrict FindsClients).Reachable .start := .init rfl
  have s₁ := start.step ⟨elsewhere (by decide), .client (.register (c := ()) rfl)⟩
  have s₂ := s₁.step ⟨elsewhere (by decide),
    .client (.regWrlock (c := ()) rfl rfl (Registry.noReaders_nil rfl))⟩
  have s₃ := s₂.step ⟨elsewhere (by decide), .client (.regFirst (c := ()) rfl rfl)⟩
  have s₄ := s₃.step ⟨elsewhere (by decide), .client (.regVideo (c := ()) rfl (by decide))⟩
  have s₅ := s₄.step ⟨elsewhere (by decide), .client (.regVideoDone (c := ()) rfl)⟩
  have s₆ := s₅.step ⟨elsewhere (by decide), .client (.regAudio (c := ()) rfl rfl)⟩
  have s₇ := s₆.step ⟨elsewhere (by decide), .client (.regInsert (c := ()) rfl)⟩
  have s₈ := s₇.step ⟨elsewhere (by decide), .client (.regUnlock (c := ()) rfl)⟩
  have s₉ := s₈.step ⟨elsewhere (by decide), .client (.unregister (c := ()) rfl)⟩
  have t₁ := s₉.step ⟨elsewhere (by decide), .client (.unregWrlock (c := ()) rfl rfl
    (by simp [Registry.NoReaders, Thread.Reading, Registry.spawn, Registry.goto, Registry.start]))⟩
  have t₂ := t₁.step ⟨fun _ _ _ => by decide, .client (.unregErase (c := ()) rfl)⟩
  have t₃ := t₂.step ⟨elsewhere (by decide), .client (.unregLast (c := ()) rfl rfl)⟩
  exact ⟨_, t₃, rfl, rfl⟩

theorem played_joins_live :
    ∃ s : Registry Unit, s.place () = .unregJoin 0 ∧ JoinsLive oneChannel s := by
  obtain ⟨s, reachable, place, -⟩ := played_reachable
  exact ⟨s, place, unregister_joins_live rfl (by decide) reachable⟩

end GamingAnywhere.Encoder
