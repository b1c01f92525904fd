import GamingAnywhere.Encoder.Locking

namespace GamingAnywhere.Encoder
open Lib

variable {ι : Type*} [DecidableEq ι] {cfg : Setup} {s s' : Registry ι} {c d : ι}

/-! ## The flag -/

def ClientPlace.launching : ClientPlace → Bool
  | .regVideo _ | .regAudio | .regInsert => true
  | _ => false

def FailsQuietly (s : Registry ι) (l : Party ι) (_ : Registry ι) : Prop :=
  ∀ c, l = .client c → s.place c = .regFailFlag →
    s.clients = [] ∧ ∀ d, (s.place d).launching = false

structure Launched (s : Registry ι) : Prop where
  clients : s.clients ≠ [] → s.threadLaunched = true
  launching : ∀ c, (s.place c).launching = true → s.threadLaunched = true

theorem ClientPlace.holdsLock_of_launching {p : ClientPlace} (launching : p.launching = true) :
    p.holdsLock = true := by
  cases p <;> first | rfl | cases launching

theorem ClientStep.launching (step : ClientStep cfg c s s')
    (launching : (s'.place c).launching = true) :
    (s.place c).launching = true ∨ (s.place c = .regTest ∧ (s.clients = [] → s'.threadLaunched = true)) := by
  cases step <;> simp_all [ClientPlace.launching]

theorem ClientStep.flag_kept (step : ClientStep cfg c s s') (flag : s.threadLaunched = true)
    (clean : s.place c ≠ .regFailFlag) (others : s.place c = .unregTest → s.clients ≠ []) :
    s'.threadLaunched = true := by
  rcases step.launched with same | ⟨-, -, on, -⟩ | ⟨failed, -, -⟩ | ⟨test, empty, -, -⟩
  · rwa [same]
  · exact on
  · exact absurd failed clean
  · exact absurd empty (others test)

theorem Launched.client (launched : Launched s) (exclusive : Exclusive s)
    (step : ClientStep cfg c s s')
    (quiet : s.place c = .regFailFlag → s.clients = [] ∧ ∀ d, (s.place d).launching = false) :
    Launched s' := by
  -- while `c` holds the lock, no other registration is under way
  have alone : (s.place c).holdsLock = true → ∀ d, d ≠ c → (s.place d).launching ≠ true := by
    intro held d other launching
    exact other (exclusive.unique (ClientPlace.holdsLock_of_launching launching) held)
  constructor
  · intro present
    have before : s.place c ≠ .regInsert → s.clients ≠ [] := by
      intro other empty
      rcases step.clients with same | ⟨insert, -⟩ | ⟨-, erased, -⟩
      · exact present (same.trans empty)
      · exact other insert
      · rw [empty] at erased
        exact present erased
    by_cases insert : s.place c = .regInsert
    · have flag := launched.launching c (by rw [insert]; rfl)
      exact step.flag_kept flag (by rw [insert]; nofun) (by rw [insert]; nofun)
    · have nonempty := before insert
      exact step.flag_kept (launched.clients nonempty) (fun failed => nonempty (quiet failed).1)
        fun _ => nonempty
  · intro d launching
    by_cases self : d = c
    · subst self
      rcases step.launching launching with already | ⟨test, on⟩
      · apply step.flag_kept (launched.launching d already)
        · intro failed
          rw [failed] at already
          cases already
        · intro test
          rw [test] at already
          cases already
      · by_cases empty : s.clients = []
        · exact on empty
        · exact step.flag_kept (launched.clients empty) (by rw [test]; nofun) fun _ => empty
    · rw [step.place_other self] at launching
      apply step.flag_kept (launched.launching d launching)
      · intro failed
        rw [(quiet failed).2 d] at launching
        cases launching
      · intro test
        exact absurd launching (alone (by rw [test]; rfl) d self)

theorem launched_of_failsQuietly (reachable : ((encoders ι cfg).restrict FailsQuietly).Reachable s) :
    Launched s := by
  refine reachable.invariant_of (I := Exclusive) (fun s first => ?_)
    (fun s before => exclusive before.of_restrict) fun s l t excl holds step => ?_
  · obtain rfl : s = .start := first
    exact ⟨fun h => absurd rfl h, nofun⟩
  · obtain ⟨quiet, step⟩ := step
    cases step with
    | client step => exact holds.client excl step (quiet _ rfl)
    | thread _ _ => exact ⟨holds.clients, holds.launching⟩

/-! ## A registration that fails -/

def ClientPlace.creating : ClientPlace → Bool
  | .regVideo _ | .regAudio | .regFailUnlock => true
  | _ => false

def ClientPlace.refused : ClientPlace → Bool
  | .regFailUnlock | .regFailFlag => true
  | .idle (some ret) => ret < 0
  | _ => false

structure Refuses (s : Registry ι) : Prop where
  creating : ∀ c, (s.place c).creating = true → s.clients = []
  refused : ∀ c, (s.place c).refused = true → c ∉ s.clients

theorem ClientPlace.holdsLock_of_creating {p : ClientPlace} (creating : p.creating = true) :
    p.holdsLock = true := by
  cases p <;> first | rfl | cases creating

theorem ClientStep.creating (step : ClientStep cfg c s s') (creating : (s'.place c).creating = true) :
    (s.place c).creating = true ∨ (s.place c = .regTest ∧ s.clients = []) := by
  cases step <;> simp_all [ClientPlace.creating]

theorem ClientStep.refused (step : ClientStep cfg c s s') (refused : (s'.place c).refused = true) :
    (s.place c).refused = true ∨ (s.place c).creating = true := by
  cases step <;> simp_all [ClientPlace.refused, ClientPlace.creating]

theorem Refuses.client (refuses : Refuses s) (exclusive : Exclusive s)
    (step : ClientStep cfg c s s') : Refuses s' := by
  have unchanged : (s.place c).creating = true ∨ (s.place c).refused = true ∨ s.place c = .regTest →
      s'.clients = s.clients := by
    intro place
    rcases step.clients with same | ⟨insert, -⟩ | ⟨erase, -⟩
    · exact same
    · rw [insert] at place
      rcases place with place | place | place <;> cases place
    · rw [erase] at place
      rcases place with place | place | place <;> cases place
  constructor
  · intro d creating
    by_cases self : d = c
    · subst self
      rcases step.creating creating with already | ⟨test, empty⟩
      · rw [unchanged (.inl already)]
        exact refuses.creating d already
      · rw [unchanged (.inr (.inr test))]
        exact empty
    · rw [step.place_other self] at creating
      have empty := refuses.creating d creating
      have held := ClientPlace.holdsLock_of_creating creating
      rcases step.clients with same | ⟨insert, -⟩ | ⟨-, erased, -⟩
      · rw [same, empty]
      · have inserting : (s.place c).holdsLock = true := by
          rw [insert]
          rfl
        exact absurd (exclusive.unique held inserting) self
      · rw [erased, empty]
        rfl
  · intro d refused
    by_cases self : d = c
    · subst self
      rcases step.refused refused with already | creating
      · rw [unchanged (.inr (.inl already))]
        exact refuses.refused d already
      · rw [unchanged (.inl creating), refuses.creating d creating]
        exact List.not_mem_nil
    · rw [step.place_other self] at refused
      rw [step.mem_other self]
      exact refuses.refused d refused

theorem refuses (reachable : (encoders ι cfg).Reachable s) : Refuses s := by
  refine reachable.invariant_of (I := Exclusive) (fun s first => ?_) (fun s => exclusive)
    fun s l t excl holds step => ?_
  · obtain rfl : s = .start := first
    exact ⟨nofun, nofun⟩
  · cases step with
    | client step => exact holds.client excl step
    | thread _ _ => exact ⟨holds.creating, holds.refused⟩

theorem encoders_run_while_registered (cfg : Setup) :
    (∀ s : Registry ι, ((encoders ι cfg).restrict FailsQuietly).Reachable s → s.writer = none →
        s.NoReaders → s.clients ≠ [] → s.threadLaunched = true) ∧
      ∀ s : Registry ι, (encoders ι cfg).Reachable s → ∀ c, s.place c = .idle (some (-1)) →
        c ∉ s.clients := by
  refine ⟨fun s reachable _ _ present => (launched_of_failsQuietly reachable).clients present,
    fun s reachable c place => (refuses reachable).refused c ?_⟩
  rw [place]
  rfl

def oneChannel : Setup := ⟨1, true, 1, 1024⟩

theorem registered_reachable : ∃ s : Registry Bool,
    ((encoders Bool oneChannel).restrict FailsQuietly).Reachable s ∧ s.writer = none ∧
      s.clients = [true] ∧ s.threads = [⟨.video 0, .init, 0, false⟩, ⟨.audio, .init, 0, false⟩] := by
  have quiet {s s' : Registry Bool} (place : s.place true ≠ .regFailFlag) :
      FailsQuietly s (.client true) s' := by
    rintro c ⟨⟩ failed
    exact absurd failed place
  have start : ((encoders Bool oneChannel).restrict FailsQuietly).Reachable .start := .init rfl
  have s₁ := start.step ⟨quiet (by decide), .client (.register (c := true) rfl)⟩
  have s₂ := s₁.step ⟨quiet (by decide), .client (.regWrlock rfl rfl (Registry.noReaders_nil rfl))⟩
  have s₃ := s₂.step ⟨quiet (by decide), .client (.regFirst rfl rfl)⟩
  have s₄ := s₃.step ⟨quiet (by decide), .client (.regVideo rfl (by decide))⟩
  have s₅ := s₄.step ⟨quiet (by decide), .client (.regVideoDone rfl)⟩
  have s₆ := s₅.step ⟨quiet (by decide), .client (.regAudio rfl rfl)⟩
  have s₇ := s₆.step ⟨quiet (by decide), .client (.regInsert rfl)⟩
  have s₈ := s₇.step ⟨quiet (by decide), .client (.regUnlock rfl)⟩
  exact ⟨_, s₈, rfl, rfl, rfl⟩

theorem registered_launched : ∃ s : Registry Bool, s.clients = [true] ∧ s.threadLaunched = true := by
  obtain ⟨s, reachable, free, clients, threads⟩ := registered_reachable
  have readers : s.NoReaders := by simp [Registry.NoReaders, Thread.Reading, threads]
  exact ⟨s, clients, (encoders_run_while_registered oneChannel).1 s reachable free readers
    (by rw [clients]; exact List.cons_ne_nil _ _)⟩

/-- The first client fails to create its video thread and gives up the lock; the second one registers
and returns; then the first one clears the flag. -/
theorem lateFailure_stops_encoders :
    ¬ ∀ (cfg : Setup) (s : Registry Bool), (encoders Bool cfg).Reachable s → s.writer = none →
      s.NoReaders → s.clients ≠ [] → s.threadLaunched = true := by
  intro launched
  have start : (encoders Bool oneChannel).Reachable .start := .init rfl
  have a₁ := start.step (.client (.register (c := false) rfl))
  have a₂ := a₁.step (.client (.regWrlock (c := false) rfl rfl (Registry.noReaders_nil rfl)))
  have a₃ := a₂.step (.client (.regFirst (c := false) rfl rfl))
  have a₄ := a₃.step (.client (.regVideoFailed (c := false) none rfl (by decide)))
  have a₅ := a₄.step (.client (.regFailUnlock (c := false) rfl))
  have b₁ := a₅.step (.client (.register (c := true) rfl))
  have b₂ := b₁.step (.client (.regWrlock (c := true) rfl rfl (Registry.noReaders_nil rfl)))
  have b₃ := b₂.step (.client (.regFirst (c := true) rfl rfl))
  have b₄ := b₃.step (.client (.regVideo (c := true) rfl (by decide)))
  have b₅ := b₄.step (.client (.regVideoDone (c := true) rfl))
  have b₆ := b₅.step (.client (.regAudio (c := true) rfl rfl))
  have b₇ := b₆.step (.client (.regInsert (c := true) rfl))
  have b₈ := b₇.step (.client (.regUnlock (c := true) rfl))
  have a₆ := b₈.step (.client (.regFailFlag (c := false) rfl))
  have on := launched oneChannel _ a₆ rfl (by simp [Registry.NoReaders, Thread.Reading,
    Registry.spawn, Registry.goto, Registry.start]) (by decide)
  cases on

end GamingAnywhere.Encoder
