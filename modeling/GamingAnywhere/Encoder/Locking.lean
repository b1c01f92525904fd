import GamingAnywhere.Encoder.Registry

namespace GamingAnywhere.Encoder
open Lib

variable {ι : Type*} {cfg : Setup} {s s' : Registry ι} {c d : ι}

section
variable (s) (proc : Proc) (tid : Nat)

@[simp] theorem Registry.spawn_place : (s.spawn proc).place = s.place := rfl
@[simp] theorem Registry.spawn_writer : (s.spawn proc).writer = s.writer := rfl
@[simp] theorem Registry.spawn_clients : (s.spawn proc).clients = s.clients := rfl
@[simp] theorem Registry.spawn_threadLaunched : (s.spawn proc).threadLaunched = s.threadLaunched := rfl

@[simp] theorem Registry.join_place : (s.join tid).place = s.place := rfl
@[simp] theorem Registry.join_writer : (s.join tid).writer = s.writer := rfl
@[simp] theorem Registry.join_clients : (s.join tid).clients = s.clients := rfl
@[simp] theorem Registry.join_threadLaunched : (s.join tid).threadLaunched = s.threadLaunched := rfl

end

section
variable [DecidableEq ι] (s) (c : ι) (p : ClientPlace)

@[simp] theorem Registry.goto_place_self : (s.goto c p).place c = p := Function.update_self ..

@[simp] theorem Registry.goto_place_ne (ne : d ≠ c) : (s.goto c p).place d = s.place d :=
  Function.update_of_ne ne ..

@[simp] theorem Registry.goto_writer : (s.goto c p).writer = s.writer := rfl
@[simp] theorem Registry.goto_clients : (s.goto c p).clients = s.clients := rfl
@[simp] theorem Registry.goto_threadLaunched : (s.goto c p).threadLaunched = s.threadLaunched := rfl

end

@[simp] def ClientPlace.holdsLock : ClientPlace → Bool
  | .regTest | .regVideo _ | .regAudio | .regFailUnlock | .regInsert | .regUnlock => true
  | .unregErase | .unregTest | .unregJoin _ | .unregJoinAudio | .unregSync | .unregUnlock => true
  | .idle _ | .regWrlock | .regFailFlag | .unregWrlock | .gone => false

structure Exclusive (s : Registry ι) : Prop where
  holder : ∀ c, (s.place c).holdsLock = true ↔ s.writer = some c
  readers : s.writer ≠ none → s.NoReaders

theorem Exclusive.start : Exclusive (Registry.start : Registry ι) where
  holder _ := ⟨nofun, nofun⟩
  readers h := absurd rfl h

theorem Exclusive.unique (exclusive : Exclusive s) (first : (s.place c).holdsLock = true)
    (second : (s.place d).holdsLock = true) : c = d := by
  have writer := (exclusive.holder d).mp second
  rw [(exclusive.holder c).mp first] at writer
  exact Option.some.inj writer

theorem Registry.noReaders_nil (none' : s.threads = []) : s.NoReaders := by
  simp [Registry.NoReaders, none']

theorem ThreadStep.reading {t t' : Thread ι} (step : ThreadStep cfg s t t') (reading : t'.Reading) :
    t.Reading ∨ s.writer = none := by
  obtain ⟨left, place⟩ := reading
  cases step with
  | locked _ free => exact .inr free
  | visited here => exact .inl ⟨_, here⟩
  | running | noPacket | sent =>
      cases proc : t.proc <;> simp [proc, Proc.body, Proc.next] at place
  | _ => cases place

theorem Exclusive.thread (exclusive : Exclusive s) {tid : Nat} {t t' : Thread ι}
    (here : s.threads[tid]? = some t) (step : ThreadStep cfg s t t') :
    Exclusive { s with threads := s.threads.set tid t' } where
  holder := exclusive.holder
  readers held u member reading := by
    have none_reads := exclusive.readers held
    rcases List.mem_or_eq_of_mem_set member with member | rfl
    · exact none_reads u member reading
    · rcases step.reading reading with before | free
      · exact none_reads t (List.mem_of_getElem? here) before
      · exact held free

variable [DecidableEq ι]

theorem ClientStep.place_other (step : ClientStep cfg c s s') (other : d ≠ c) :
    s'.place d = s.place d := by
  cases step <;> exact Function.update_of_ne other ..

theorem ClientStep.lock (step : ClientStep cfg c s s') :
    (s'.writer = s.writer ∧ (s'.place c).holdsLock = (s.place c).holdsLock) ∨
      (s.writer = none ∧ s.NoReaders ∧ s'.writer = some c ∧ (s'.place c).holdsLock = true) ∨
      ((s.place c).holdsLock = true ∧ s'.writer = none ∧ (s'.place c).holdsLock = false) := by
  cases step <;> simp [*]

theorem ClientStep.clients (step : ClientStep cfg c s s') :
    s'.clients = s.clients ∨
      (s.place c = .regInsert ∧ s'.clients = s.clients.insert c ∧ s'.place c = .regUnlock) ∨
      (s.place c = .unregErase ∧ s'.clients = s.clients.erase c ∧ s'.place c = .unregTest) := by
  cases step <;> simp [*]

theorem ClientStep.mem_other (step : ClientStep cfg c s s') (other : d ≠ c) :
    d ∈ s'.clients ↔ d ∈ s.clients := by
  rcases step.clients with same | ⟨-, inserted, -⟩ | ⟨-, gone, -⟩
  · rw [same]
  · rw [inserted, List.mem_insert_iff]
    exact or_iff_right other
  · rw [gone, List.mem_erase_of_ne other]

theorem ClientStep.threads (step : ClientStep cfg c s s') :
    s'.threads = s.threads ∨
      ((∃ proc, s'.threads = s.threads ++ [⟨proc, .init, 0, false⟩]) ∧
        ((∃ k, s.place c = .regVideo k) ∨ s.place c = .regAudio)) ∨
      ∃ tid, s'.threads = s.threads.modify tid fun t => { t with joined := true } := by
  cases step with
  | regVideo place _ => exact .inr (.inl ⟨⟨_, rfl⟩, .inl ⟨_, place⟩⟩)
  | regAudio place _ => exact .inr (.inl ⟨⟨_, rfl⟩, .inr place⟩)
  | unregJoin | unregJoinAudio => exact .inr (.inr ⟨_, rfl⟩)
  | _ => exact .inl rfl

/-- The flag is set by the first registration, and cleared by a failed one, after it gave up the lock,
and by the last client that leaves. -/
theorem ClientStep.launched (step : ClientStep cfg c s s') :
    s'.threadLaunched = s.threadLaunched ∨
      (s.place c = .regTest ∧ s.clients = [] ∧ s'.threadLaunched = true ∧ s'.place c = .regVideo 0) ∨
      (s.place c = .regFailFlag ∧ s'.threadLaunched = false ∧ s'.place c = .idle (some (-1))) ∨
      (s.place c = .unregTest ∧ s.clients = [] ∧ s'.threadLaunched = false ∧
        s'.place c = .unregJoin 0) := by
  cases step <;> simp [*]

theorem ClientStep.place_mem {t : Thread ι} (step : ClientStep cfg c s s') (member : t ∈ s'.threads) :
    t.place = .init ∨ ∃ u ∈ s.threads, u.place = t.place := by
  rcases step.threads with same | ⟨⟨proc, same⟩, -⟩ | ⟨tid, same⟩ <;> rw [same] at member
  · exact .inr ⟨t, member, rfl⟩
  · rcases List.mem_append.mp member with member | member
    · exact .inr ⟨t, member, rfl⟩
    · obtain rfl := List.mem_singleton.mp member
      exact .inl rfl
  · obtain ⟨i, bound, rfl⟩ := List.mem_iff_getElem.mp member
    rw [List.length_modify] at bound
    rw [List.getElem_modify]
    refine .inr ⟨s.threads[i], List.getElem_mem bound, ?_⟩
    split_ifs <;> rfl

theorem ClientStep.noReaders (step : ClientStep cfg c s s') (readers : s.NoReaders) :
    s'.NoReaders := by
  rintro t member ⟨left, place⟩
  rcases step.place_mem member with first | ⟨u, member, same⟩
  · rw [first] at place
    cases place
  · exact readers u member ⟨left, same.trans place⟩

theorem Exclusive.client (exclusive : Exclusive s) (step : ClientStep cfg c s s') :
    Exclusive s' := by
  have self := exclusive.holder c
  constructor
  · intro d
    by_cases same : d = c
    · subst same
      rcases step.lock with ⟨writer, place⟩ | ⟨-, -, writer, place⟩ | ⟨-, writer, place⟩
      · rw [writer, place, self]
      · rw [writer, place]
        exact ⟨fun _ => rfl, fun _ => rfl⟩
      · rw [writer, place]
        exact ⟨nofun, nofun⟩
    · have other := exclusive.holder d
      rw [step.place_other same, other]
      rcases step.lock with ⟨writer, -⟩ | ⟨free, -, writer, -⟩ | ⟨held, writer, -⟩
      · rw [writer]
      · rw [free, writer, Option.some_inj]
        exact ⟨nofun, fun h => absurd h.symm same⟩
      · rw [self.mp held, writer, Option.some_inj]
        exact ⟨fun h => absurd h.symm same, nofun⟩
  · intro held
    rcases step.lock with ⟨writer, -⟩ | ⟨-, readers, -⟩ | ⟨-, writer, -⟩
    · exact step.noReaders (exclusive.readers (writer ▸ held))
    · exact step.noReaders readers
    · exact absurd writer held

theorem exclusive {s : Registry ι} (reachable : (encoders ι cfg).Reachable s) : Exclusive s := by
  refine reachable.invariant (fun s first => first ▸ .start) fun s l t holds step => ?_
  cases step with
  | client step => exact holds.client step
  | thread here step => exact holds.thread here step

end GamingAnywhere.Encoder
