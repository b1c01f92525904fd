import GamingAnywhere.Encoder.Joining

namespace GamingAnywhere.Encoder
open Lib

variable {ι : Type*} {cfg : Setup} {s s' : Registry ι} {c d : ι}

/-! ## Threads that are told to stop -/

/-- What holds of a thread at each place. The audio encoder never asks for more than it needs to fill
a frame, so one frame at most is waiting. -/
def Thread.Sound (cfg : Setup) (t : Thread ι) : Prop :=
  t.nsamples ≤ cfg.frameSize ∧
    match t.place with
    | .load | .timedwait | .reload | .convert => t.proc ≠ .audio
    | .frames => 0 < cfg.frameSize
    | .encode | .tryrdlock | .launchedTest | .send _ =>
        t.proc = .audio → 0 < cfg.frameSize ∧ cfg.frameSize ≤ t.nsamples
    | .drop => 0 < cfg.frameSize ∧ cfg.frameSize ≤ t.nsamples
    | _ => True

def Thread.rank (cfg : Setup) (t : Thread ι) : Nat :=
  match t.place with
  | .ended | .send _ => 0
  | .quit => 1
  | .running | .launchedTest => 2
  | .init | .tryrdlock => 3
  | .drop => 5 * t.nsamples + 3
  | .encode => 5 * t.nsamples + 4
  | .frames | .convert => 5 * t.nsamples + 5
  | .reload => 5 * t.nsamples + 6
  | .timedwait => 5 * t.nsamples + 7
  | .load => 5 * t.nsamples + 8
  | .read => 5 * cfg.frameSize + 6

theorem Thread.rank_le {t : Thread ι} (sound : t.Sound cfg) : t.rank cfg ≤ 5 * cfg.frameSize + 8 := by
  have := sound.1
  unfold Thread.rank
  split <;> omega

theorem ThreadStep.sound {t t' : Thread ι} (step : ThreadStep cfg s t t') (sound : t.Sound cfg) :
    t'.Sound cfg := by
  obtain ⟨bound, place⟩ := sound
  cases step with
  | running here =>
      cases proc : t.proc <;> simp [Thread.Sound, Proc.body, bound]
  | noPacket here =>
      rw [here] at place
      cases proc : t.proc <;> simp_all [Thread.Sound, Proc.next]
  | sent here =>
      rw [here] at place
      cases proc : t.proc <;> simp_all [Thread.Sound, Proc.next]
  | read r here positive room =>
      refine ⟨?_, ?_⟩
      · dsimp only
        omega
      · change 0 < cfg.frameSize
        omega
  | frame here whole =>
      rw [here] at place
      exact ⟨bound, fun _ => ⟨place, whole⟩⟩
  | dropped here =>
      rw [here] at place
      refine ⟨?_, place.1⟩
      dsimp only
      omega
  | started here | startFailed here | startReturned here | stopped here | loaded here
  | loadedNull here | timedOut here | notified here | reloaded here | reloadedNull here
  | converted here | mismatched here | readNothing here | noFrame here | encodeFailed here
  | packet here | locked here | busy here | again here | gaveUp here | visited here
  | quitted here =>
      rw [here] at place
      simp_all [Thread.Sound]

theorem ThreadStep.rank_lt {t t' : Thread ι} (step : ThreadStep cfg s t t') (sound : t.Sound cfg)
    (stopped : s.threadLaunched = false) (held : s.writer ≠ none) (silent : ¬ t.Reading) :
    t'.rank cfg < t.rank cfg := by
  obtain ⟨bound, place⟩ := sound
  cases step with
  | running _ on | again _ on =>
      rw [stopped] at on
      cases on
  | locked _ free => exact absurd free held
  | visited here => exact absurd ⟨_, here⟩ silent
  | sent here => exact absurd ⟨_, here⟩ silent
  | noPacket here =>
      rw [here] at place
      cases t.proc <;> simp [Thread.rank, here, Proc.next]
  | read r here positive room =>
      simp only [Thread.rank, here]
      omega
  | dropped here =>
      rw [here] at place
      have frame : 0 < cfg.frameSize ∧ cfg.frameSize ≤ t.nsamples := place
      simp only [Thread.rank, here]
      omega
  | started here | startFailed here | startReturned here | stopped here | loaded here
  | loadedNull here | timedOut here | notified here | reloaded here | reloadedNull here
  | converted here | mismatched here | readNothing here | frame here | noFrame here
  | encodeFailed here | packet here | busy here | gaveUp here | quitted here =>
      simp only [Thread.rank, here]
      omega

theorem ThreadStep.exists_of_not_ended (cfg : Setup) (s : Registry ι) {t : Thread ι}
    (alive : t.place ≠ .ended) : ∃ t', ThreadStep cfg s t t' := by
  cases place : t.place with
  | init => exact ⟨_, .started place⟩
  | running =>
      cases flag : s.threadLaunched with
      | true => exact ⟨_, .running place flag⟩
      | false => exact ⟨_, .stopped place flag⟩
  | load => exact ⟨_, .loaded place⟩
  | timedwait => exact ⟨_, .timedOut place⟩
  | reload => exact ⟨_, .reloaded place⟩
  | convert => exact ⟨_, .converted place⟩
  | read => exact ⟨_, .readNothing place⟩
  | frames =>
      rcases Nat.lt_or_ge t.nsamples cfg.frameSize with few | whole
      · exact ⟨_, .noFrame place few⟩
      · exact ⟨_, .frame place whole⟩
  | encode => exact ⟨_, .packet place⟩
  | tryrdlock => exact ⟨_, .busy place⟩
  | launchedTest =>
      cases flag : s.threadLaunched with
      | true => exact ⟨_, .again place flag⟩
      | false => exact ⟨_, .gaveUp place flag⟩
  | send left =>
      cases left with
      | nil => exact ⟨_, .sent place⟩
      | cons c left => exact ⟨_, .visited place⟩
  | drop => exact ⟨_, .dropped place⟩
  | quit => exact ⟨_, .quitted place⟩
  | ended => exact absurd place alive

/-! ## The joins -/

def Joining (s : Registry ι) (c : ι) : Prop :=
  (∃ i, s.place c = .unregJoin i) ∨ s.place c = .unregJoinAudio

theorem Joining.holdsLock (joining : Joining s c) : (s.place c).holdsLock = true := by
  rcases joining with ⟨i, place⟩ | place <;> rw [place] <;> rfl

structure Stopping (cfg : Setup) (s : Registry ι) : Prop where
  flag : ∀ c, Joining s c → s.threadLaunched = false
  sound : ∀ t ∈ s.threads, t.Sound cfg

def Registry.rank (cfg : Setup) (tid : Nat) (s : Registry ι) : Nat :=
  (s.threads[tid]?.map (Thread.rank cfg)).getD 0

theorem rank_thread_lt {tid : Nat} {t t' : Thread ι} (here : s.threads[tid]? = some t)
    (exclusive : Exclusive s) (stopping : Stopping cfg s) (joining : Joining s c)
    (step : ThreadStep cfg s t t') :
    Registry.rank cfg tid { s with threads := s.threads.set tid t' } < s.rank cfg tid := by
  have member := List.mem_of_getElem? here
  have bound := (List.getElem?_eq_some_iff.mp here).1
  have held : s.writer ≠ none := by
    rw [(exclusive.holder c).mp joining.holdsLock]
    nofun
  unfold Registry.rank
  rw [List.getElem?_set_self bound, here]
  exact step.rank_lt (stopping.sound t member) (stopping.flag c joining) held
    (exclusive.readers held t member)

theorem rank_thread_other {tid moved : Nat} (ne : moved ≠ tid) (t' : Thread ι) :
    Registry.rank cfg tid { s with threads := s.threads.set moved t' } = s.rank cfg tid := by
  unfold Registry.rank
  rw [List.getElem?_set_ne ne]

variable [DecidableEq ι]

/-! ## Runs -/

theorem ClientStep.joining (step : ClientStep cfg c s s') (joining : Joining s' c) :
    Joining s c ∨ (s.place c = .unregTest ∧ s'.threadLaunched = false) := by
  cases step <;> simp_all [Joining]

theorem ClientStep.sound (step : ClientStep cfg c s s') (sound : ∀ t ∈ s.threads, t.Sound cfg) :
    ∀ t ∈ s'.threads, t.Sound cfg := by
  intro t member
  rcases step.threads with same | ⟨⟨proc, same⟩, -⟩ | ⟨tid, same⟩ <;> rw [same] at member
  · exact sound t member
  · rcases List.mem_append.mp member with member | member
    · exact sound t member
    · obtain rfl := List.mem_singleton.mp member
      exact ⟨Nat.zero_le _, trivial⟩
  · obtain ⟨i, bound, rfl⟩ := List.mem_iff_getElem.mp member
    rw [List.length_modify] at bound
    rw [List.getElem_modify]
    split_ifs
    · exact sound s.threads[i] (List.getElem_mem bound)
    · exact sound s.threads[i] (List.getElem_mem bound)

theorem Stopping.client (stopping : Stopping cfg s) (exclusive : Exclusive s)
    (step : ClientStep cfg c s s') : Stopping cfg s' := by
  refine ⟨fun d joining => ?_, step.sound stopping.sound⟩
  by_cases self : d = c
  · subst self
    rcases step.joining joining with already | ⟨-, off⟩
    · have off := stopping.flag d already
      have held := already.holdsLock
      rcases step.launched with same | ⟨test, -⟩ | ⟨-, off, -⟩ | ⟨-, -, off, -⟩
      · rwa [same]
      · rcases already with ⟨i, place⟩ | place <;> rw [test] at place <;> cases place
      · exact off
      · exact off
    · exact off
  · have before : Joining s d := by
      unfold Joining at joining ⊢
      rwa [step.place_other self] at joining
    have off := stopping.flag d before
    rcases step.launched with same | ⟨test, -⟩ | ⟨-, off, -⟩ | ⟨-, -, off, -⟩
    · rwa [same]
    · have held : (s.place c).holdsLock = true := by
        rw [test]
        rfl
      exact absurd (exclusive.unique before.holdsLock held) self
    · exact off
    · exact off

theorem stopping (reachable : (encoders ι cfg).Reachable s) : Stopping cfg s := by
  refine reachable.invariant_of (I := Exclusive) (fun s first => ?_) (fun s => exclusive)
    fun s l t excl holds step => ?_
  · obtain rfl : s = .start := first
    refine ⟨fun c joining => ?_, nofun⟩
    rcases joining with ⟨i, place⟩ | place <;> cases place
  · cases step with
    | client step => exact holds.client excl step
    | thread here step =>
        refine ⟨holds.flag, fun u member => ?_⟩
        rcases List.mem_or_eq_of_mem_set member with member | rfl
        · exact holds.sound u member
        · exact step.sound (holds.sound _ (List.mem_of_getElem? here))

def whileJoining (cfg : Setup) (c : ι) : System (Registry ι) (Party ι) :=
  (encoders ι cfg).restrict fun s _ t => Joining s c ∧ Joining t c

theorem ClientStep.rank_eq (step : ClientStep cfg d s s') (exclusive : Exclusive s)
    (joining : Joining s c) (tid : Nat) : s'.rank cfg tid = s.rank cfg tid := by
  unfold Registry.rank
  rcases step.threads with same | ⟨-, creating⟩ | ⟨joined, same⟩
  · rw [same]
  · have held : (s.place d).holdsLock = true := by
      rcases creating with ⟨k, place⟩ | place <;> rw [place] <;> rfl
    obtain rfl : c = d := exclusive.unique joining.holdsLock held
    rcases joining with ⟨i, place⟩ | place <;> rcases creating with ⟨k, creating⟩ | creating <;>
      rw [place] at creating <;> cases creating
  · rw [same, List.getElem?_modify]
    cases s.threads[tid]? with
    | none => rfl
    | some t =>
        simp only [Option.map_some, Option.getD_some]
        split_ifs <;> rfl

theorem unregister_joins_terminate (reachable : (encoders ι cfg).Reachable s) (joining : Joining s c)
    {ls : List (Party ι)} (run : (whileJoining cfg c).Run s ls s') (tid : Nat) :
    s'.writer = some c ∧ s'.NoReaders ∧
      ls.count (.thread tid) ≤ 5 * cfg.frameSize + 8 ∧
      ∀ t, s'.threads[tid]? = some t → t.place ≠ .ended →
        ∃ t', ThreadStep cfg s' t t' ∧
          (whileJoining cfg c).Step s' (.thread tid) { s' with threads := s'.threads.set tid t' } := by
  have kept : ∀ s l t, ((encoders ι cfg).Reachable s ∧ Joining s c) → (whileJoining cfg c).Step s l t →
      (encoders ι cfg).Reachable t ∧ Joining t c :=
    fun s l t before step => ⟨before.1.step step.2, step.1.2⟩
  obtain ⟨later, joining'⟩ := run.invariant kept ⟨reachable, joining⟩
  have writer := ((exclusive later).holder c).mp joining'.holdsLock
  refine ⟨writer, (exclusive later).readers (by rw [writer]; nofun), ?_, ?_⟩
  · have steps : ls.countP (fun l => l == .thread tid) + s'.rank cfg tid ≤ s.rank cfg tid := by
      refine run.own_steps_le kept ?_ ?_ ⟨reachable, joining⟩
      · rintro s l t ⟨before, joining⟩ ⟨-, step⟩ own
        cases step with
        | client step => simp at own
        | thread here step =>
            obtain rfl : _ = tid := by simpa using own
            exact rank_thread_lt here (exclusive before) (stopping before) joining step
      · rintro s l t ⟨before, joining⟩ ⟨-, step⟩ own
        cases step with
        | client step => exact Nat.le_of_eq (step.rank_eq (exclusive before) joining tid)
        | thread here step =>
            rename_i moved _ t'
            have ne : moved ≠ tid := by simpa using own
            exact Nat.le_of_eq (rank_thread_other ne t')
    have total : s.rank cfg tid ≤ 5 * cfg.frameSize + 8 := by
      unfold Registry.rank
      cases here : s.threads[tid]? with
      | none => exact Nat.zero_le _
      | some t => exact t.rank_le ((stopping reachable).sound t (List.mem_of_getElem? here))
    have counted : ls.count (.thread tid) = ls.countP fun l => l == .thread tid := rfl
    omega
  · intro t here alive
    obtain ⟨t', step⟩ := ThreadStep.exists_of_not_ended cfg s' alive
    exact ⟨t', step, ⟨joining', joining'⟩, .thread here step⟩

theorem played_joins_terminate : ∃ s s' : Registry Unit, Joining s () ∧
    (whileJoining oneChannel ()).Run s [.thread 0, .thread 0] s' ∧ s'.writer = some () ∧
      s'.NoReaders := by
  obtain ⟨s, reachable, place, threads⟩ := played_reachable
  have joining : Joining s () := .inl ⟨0, place⟩
  have first : s.threads[0]? = some ⟨.video 0, .init, 0, false⟩ := by rw [threads]; rfl
  let quitting : List (Thread Unit) := s.threads.set 0 ⟨.video 0, .quit, 0, false⟩
  have second : quitting[0]? = some ⟨.video 0, .quit, 0, false⟩ := by
    simp [quitting, threads]
  have failed : (whileJoining oneChannel ()).Step s (.thread 0) { s with threads := quitting } :=
    ⟨⟨joining, .inl ⟨0, place⟩⟩, .thread first (.startFailed rfl)⟩
  have ended : (whileJoining oneChannel ()).Step { s with threads := quitting } (.thread 0)
      { s with threads := quitting.set 0 ⟨.video 0, .ended, 0, false⟩ } :=
    ⟨⟨.inl ⟨0, place⟩, .inl ⟨0, place⟩⟩, .thread second (.quitted rfl)⟩
  have run := System.Run.cons failed (.cons ended (.nil _))
  obtain ⟨writer, readers, -⟩ :=
    unregister_joins_terminate reachable.of_restrict joining run 0
  exact ⟨s, _, joining, run, writer, readers⟩

end GamingAnywhere.Encoder
