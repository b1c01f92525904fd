import GamingAnywhere.Lib.Transition
import Mathlib.Data.List.Count
import Mathlib.Data.Option.Basic

/-!
# Accepting connections

`rtspserver_main` stores each accepted descriptor in `cs`, one variable of its frame, and passes the
address of `cs` to the service thread. The thread reads it first of all, but the loop does not wait for
that before it accepts the next connection.
-/

namespace GamingAnywhere.Server
open Lib

/-- `create` lies between `accept` and `pthread_create`. -/
inductive AcceptLoop
  | accept
  | create
  | returned
  deriving DecidableEq

/-- `accepted` are the descriptors that `accept` has returned so far, and `threads` the started service
threads, each with the `s` that it has read. -/
structure Handoff where
  accepted : List Int
  cs : Int
  loop : AcceptLoop
  threads : List (Option Int)

inductive HandoffEvent
  | accept (fd : Int)
  | acceptFailed
  | create (created : Bool)
  | read (j : Nat)

inductive HandoffStep : Handoff → HandoffEvent → Handoff → Prop
  | accept {s : Handoff} {fd : Int} : s.loop = .accept → 0 ≤ fd →
      HandoffStep s (.accept fd)
        { s with accepted := s.accepted ++ [fd], cs := fd, loop := .create }
  | acceptFailed {s : Handoff} : s.loop = .accept →
      HandoffStep s .acceptFailed { s with cs := -1, loop := .returned }
  | created {s : Handoff} : s.loop = .create →
      HandoffStep s (.create true) { s with loop := .accept, threads := s.threads ++ [none] }
  -- `cs` is closed
  | notCreated {s : Handoff} : s.loop = .create →
      HandoffStep s (.create false) { s with loop := .accept }
  -- `cs` is gone when the loop has returned
  | read {s : Handoff} {j : Nat} {fd : Int} : s.threads[j]? = some none →
      (s.loop ≠ .returned → fd = s.cs) →
      HandoffStep s (.read j) { s with threads := s.threads.set j (some fd) }

def handoff : System Handoff HandoffEvent where
  Init s := s.accepted = [] ∧ s.loop = .accept ∧ s.threads = []
  Step := HandoffStep

/-- No descriptor is served twice, and once every thread has read its own none is left. -/
def Handoff.ServedOnce (s : Handoff) : Prop :=
  (∀ fd, s.threads.count (some fd) ≤ s.accepted.count fd) ∧
  (s.loop ≠ .create → none ∉ s.threads →
    ∀ fd, s.threads.count (some fd) = s.accepted.count fd)

def HandedOver (s : Handoff) (l : HandoffEvent) (_t : Handoff) : Prop :=
  match l with
  | .accept _ | .acceptFailed => none ∉ s.threads
  | .create created => created = true
  | .read _ => True

/-! ## Descriptors in order -/

inductive Handoff.InOrder : Handoff → Prop
  | served {s : Handoff} (served : List Int) : s.threads = served.map some →
      s.accepted = served → s.loop ≠ .create → InOrder s
  | accepted {s : Handoff} (served : List Int) : s.threads = served.map some →
      s.accepted = served ++ [s.cs] → s.loop = .create → 0 ≤ s.cs → InOrder s
  | started {s : Handoff} (served : List Int) : s.threads = served.map some ++ [none] →
      s.accepted = served ++ [s.cs] → s.loop = .accept → 0 ≤ s.cs → InOrder s

theorem count_served (served : List Int) (fd : Int) :
    (served.map some).count (some fd) = served.count fd :=
  List.count_map_of_injective _ _ (Option.some_injective _) _

theorem none_not_mem_served (served : List Int) : none ∉ served.map some := by simp

theorem set_last (served : List Int) (fd : Int) :
    (served.map some ++ [none]).set served.length (some fd) = (served ++ [fd]).map some := by
  simp [List.set_append_right]

theorem getElem?_last (served : List Int) :
    (served.map some ++ [(none : Option Int)])[served.length]? = some none := by
  simp

theorem position_of_last {served : List Int} {j : Nat}
    (unread : (served.map some ++ [(none : Option Int)])[j]? = some none) : j = served.length := by
  have inside := (List.getElem?_eq_some_iff.mp unread).1
  rw [List.length_append, List.length_map, List.length_singleton] at inside
  by_contra other
  have early : j < (served.map some).length := by
    rw [List.length_map]
    omega
  rw [List.getElem?_append_left early] at unread
  exact none_not_mem_served served (List.mem_of_getElem? unread)

variable {s t : Handoff} {l : HandoffEvent}

theorem Handoff.InOrder.servedOnce (order : s.InOrder) : s.ServedOnce := by
  cases order with
  | served served threads accepted loop =>
      constructor
      · intro fd
        exact Nat.le_of_eq (by rw [threads, accepted, count_served])
      · intro _ _ fd
        rw [threads, accepted, count_served]
  | accepted served threads accepted loop valid =>
      constructor
      · intro fd
        rw [threads, accepted, count_served, List.count_append]
        exact Nat.le_add_right _ _
      · exact fun closed => absurd loop closed
  | started served threads accepted loop valid =>
      constructor
      · intro fd
        rw [threads, accepted, List.count_append, count_served, List.count_append,
          List.count_singleton]
        exact Nat.le_add_right _ _
      · intro _ read
        rw [threads] at read
        simp at read

theorem Handoff.InOrder.step (step : HandoffStep s l t) (waits : HandedOver s l t)
    (order : s.InOrder) : t.InOrder := by
  cases step with
  | accept here positive =>
      cases order with
      | served served threads accepted loop =>
          exact .accepted served threads (congrArg (· ++ _) accepted) rfl positive
      | accepted served threads accepted loop valid =>
          rw [loop] at here
          contradiction
      | started served threads accepted loop valid =>
          refine absurd ?_ waits
          simp [threads]
  | acceptFailed here =>
      cases order with
      | served served threads accepted loop => exact .served served threads accepted nofun
      | accepted served threads accepted loop valid =>
          rw [loop] at here
          contradiction
      | started served threads accepted loop valid =>
          refine absurd ?_ waits
          simp [threads]
  | created here =>
      cases order with
      | served served threads accepted loop => contradiction
      | accepted served threads accepted loop valid =>
          exact .started served (congrArg (· ++ _) threads) accepted rfl valid
      | started served threads accepted loop valid =>
          rw [loop] at here
          contradiction
  | notCreated here => cases waits
  | @read j fd unread current =>
      cases order with
      | served served threads accepted loop =>
          rw [threads] at unread
          exact absurd (List.mem_of_getElem? unread) (none_not_mem_served served)
      | accepted served threads accepted loop valid =>
          rw [threads] at unread
          exact absurd (List.mem_of_getElem? unread) (none_not_mem_served served)
      | started served threads accepted loop valid =>
          have current : fd = s.cs := current (by simp [loop])
          have last : j = served.length := by
            rw [threads] at unread
            exact position_of_last unread
          refine .served (served ++ [s.cs]) ?_ accepted (by simp [loop])
          rw [threads, last, current]
          exact set_last served s.cs

/-! ## Descriptors handed over wrongly -/

theorem Handoff.InOrder.started_of_waiting (order : s.InOrder) (waiting : none ∈ s.threads) :
    ∃ served : List Int, s.threads = served.map some ++ [none] ∧ s.accepted = served ++ [s.cs] ∧
      0 ≤ s.cs := by
  cases order with
  | served served threads accepted loop => simp [threads] at waiting
  | accepted served threads accepted loop valid => simp [threads] at waiting
  | started served threads accepted loop valid => exact ⟨served, threads, accepted, valid⟩

theorem Handoff.not_servedOnce {served : List Int} (fd : Int) (threads : s.threads = served.map some)
    (loop : s.loop ≠ .create) (lost : served.count fd < s.accepted.count fd) :
    ¬ s.ServedOnce := by
  intro once
  have unread : none ∉ s.threads := by
    rw [threads]
    exact none_not_mem_served served
  have same := once.2 loop unread fd
  rw [threads, count_served] at same
  omega

/-- The thread that was started last reads the next descriptor, or what a failed `accept` has left. -/
theorem Handoff.InOrder.lost (order : s.InOrder) (step : HandoffStep s l t) (wrong : ¬ HandedOver s l t)
    (other : l ≠ .accept s.cs) : ∃ ls u, handoff.Run t ls u ∧ ¬ u.ServedOnce := by
  cases step with
  | @accept fd here positive =>
      obtain ⟨served, threads, accepted, -⟩ := order.started_of_waiting (not_not.mp wrong)
      have different : fd ≠ s.cs := fun same => other (congrArg _ same)
      have first : handoff.Step ⟨s.accepted ++ [fd], fd, .create, s.threads⟩ (.read served.length)
          ⟨s.accepted ++ [fd], fd, .create, (served ++ [fd]).map some⟩ := by
        rw [← set_last, ← threads]
        exact .read (by rw [threads]; exact getElem?_last served) fun _ => rfl
      have second : handoff.Step ⟨s.accepted ++ [fd], fd, .create, (served ++ [fd]).map some⟩ (.create true)
          ⟨s.accepted ++ [fd], fd, .accept, (served ++ [fd]).map some ++ [none]⟩ := .created rfl
      have third : handoff.Step ⟨s.accepted ++ [fd], fd, .accept, (served ++ [fd]).map some ++ [none]⟩
          (.read (served ++ [fd]).length) ⟨s.accepted ++ [fd], fd, .accept, (served ++ [fd] ++ [fd]).map some⟩ := by
        rw [← set_last (served ++ [fd])]
        exact .read (getElem?_last (served ++ [fd])) fun _ => rfl
      refine ⟨_, _, .cons first (.cons second (.cons third (.nil _))), Handoff.not_servedOnce s.cs rfl nofun ?_⟩
      simp [accepted, different]
  | acceptFailed here =>
      obtain ⟨served, threads, accepted, valid⟩ := order.started_of_waiting (not_not.mp wrong)
      have different : (-1 : Int) ≠ s.cs := by omega
      have read : handoff.Step ⟨s.accepted, -1, .returned, s.threads⟩ (.read served.length)
          ⟨s.accepted, -1, .returned, (served ++ [-1]).map some⟩ := by
        rw [← set_last, ← threads]
        exact .read (by rw [threads]; exact getElem?_last served) fun _ => rfl
      refine ⟨_, _, .cons read (.nil _), Handoff.not_servedOnce s.cs rfl nofun ?_⟩
      simp [accepted, different]
  | notCreated here =>
      cases order with
      | served served threads accepted loop => contradiction
      | accepted served threads accepted loop valid =>
          refine ⟨_, _, .nil _, Handoff.not_servedOnce s.cs threads nofun ?_⟩
          simp [accepted]
      | started served threads accepted loop valid =>
          rw [loop] at here
          contradiction
  | created here => exact absurd rfl wrong
  | read unread current => exact absurd trivial wrong

/-! ## Exactly one thread -/

/-- Every descriptor is served by its thread as long as `accept` waits for the last thread to read it
and threads can be created. The next step to the contrary, with a descriptor that is not open yet, can be
followed by others up to a descriptor that nobody serves. -/
theorem handoff_servedOnce (s : Handoff) (reachable : (handoff.restrict HandedOver).Reachable s) :
    s.ServedOnce ∧ ∀ l t, handoff.Step s l t → ¬ HandedOver s l t → l ≠ .accept s.cs →
      ∃ ls u, handoff.Run t ls u ∧ ¬ u.ServedOnce := by
  have order : s.InOrder := by
    refine reachable.invariant (I := Handoff.InOrder) ?_ ?_
    · rintro a ⟨accepted, loop, threads⟩
      exact .served [] threads accepted (by simp [loop])
    · exact fun _ _ _ order step => order.step step.2 step.1
  exact ⟨order.servedOnce, fun _ _ step wrong other => order.lost step wrong other⟩

theorem handoff_servedOnce_two : (⟨[5, 6], 6, .accept, [some 5, some 6]⟩ : Handoff).ServedOnce ∧
    ∃ ls u, handoff.Run ⟨[5, 6, 7], 7, .create, [some 5, none]⟩ ls u ∧ ¬ u.ServedOnce := by
  let guarded := handoff.restrict HandedOver
  have start : guarded.Reachable ⟨[], 0, .accept, []⟩ := .init ⟨rfl, rfl, rfl⟩
  have accepted : guarded.Reachable ⟨[5], 5, .create, []⟩ :=
    start.step (l := .accept 5) ⟨none_not_mem_served [], .accept rfl (by decide)⟩
  have created : guarded.Reachable ⟨[5], 5, .accept, [none]⟩ :=
    accepted.step (l := .create true) ⟨rfl, .created rfl⟩
  have read : guarded.Reachable ⟨[5], 5, .accept, [some 5]⟩ :=
    created.step (l := .read 0) ⟨trivial, .read rfl fun _ => rfl⟩
  have next : guarded.Reachable ⟨[5, 6], 6, .create, [some 5]⟩ :=
    read.step (l := .accept 6) ⟨none_not_mem_served [5], .accept rfl (by decide)⟩
  have waiting : guarded.Reachable ⟨[5, 6], 6, .accept, [some 5, none]⟩ :=
    next.step (l := .create true) ⟨rfl, .created rfl⟩
  have served : guarded.Reachable ⟨[5, 6], 6, .accept, [some 5, some 6]⟩ :=
    waiting.step (l := .read 1) ⟨trivial, .read rfl fun _ => rfl⟩
  have early : ¬ HandedOver ⟨[5, 6], 6, .accept, [some 5, none]⟩ (.accept 7) ⟨[5, 6, 7], 7, .create, [some 5, none]⟩ :=
    not_not.mpr (.tail _ (.head _))
  exact ⟨(handoff_servedOnce _ served).1,
    (handoff_servedOnce _ waiting).2 (.accept 7) _ (.accept rfl (by decide)) early nofun⟩

theorem not_handoff_servedOnce : ¬ ∀ s, handoff.Reachable s → s.ServedOnce := by
  intro once
  have start : handoff.Reachable ⟨[], 0, .accept, []⟩ := .init ⟨rfl, rfl, rfl⟩
  have first : handoff.Reachable ⟨[5], 5, .accept, [none]⟩ :=
    (start.step (.accept rfl (by decide))).step (.created rfl)
  have second : handoff.Reachable ⟨[5, 6], 6, .accept, [none, none]⟩ :=
    (first.step (.accept rfl (by decide))).step (.created rfl)
  have read : handoff.Reachable ⟨[5, 6], 6, .accept, [some 6, some 6]⟩ :=
    (second.step (.read (j := 0) rfl fun _ => rfl)).step (.read (j := 1) rfl fun _ => rfl)
  have twice := (once _ read).1 6
  revert twice
  decide

end GamingAnywhere.Server
