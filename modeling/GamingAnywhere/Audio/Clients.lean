import GamingAnywhere.Audio.Stream
import GamingAnywhere.Lib.OrderedMap
import Mathlib.Data.Int.Order.Basic
import Mathlib.Logic.Function.Basic

/-!
# Audio clients

`gClients` maps the thread of a client to its buffer. `audio_source_buffer_fill` visits the buffers in
turn and holds `ccmutex` meanwhile, so that nobody registers or unregisters; but the clients go on
reading between two visits. A reader that finds its buffer empty waits once, without the mutex of the
buffer, and then takes what there is.
-/

namespace GamingAnywhere.Audio
open Lib

structure Filling (ι : Type*) where
  data : Option (Mem UInt8)
  frames : Int
  left : List ι

/-- `ι` are the buffers; `waiting` are the reads in `pthread_cond_timedwait`. -/
structure Source (ι : Type*) where
  gClients : OrderedMap Int (Option ι)
  filling : Option (Filling ι)
  buffers : ι → AudioBuffer
  waiting : List (ι × Int)

inductive Event (ι : Type*)
  | fill (data : Option (Mem UInt8)) (frames : Int)
  | filled
  | register (tid : Int) (ab : Option ι)
  | unregister (tid : Int)
  | wait (i : ι) (frames : Int)
  | call (i : ι) (made : Call) (reply : Reply)

section
variable {ι : Type*}

structure Source.Owned (owner : ι → Int) (s : Source ι) : Prop where
  clients : ∀ tid i, (tid, some i) ∈ s.gClients.entries → owner i = tid
  once : ∀ filling, s.filling = some filling → filling.left.Nodup

def Source.Registered (owner : ι → Int) (s : Source ι) (i : ι) : Prop :=
  (owner i, some i) ∈ s.gClients.entries

theorem Source.Owned.mem_clients {owner : ι → Int} {s : Source ι} {i : ι}
    (owned : s.Owned owner) :
    i ∈ s.gClients.entries.filterMap Prod.snd ↔ s.Registered owner i := by
  rw [List.mem_filterMap]
  constructor
  · rintro ⟨⟨tid, ab⟩, member, rfl⟩
    rw [Source.Registered, owned.clients tid i member]
    exact member
  · intro member
    exact ⟨_, member, rfl⟩

end

variable {ι : Type*} [DecidableEq ι]

/-- `owner i` is the thread whose buffer `i` is. -/
inductive SourceStep (owner : ι → Int) : Source ι → Event ι → Source ι → Prop
  | fill {s : Source ι} {data : Option (Mem UInt8)} {frames : Int} : s.filling = none →
      SourceStep owner s (.fill data frames)
        { s with filling := some ⟨data, frames, s.gClients.entries.filterMap Prod.snd⟩ }
  | visit {s : Source ι} {data : Option (Mem UInt8)} {frames : Int} {i : ι} {left : List ι}
      {n : Nat} {reply : Reply} {ab : AudioBuffer} : s.filling = some ⟨data, frames, i :: left⟩ →
      perform n (s.buffers i) (.fill data frames) = some (reply, ab) →
      SourceStep owner s (.call i (.fill data frames) reply)
        { s with filling := some ⟨data, frames, left⟩, buffers := Function.update s.buffers i ab }
  | filled {s : Source ι} {data : Option (Mem UInt8)} {frames : Int} :
      s.filling = some ⟨data, frames, []⟩ → SourceStep owner s .filled { s with filling := none }
  | register {s : Source ι} {tid : Int} {ab : Option ι} : s.filling = none →
      (∀ i, ab = some i → owner i = tid) →
      SourceStep owner s (.register tid ab) { s with gClients := s.gClients.insert tid ab }
  | unregister {s : Source ι} {tid : Int} : s.filling = none →
      SourceStep owner s (.unregister tid) { s with gClients := s.gClients.erase tid }
  | wait {s : Source ι} {i : ι} {frames : Int} : 0 < frames → (s.buffers i).bframes = 0 →
      SourceStep owner s (.wait i frames) { s with waiting := (i, frames) :: s.waiting }
  | wake {s : Source ι} {i : ι} {frames : Int} {n : Nat} {reply : Reply} {ab : AudioBuffer} :
      (i, frames) ∈ s.waiting → perform n (s.buffers i) (.read frames) = some (reply, ab) →
      SourceStep owner s (.call i (.read frames) reply)
        { s with waiting := s.waiting.erase (i, frames), buffers := Function.update s.buffers i ab }
  | read {s : Source ι} {i : ι} {frames : Int} {n : Nat} {reply : Reply} {ab : AudioBuffer} :
      frames ≤ 0 ∨ (s.buffers i).bframes ≠ 0 →
      perform n (s.buffers i) (.read frames) = some (reply, ab) →
      SourceStep owner s (.call i (.read frames) reply)
        { s with buffers := Function.update s.buffers i ab }

def audioSource (owner : ι → Int) : System (Source ι) (Event ι) where
  Init s := s.gClients = .empty ∧ s.filling = none ∧ s.waiting = [] ∧
    ∀ i, audioBuffer.Init (s.buffers i) ∧ (s.buffers i).Sized
  Step := SourceStep owner

def FillsFit (s : Source ι) (l : Event ι) (_ : Source ι) : Prop :=
  match l with
  | .call i (.fill _ frames) _ => (s.buffers i).Fits frames
  | _ => True

/-! ## One client's part of a run -/

def Event.own (i : ι) : Event ι → Option (Call × Reply)
  | .call j made reply => if j = i then some (made, reply) else none
  | _ => none

def Call.filled : Call → Option (Option (Mem UInt8) × Int)
  | .fill data frames => some (data, frames)
  | .read _ => none

def Event.registered (owner : ι → Int) (i : ι) (before : Bool) : Event ι → Bool
  | .register tid ab => if tid = owner i then ab = some i else before
  | .unregister tid => if tid = owner i then false else before
  | _ => before

def Event.begun (registered : Bool) : Event ι → List (Option (Mem UInt8) × Int)
  | .fill data frames => if registered then [(data, frames)] else []
  | _ => []

def fillsFor (owner : ι → Int) (i : ι) : Bool → List (Event ι) → List (Option (Mem UInt8) × Int)
  | _, [] => []
  | registered, l :: ls =>
      l.begun registered ++ fillsFor owner i (l.registered owner i registered) ls

def visitsOf (i : ι) (ls : List (Event ι)) : List (Option (Mem UInt8) × Int) :=
  ls.filterMap fun l => (l.own i).bind fun e => e.1.filled

/-! ## Each client by itself -/

section
variable {owner : ι → Int} {s t : Source ι} {l : Event ι} {ls : List (Event ι)} {i : ι}

theorem own_call {made : Call} {reply : Reply} : (Event.call i made reply).own i = some (made, reply) :=
  if_pos rfl

theorem own_other {j : ι} (other : j ≠ i) {made : Call} {reply : Reply} :
    (Event.call j made reply).own i = none := if_neg other

inductive Acts (i : ι) (l : Event ι) (ab ab' : AudioBuffer) : Prop
  | calls (made : Call) (reply : Reply) (jumps : Nat) : l.own i = some (made, reply) →
      perform jumps ab made = some (reply, ab') → FillFits ab (made, reply) ab' → Acts i l ab ab'
  | other : l.own i = none → ab' = ab → Acts i l ab ab'

theorem acts_call {j : ι} {made : Call} {reply : Reply} {jumps : Nat} {ab : AudioBuffer}
    (ran : perform jumps (s.buffers j) made = some (reply, ab))
    (fits : FillFits (s.buffers j) (made, reply) ab) :
    Acts i (.call j made reply) (s.buffers i) (Function.update s.buffers j ab i) := by
  by_cases same : j = i
  · subst same
    rw [Function.update_self]
    exact .calls made reply jumps own_call ran fits
  · exact .other (own_other same) (Function.update_of_ne (Ne.symm same) _ _)

theorem SourceStep.acts (step : SourceStep owner s l t) (fits : FillsFit s l t) (i : ι) :
    Acts i l (s.buffers i) (t.buffers i) := by
  cases step with
  | fill free => exact .other rfl rfl
  | visit filling ran => exact acts_call ran fits
  | filled filling => exact .other rfl rfl
  | register free own => exact .other rfl rfl
  | unregister free => exact .other rfl rfl
  | wait positive empty => exact .other rfl rfl
  | wake waiting ran => exact acts_call ran trivial
  | read ready ran => exact acts_call ran trivial

theorem own_run (run : ((audioSource owner).restrict FillsFit).Run s ls t) (i : ι) :
    (audioBuffer.restrict FillFits).Run (s.buffers i) (ls.filterMap (Event.own i)) (t.buffers i) := by
  have follows : ∃ ab, (audioBuffer.restrict FillFits).Run (s.buffers i)
      (ls.filterMap (Event.own i)) ab ∧ t.buffers i = ab := by
    apply run.projected (R := fun s ab => s.buffers i = ab) _ _ rfl
    · rintro s _ l t e rfl ⟨fits, step⟩ image
      cases step.acts fits i with
      | calls made reply jumps mine ran fit =>
          obtain rfl := Option.some.inj (image.symm.trans mine)
          exact ⟨_, ⟨fit, jumps, ran⟩, rfl⟩
      | other hidden same =>
          rw [image] at hidden
          cases hidden
    · rintro s _ l t rfl ⟨fits, step⟩ image
      cases step.acts fits i with
      | calls made reply jumps mine ran fit =>
          rw [image] at mine
          cases mine
      | other hidden same => exact same
  obtain ⟨ab, ran, rfl⟩ := follows
  exact ran

/-! ## Which fills reach a client -/

instance (owner : ι → Int) (s : Source ι) (i : ι) : Decidable (s.Registered owner i) :=
  inferInstanceAs (Decidable (_ ∈ s.gClients.entries))

def Source.due (s : Source ι) (i : ι) : List (Option (Mem UInt8) × Int) :=
  match s.filling with
  | some filling => if i ∈ filling.left then [(filling.data, filling.frames)] else []
  | none => []

theorem SourceStep.owned (step : SourceStep owner s l t) (owned : s.Owned owner) : t.Owned owner := by
  cases step with
  | fill free =>
      refine ⟨owned.clients, ?_⟩
      rintro _ ⟨⟩
      exact s.gClients.nodup_values owned.clients
  | visit filling ran =>
      refine ⟨owned.clients, ?_⟩
      rintro _ ⟨⟩
      exact (List.nodup_cons.mp (owned.once _ filling)).2
  | filled filling => exact ⟨owned.clients, nofun⟩
  | register free own =>
      refine ⟨?_, owned.once⟩
      intro tid' i member
      rcases s.gClients.mem_insert.mp member with ⟨rfl, rfl⟩ | ⟨-, old⟩
      · exact own i rfl
      · exact owned.clients tid' i old
  | unregister free =>
      refine ⟨?_, owned.once⟩
      intro tid' i member
      exact owned.clients tid' i (s.gClients.mem_erase.mp member).2
  | wait positive empty => exact ⟨owned.clients, owned.once⟩
  | wake waiting ran => exact ⟨owned.clients, owned.once⟩
  | read ready ran => exact ⟨owned.clients, owned.once⟩

theorem SourceStep.registered (step : SourceStep owner s l t) (i : ι) :
    decide (t.Registered owner i) = l.registered owner i (decide (s.Registered owner i)) := by
  cases step with
  | fill free => rfl
  | visit filling ran => rfl
  | filled filling => rfl
  | @register tid ab free own =>
      rw [Event.registered]
      by_cases mine : tid = owner i
      · rw [if_pos mine, decide_eq_decide, Source.Registered, s.gClients.mem_insert]
        simp [mine, eq_comm]
      · rw [if_neg mine, decide_eq_decide, Source.Registered, s.gClients.mem_insert]
        simp [Ne.symm mine, Source.Registered]
  | @unregister tid free =>
      rw [Event.registered]
      by_cases mine : tid = owner i
      · rw [if_pos mine, decide_eq_false_iff_not, Source.Registered, s.gClients.mem_erase]
        simp [mine]
      · rw [if_neg mine, decide_eq_decide, Source.Registered, s.gClients.mem_erase]
        simp [Ne.symm mine, Source.Registered]
  | wait positive empty => rfl
  | wake waiting ran => rfl
  | read ready ran => rfl

theorem SourceStep.due (step : SourceStep owner s l t) (owned : s.Owned owner) (i : ι) :
    s.due i ++ l.begun (decide (s.Registered owner i)) = visitsOf i [l] ++ t.due i := by
  cases step with
  | @fill data frames free =>
      have nothing : s.due i = [] := by rw [Source.due, free]
      rw [nothing]
      simp only [Event.begun, visitsOf, Source.due, owned.mem_clients, decide_eq_true_eq]
      rfl
  | @visit data frames j left n reply ab filling ran =>
      by_cases same : j = i
      · subst same
        have once := (List.nodup_cons.mp (owned.once _ filling)).1
        simp [Event.begun, visitsOf, Source.due, filling, own_call, Call.filled, once]
      · simp [Event.begun, visitsOf, Source.due, filling, own_other same, Ne.symm same]
  | filled filling => simp [Event.begun, visitsOf, Source.due, filling, Event.own]
  | register free own => simp [Event.begun, visitsOf, Source.due, free, Event.own]
  | unregister free => simp [Event.begun, visitsOf, Source.due, free, Event.own]
  | wait positive empty => simp [Event.begun, visitsOf, Source.due, Event.own]
  | @wake j frames n reply ab waiting ran =>
      by_cases same : j = i
      · subst same
        simp [Event.begun, visitsOf, Source.due, own_call, Call.filled]
      · simp [Event.begun, visitsOf, Source.due, own_other same]
  | @read j frames n reply ab ready ran =>
      by_cases same : j = i
      · subst same
        simp [Event.begun, visitsOf, Source.due, own_call, Call.filled]
      · simp [Event.begun, visitsOf, Source.due, own_other same]

theorem fillsFor_eq (run : (audioSource owner).Run s ls t) (owned : s.Owned owner) (i : ι) :
    s.due i ++ fillsFor owner i (decide (s.Registered owner i)) ls = visitsOf i ls ++ t.due i := by
  induction run with
  | nil => simp [fillsFor, visitsOf]
  | @cons s t u l ls step _ ih =>
      have split : visitsOf i ([l] ++ ls) = visitsOf i [l] ++ visitsOf i ls := List.filterMap_append
      rw [fillsFor, ← List.singleton_append, split, List.append_assoc, ← ih (step.owned owned), ← List.append_assoc,
        ← List.append_assoc, step.due owned i, step.registered i]

end

/-! ## All clients -/

theorem audioSource_lossless (owner : ι → Int) (start s : Source ι) (ls : List (Event ι))
    (init : (audioSource owner).Init start)
    (run : ((audioSource owner).restrict FillsFit).Run start ls s) (i : ι) :
    Lossless (start.buffers i) (ls.filterMap (Event.own i)) (s.buffers i) ∧
      (s.filling = none → visitsOf i ls = fillsFor owner i false ls) := by
  obtain ⟨clients, free, -, buffers⟩ := init
  constructor
  · exact audioBuffer_lossless (buffers i).2 (buffers i).1 (own_run run i)
  · intro idle
    have owned : start.Owned owner := by
      constructor
      · intro tid j member
        rw [clients] at member
        cases member
      · intro filling some_filling
        rw [free] at some_filling
        cases some_filling
    have nobody : decide (start.Registered owner i) = false := by
      rw [decide_eq_false_iff_not, Source.Registered, clients]
      exact List.not_mem_nil
    have reached := fillsFor_eq run.of_restrict owned i
    rw [nobody] at reached
    simpa [Source.due, free, idle] using reached.symm

theorem audioSource_lossless_mono : ∃ (start s : Source Unit) (ls : List (Event Unit)),
    ((audioSource fun _ => 7).restrict FillsFit).Run start ls s ∧
    ls = [.register 7 (some ()), .fill none 3, .call () (.fill none 3) (.filled .accepted 0), .filled,
      .call () (.read 2) (.read 2 [0, 0]), .fill none 3,
      .call () (.fill none 3) (.filled .accepted 1), .filled] ∧
    Lossless (start.buffers ()) (ls.filterMap (Event.own ())) (s.buffers ()) := by
  have fits : (3 : Int) * 1 * 8 < 2147483648 := by decide
  have sized : (⟨0, 4, 1, 8, 4, 0, 0, 0, fun _ => 0⟩ : AudioBuffer).Sized := by
    constructor <;> decide
  have run : ((audioSource fun _ => 7).restrict FillsFit).Run
      (⟨.empty, none, fun _ => ⟨0, 4, 1, 8, 4, 0, 0, 0, fun _ => 0⟩, []⟩ : Source Unit)
      [.register 7 (some ()), .fill none 3, .call () (.fill none 3) (.filled .accepted 0), .filled,
        .call () (.read 2) (.read 2 [0, 0]), .fill none 3,
        .call () (.fill none 3) (.filled .accepted 1), .filled] _ :=
    .cons ⟨trivial, .register rfl (fun _ _ => rfl)⟩
      (.cons ⟨trivial, .fill rfl⟩
      (.cons ⟨fits, .visit (n := 0) rfl rfl⟩
      (.cons ⟨trivial, .filled rfl⟩
      (.cons ⟨trivial, .read (n := 0) (Or.inr (by decide)) rfl⟩
      (.cons ⟨trivial, .fill rfl⟩
      (.cons ⟨fits, .visit (n := 1) rfl rfl⟩
      (.cons ⟨trivial, .filled rfl⟩ (.nil _))))))))
  refine ⟨_, _, _, run, rfl, (audioSource_lossless _ _ _ _ ?_ run ()).1⟩
  exact ⟨rfl, rfl, rfl, fun _ => ⟨⟨some fun _ => 0, 1, 1, 8, rfl⟩, sized⟩⟩

/-- In stereo with 16 bits, 2^30 frames have a `framesize` of 0. -/
theorem not_audioSource_lossless : ¬∀ (start s : Source Unit) (ls : List (Event Unit)),
    (audioSource fun _ => 7).Init start → (audioSource fun _ => 7).Run start ls s →
    Lossless (start.buffers ()) (ls.filterMap (Event.own ())) (s.buffers ()) := by
  intro lossless
  have sized : (⟨0, 4, 2, 16, 16, 0, 0, 0, fun _ => 0⟩ : AudioBuffer).Sized := by
    constructor <;> decide
  have run : (audioSource fun _ => 7).Run
      (⟨.empty, none, fun _ => ⟨0, 4, 2, 16, 16, 0, 0, 0, fun _ => 0⟩, []⟩ : Source Unit)
      [.register 7 (some ()), .fill none 1073741824,
        .call () (.fill none 1073741824) (.filled .accepted 0)] _ :=
    .cons (.register rfl (fun _ _ => rfl))
      (.cons (.fill rfl) (.cons (.visit (n := 0) rfl rfl) (.nil _)))
  have frames := (lossless _ _ _ ?_ run).inStep.frames
  · exact absurd frames (by decide)
  · exact ⟨rfl, rfl, rfl, fun _ => ⟨⟨some fun _ => 0, 1, 2, 16, rfl⟩, sized⟩⟩

end GamingAnywhere.Audio
