import GamingAnywhere.Client.Channels

/-!
# The RTSP session of the player

The callbacks of the RTSP client, all on one thread: each of them runs to its end and sends at most one request,
whose response is the next but for what the streams themselves bring about. `openURL` is called once, so that the
program exits with its only stream.
-/

namespace GamingAnywhere.Client
open Lib

/-! ## The callbacks -/

structure MediaSubsession where
  subsession : Subsession
  initiates : Bool
  opens : Bool

abbrev Entry := MediaSubsession × Nat

inductive RtspRequest
  | describe
  | setup (i : Nat)
  | play
  | teardown
  deriving DecidableEq

/-- `media` is empty where `session` is NULL, `rest` is what `iter` is still to give, `sinks` are the subsessions
whose `sink` is not NULL and `handlers` those with a `BYE` handler; `pending` is the request that the library has
no response for. -/
structure StreamClientState where
  media : List Entry
  rest : List Entry
  subsession : Option Entry
  sinks : List Nat
  handlers : List Nat
  pending : Option RtspRequest
  streamTimerTask : Bool
  channels : Channels
  exitCode : Option Int

structure Effects where
  sent : List RtspRequest
  created : List Nat
  closed : List Nat
  received : List Received

def Effects.nothing : Effects := ⟨[], [], [], []⟩

/-- Where it has found the last one, the session is played. -/
def setupNextSubsession (s : StreamClientState) : List Entry → StreamClientState × Effects
  | [] =>
      ({ s with rest := [], subsession := none, pending := some .play }, { Effects.nothing with sent := [.play] })
  | (sub, i) :: rest =>
      if sub.initiates then
        let setup := setupSubsession s.channels sub.subsession sub.opens
        let s := { s with rest := rest, subsession := some (sub, i), channels := setup.1 }
        let received := [.initiate sub.subsession sub.opens setup.2]
        if setup.1.exited then ({ s with exitCode := some (-1) }, { Effects.nothing with received := received })
        else
          ({ s with pending := some (.setup i) },
            { Effects.nothing with sent := [.setup i], received := received })
      else
        let next := setupNextSubsession { s with channels := { s.channels with subsession := none } } rest
        (next.1, { next.2 with received := .giveUp sub.subsession :: next.2.received })

def shutdownStream (s : StreamClientState) : StreamClientState × Effects :=
  let active := (s.media.map Prod.snd).filter (· ∈ s.sinks)
  ({ s with sinks := [], handlers := s.handlers.filter (· ∉ s.sinks), exitCode := some 1 },
    { Effects.nothing with sent := if active = [] then [] else [.teardown], closed := active })

/-- `none` where there is no description, or none that a session can be made from. -/
def continueAfterDESCRIBE (s : StreamClientState) : Option (List MediaSubsession) → StreamClientState × Effects
  | none => shutdownStream s
  | some subs =>
      let s := { s with media := subs.zipIdx }
      if subs = [] then shutdownStream s else setupNextSubsession s subs.zipIdx

/-- `succeeded` is whether the response was positive and there is a sink. -/
def continueAfterSETUP (s : StreamClientState) (i : Nat) (succeeded : Bool) : StreamClientState × Effects :=
  match succeeded, s.subsession with
  | true, some (sub, _) =>
      let next := setupNextSubsession
        { s with sinks := s.sinks ++ [i], handlers := i :: s.handlers,
                 channels := { s.channels with subsession := none,
                                               sinks := sub.subsession :: s.channels.sinks } } s.rest
      (next.1, { next.2 with created := [i], received := .setUp sub.subsession :: next.2.received })
  | _, _ => setupNextSubsession s s.rest

/-- `timed` is whether the session has a duration. -/
def continueAfterPLAY (s : StreamClientState) (succeeded timed : Bool) : StreamClientState × Effects :=
  if succeeded then ({ s with streamTimerTask := timed }, .nothing) else shutdownStream s

def subsessionAfterPlaying (s : StreamClientState) (i : Nat) : StreamClientState × Effects :=
  let closed := if i ∈ s.sinks then [i] else []
  let s := { s with sinks := s.sinks.erase i }
  if (s.media.map Prod.snd).any (· ∈ s.sinks) then (s, { Effects.nothing with closed := closed })
  else
    let down := shutdownStream s
    (down.1, { down.2 with closed := closed ++ down.2.closed })

/-! ## The session -/

/-- `bye` calls the same function as the end of a source. -/
inductive Callback
  | describe (subs : Option (List MediaSubsession))
  | setup (succeeded : Bool)
  | play (succeeded timed : Bool)
  | frame (sub : Subsession)
  | afterPlaying (i : Nat)
  | bye (i : Nat)
  | timer

/-- A response is to the request that is pending, a source ends only once, and a `BYE` may come at any time. -/
inductive StreamStep : StreamClientState → Callback × Effects → StreamClientState → Prop
  | describe {s : StreamClientState} {subs : Option (List MediaSubsession)} : s.pending = some .describe →
      StreamStep s (.describe subs, (continueAfterDESCRIBE { s with pending := none } subs).2)
        (continueAfterDESCRIBE { s with pending := none } subs).1
  | setup {s : StreamClientState} {i : Nat} {succeeded : Bool} : s.pending = some (.setup i) →
      StreamStep s (.setup succeeded, (continueAfterSETUP { s with pending := none } i succeeded).2)
        (continueAfterSETUP { s with pending := none } i succeeded).1
  | play {s : StreamClientState} {succeeded timed : Bool} : s.pending = some .play →
      StreamStep s (.play succeeded timed, (continueAfterPLAY { s with pending := none } succeeded timed).2)
        (continueAfterPLAY { s with pending := none } succeeded timed).1
  | frame {s : StreamClientState} {i : Nat} {sub : MediaSubsession} : i ∈ s.sinks → (sub, i) ∈ s.media →
      StreamStep s (.frame sub.subsession, { Effects.nothing with
          received := [.frame sub.subsession (afterGettingFrame s.channels sub.subsession).2] })
        { s with channels := (afterGettingFrame s.channels sub.subsession).1 }
  | afterPlaying {s : StreamClientState} {i : Nat} : i ∈ s.sinks →
      StreamStep s (.afterPlaying i, (subsessionAfterPlaying s i).2) (subsessionAfterPlaying s i).1
  | bye {s : StreamClientState} {i : Nat} : i ∈ s.handlers →
      StreamStep s (.bye i, (subsessionAfterPlaying s i).2) (subsessionAfterPlaying s i).1
  | timer {s : StreamClientState} : s.streamTimerTask = true →
      StreamStep s (.timer, (shutdownStream { s with streamTimerTask := false }).2)
        (shutdownStream { s with streamTimerTask := false }).1

def StreamClientState.start : StreamClientState :=
  ⟨[], [], none, [], [], some .describe, false, .start, none⟩

def streaming : System StreamClientState (Callback × Effects) where
  Init s := s = .start
  Step s l t := s.exitCode = none ∧ StreamStep s l t

/-! ## What a callback leads to -/

def initiated (entries : List Entry) : List Nat := (entries.filter (·.1.initiates)).map Prod.snd

theorem initiated_sublist (entries : List Entry) : (initiated entries).Sublist (entries.map Prod.snd) :=
  List.filter_sublist.map _

section
variable {s t : StreamClientState} {sent : List RtspRequest} {created closed : List Nat}

theorem setupNextSubsession_cases (s : StreamClientState) (rest : List Entry) :
    (setupNextSubsession s rest).2.created = [] ∧ (setupNextSubsession s rest).2.closed = [] ∧
    (setupNextSubsession s rest).1.media = s.media ∧ (setupNextSubsession s rest).1.sinks = s.sinks ∧
    (setupNextSubsession s rest).1.handlers = s.handlers ∧
    ((setupNextSubsession s rest).2.sent = [] ∧ (setupNextSubsession s rest).1.exitCode = some (-1) ∨
      (setupNextSubsession s rest).1.exitCode = s.exitCode ∧
        ((∃ i, (setupNextSubsession s rest).2.sent = [.setup i] ∧
            (setupNextSubsession s rest).1.pending = some (.setup i) ∧
            initiated rest = i :: initiated (setupNextSubsession s rest).1.rest) ∨
          (setupNextSubsession s rest).2.sent = [.play] ∧
            (setupNextSubsession s rest).1.pending = some .play ∧ initiated rest = [])) := by
  induction rest generalizing s with
  | nil => exact ⟨rfl, rfl, rfl, rfl, rfl, .inr ⟨rfl, .inr ⟨rfl, rfl, rfl⟩⟩⟩
  | cons entry rest ih =>
      obtain ⟨sub, i⟩ := entry
      rw [setupNextSubsession]
      split
      · next initiates =>
        have first : initiated ((sub, i) :: rest) = i :: initiated rest := by simp [initiated, initiates]
        dsimp only
        split
        · exact ⟨rfl, rfl, rfl, rfl, rfl, .inl ⟨rfl, rfl⟩⟩
        · exact ⟨rfl, rfl, rfl, rfl, rfl, .inr ⟨rfl, .inl ⟨i, rfl, rfl, first⟩⟩⟩
      · next initiates =>
        have first : initiated ((sub, i) :: rest) = initiated rest := by simp [initiated, initiates]
        rw [first]
        exact ih _

/-! ## What has happened -/

/-- After `DESCRIBE`, `SETUP` for the first subsessions, `PLAY` only after all of them, and at last `TEARDOWN` if
`torn`; the sinks belong to subsessions that were set up. -/
def Conversation (media : List Entry) (created : List Nat) (torn : Bool) (sent : List RtspRequest) : Prop :=
  ∃ setups played,
    sent = .describe :: (setups.map .setup ++ ((if played then [.play] else []) ++ if torn then [.teardown] else [])) ∧
    setups <+: initiated media ∧ (played = true → setups = initiated media) ∧ created.Sublist setups

def StreamClientState.Asked (s : StreamClientState) (done : List Nat) (sent : List RtspRequest) : Prop :=
  match s.pending with
  | some .describe => done = [] ∧ sent = [.describe] ∧ s.media = []
  | some (.setup i) =>
      sent = .describe :: (done ++ [i]).map .setup ∧ done ++ i :: initiated s.rest = initiated s.media
  | some .play | none => sent = .describe :: (done.map .setup ++ [.play]) ∧ done = initiated s.media
  | some .teardown => False

structure StreamClientState.Running (s : StreamClientState) (sent : List RtspRequest)
    (created closed done : List Nat) : Prop where
  numbered : (s.media.map Prod.snd).Nodup
  asked : s.Asked done sent
  made : created.Sublist done
  perm : (closed ++ s.sinks).Perm created
  running : s.exitCode = none

structure StreamClientState.Ended (s : StreamClientState) (sent : List RtspRequest)
    (created closed : List Nat) : Prop where
  numbered : (s.media.map Prod.snd).Nodup
  conversation : ∃ torn, Conversation s.media created torn sent
  perm : (closed ++ s.sinks).Perm created
  ended : s.exitCode ≠ none
  all : s.exitCode = some 1 → s.sinks = []

theorem StreamClientState.Running.conversation {done : List Nat} (running : s.Running sent created closed done) :
    Conversation s.media created false sent := by
  have asked := running.asked
  have made := running.made
  unfold StreamClientState.Asked at asked
  rcases pending : s.pending with _ | _ | i | _ | _ <;> rw [pending] at asked
  case some.describe =>
    obtain ⟨rfl, rfl, -⟩ := asked
    exact ⟨[], false, rfl, List.nil_prefix, nofun, made⟩
  case some.setup =>
    obtain ⟨rfl, all⟩ := asked
    refine ⟨done ++ [i], false, by simp, ⟨initiated s.rest, ?_⟩, nofun, made.trans (List.sublist_append_left _ _)⟩
    rw [← all, List.append_assoc]
    rfl
  case some.teardown => exact asked.elim
  case none | some.play =>
    obtain ⟨rfl, all⟩ := asked
    exact ⟨done, true, by simp, all ▸ List.prefix_rfl, fun _ => all, made⟩

theorem StreamClientState.Running.sinks {done : List Nat} (running : s.Running sent created closed done) :
    s.sinks.Nodup ∧ s.sinks ⊆ s.media.map Prod.snd := by
  obtain ⟨setups, played, -, part, -, made⟩ := running.conversation
  have among := (made.trans part.sublist).trans (initiated_sublist s.media)
  have unique := running.perm.nodup_iff.mpr (running.numbered.sublist among)
  refine ⟨(List.nodup_append.mp unique).2.1, fun i member => ?_⟩
  exact among.subset (running.perm.subset (List.mem_append_right _ member))

theorem StreamClientState.Running.asking {done : List Nat} {i : Nat} (running : s.Running sent created closed done)
    (pending : s.pending = some (.setup i)) : i ∈ s.media.map Prod.snd ∧ i ∉ s.sinks := by
  have asked := running.asked
  rw [StreamClientState.Asked, pending] at asked
  have among := initiated_sublist s.media
  have unique := running.numbered.sublist among
  rw [← asked.2] at among unique
  refine ⟨among.subset (List.mem_append_right _ List.mem_cons_self), fun plays => ?_⟩
  have set_up := running.made.subset (running.perm.subset (List.mem_append_right _ plays))
  exact List.disjoint_of_nodup_append unique set_up List.mem_cons_self

theorem filter_perm {ids sinks : List Nat} (numbered : ids.Nodup) (unique : sinks.Nodup) (among : sinks ⊆ ids) :
    (ids.filter (· ∈ sinks)).Perm sinks := by
  refine (List.perm_ext_iff_of_nodup (numbered.filter _) unique).mpr fun i => ?_
  simp only [List.mem_filter, decide_eq_true_eq]
  exact ⟨fun found => found.2, fun member => ⟨among member, member⟩⟩

theorem shutdownStream_ended (conversation : Conversation s.media created false sent)
    (numbered : (s.media.map Prod.snd).Nodup) (unique : s.sinks.Nodup) (among : s.sinks ⊆ s.media.map Prod.snd)
    (perm : (closed ++ s.sinks).Perm created) :
    (shutdownStream s).1.Ended (sent ++ (shutdownStream s).2.sent) created
      (closed ++ (shutdownStream s).2.closed) ∧
      (RtspRequest.teardown ∈ (shutdownStream s).2.sent ↔ s.sinks ≠ []) := by
  have active := filter_perm numbered unique among
  have none_active : (s.media.map Prod.snd).filter (· ∈ s.sinks) = [] ↔ s.sinks = [] := by
    constructor
    · intro empty
      rw [empty] at active
      exact List.nil_perm.mp active
    · intro empty
      rw [empty] at active
      exact List.perm_nil.mp (by rwa [empty])
  have all : (closed ++ (shutdownStream s).2.closed).Perm created := (active.append_left closed).trans perm
  obtain ⟨setups, played, rfl, part, whole, made⟩ := conversation
  by_cases empty : s.sinks = []
  · have nothing : (shutdownStream s).2.sent = [] := if_pos (none_active.mpr empty)
    rw [nothing]
    refine ⟨⟨numbered, ⟨false, setups, played, by simp, part, whole, made⟩, ?_, nofun, fun _ => rfl⟩, by simp [empty]⟩
    exact (List.append_nil _).symm ▸ all
  · have torn : (shutdownStream s).2.sent = [.teardown] := if_neg fun none => empty (none_active.mp none)
    rw [torn]
    refine ⟨⟨numbered, ⟨true, setups, played, by simp, part, whole, made⟩, ?_, nofun, fun _ => rfl⟩, by simp [empty]⟩
    exact (List.append_nil _).symm ▸ all

def StreamClientState.Kept (s : StreamClientState) (sent : List RtspRequest) (created closed : List Nat) : Prop :=
  (∃ done, s.Running sent created closed done) ∨ s.Ended sent created closed

theorem setupNextSubsession_kept (done : List Nat) {rest : List Entry} (numbered : (s.media.map Prod.snd).Nodup)
    (all : done ++ initiated rest = initiated s.media) (made : created.Sublist done)
    (perm : (closed ++ s.sinks).Perm created) (running : s.exitCode = none) :
    (setupNextSubsession s rest).1.Kept (.describe :: done.map .setup ++ (setupNextSubsession s rest).2.sent) created
      closed ∧ RtspRequest.teardown ∉ (setupNextSubsession s rest).2.sent := by
  obtain ⟨-, -, media, sinks, -, cases⟩ := setupNextSubsession_cases s rest
  rw [← media] at numbered all
  rw [← sinks] at perm
  rcases cases with ⟨nothing, exited⟩ | ⟨same, ⟨i, asks, pending, next⟩ | ⟨asks, pending, last⟩⟩
  · rw [nothing]
    refine ⟨.inr ⟨numbered, ⟨false, done, false, rfl, ⟨_, all⟩, nofun, made⟩, perm, ?_, ?_⟩, List.not_mem_nil⟩
    · rw [exited]
      exact Option.some_ne_none _
    · rw [exited]
      nofun
  · rw [asks]
    refine ⟨.inl ⟨done, numbered, ?_, made, perm, same.trans running⟩, by simp⟩
    rw [next] at all
    rw [StreamClientState.Asked, pending]
    exact ⟨by simp, all⟩
  · rw [asks]
    refine ⟨.inl ⟨done, numbered, ?_, made, perm, same.trans running⟩, by simp⟩
    rw [last, List.append_nil] at all
    rw [StreamClientState.Asked, pending]
    exact ⟨rfl, all⟩

theorem StreamClientState.Running.afterPlaying {done : List Nat} (running : s.Running sent created closed done)
    (i : Nat) :
    (subsessionAfterPlaying s i).1.Kept (sent ++ (subsessionAfterPlaying s i).2.sent) created
      (closed ++ (subsessionAfterPlaying s i).2.closed) ∧
      (subsessionAfterPlaying s i).2.created = [] ∧
      RtspRequest.teardown ∉ (subsessionAfterPlaying s i).2.sent := by
  obtain ⟨unique, among⟩ := running.sinks
  have perm : (closed ++ (if i ∈ s.sinks then [i] else []) ++ s.sinks.erase i).Perm created := by
    refine List.Perm.trans ?_ running.perm
    rw [List.append_assoc]
    refine List.Perm.append_left closed ?_
    split_ifs with member
    · exact (List.perm_cons_erase member).symm
    · rw [List.erase_of_not_mem member]
      exact .refl _
  unfold subsessionAfterPlaying
  dsimp only
  generalize (if i ∈ s.sinks then [i] else []) = gone at perm ⊢
  split_ifs with active
  · refine ⟨.inl ⟨done, running.numbered, ?_, running.made, perm, running.running⟩, rfl, List.not_mem_nil⟩
    exact (List.append_nil sent).symm ▸ running.asked
  · obtain ⟨ended, torn⟩ := shutdownStream_ended (s := { s with sinks := s.sinks.erase i }) running.conversation
      running.numbered (unique.erase i) (List.Subset.trans List.erase_subset among) perm
    have silent : s.sinks.erase i = [] := by
      refine List.eq_nil_iff_forall_not_mem.mpr fun j member => active ?_
      exact List.any_eq_true.mpr ⟨j, among (List.mem_of_mem_erase member), decide_eq_true member⟩
    rw [List.append_assoc] at ended
    exact ⟨.inr ended, rfl, fun sends => torn.mp sends silent⟩

theorem StreamClientState.Running.shutdown {done : List Nat} (running : s.Running sent created closed done)
    (after : t = { s with pending := t.pending, streamTimerTask := t.streamTimerTask }) :
    (shutdownStream t).1.Ended (sent ++ (shutdownStream t).2.sent) created
      (closed ++ (shutdownStream t).2.closed) ∧
      (RtspRequest.teardown ∈ (shutdownStream t).2.sent ↔ s.sinks ≠ []) := by
  obtain ⟨unique, among⟩ := running.sinks
  have conversation := running.conversation
  have numbered := running.numbered
  have perm := running.perm
  have media : t.media = s.media := by rw [after]
  have sinks : t.sinks = s.sinks := by rw [after]
  rw [← media] at conversation numbered among
  rw [← sinks] at unique among perm ⊢
  exact shutdownStream_ended conversation numbered unique among perm

def Tears (s : StreamClientState) (c : Callback) : Prop :=
  s.sinks ≠ [] ∧ (c = .timer ∨ ∃ timed, c = .play false timed)

theorem continueAfterDESCRIBE_kept (subs : Option (List MediaSubsession)) (empty : s.media = [])
    (sinks : s.sinks = []) (going : s.exitCode = none) :
    (continueAfterDESCRIBE s subs).1.Kept (.describe :: (continueAfterDESCRIBE s subs).2.sent)
      (continueAfterDESCRIBE s subs).2.created (continueAfterDESCRIBE s subs).2.closed ∧
      RtspRequest.teardown ∉ (continueAfterDESCRIBE s subs).2.sent := by
  have nobody (media : List Entry) : Conversation media [] false [.describe] :=
    ⟨[], false, rfl, List.nil_prefix, nofun, .refl []⟩
  have shut {t : StreamClientState} (numbered : (t.media.map Prod.snd).Nodup) (none : t.sinks = []) :
      (shutdownStream t).1.Kept (.describe :: (shutdownStream t).2.sent) [] (shutdownStream t).2.closed ∧
        RtspRequest.teardown ∉ (shutdownStream t).2.sent := by
    have nothing : ([] ++ t.sinks).Perm [] := by rw [none]; exact .refl []
    obtain ⟨ended, torn⟩ := shutdownStream_ended (nobody t.media) numbered
      (by rw [none]; exact List.nodup_nil) (by rw [none]; exact List.nil_subset _) nothing
    exact ⟨.inr ended, fun sends => torn.mp sends none⟩
  cases subs with
  | none => exact shut (by rw [empty]; exact List.nodup_nil) sinks
  | some subs =>
      have numbered : (subs.zipIdx.map Prod.snd).Nodup := by
        rw [List.zipIdx_map_snd]
        exact List.nodup_range'
      unfold continueAfterDESCRIBE
      dsimp only
      split_ifs with nothing
      · exact shut numbered sinks
      · obtain ⟨created, closed, -⟩ := setupNextSubsession_cases { s with media := subs.zipIdx } subs.zipIdx
        rw [created, closed]
        exact setupNextSubsession_kept (s := { s with media := subs.zipIdx }) [] numbered rfl (.refl [])
          (by rw [sinks]; exact .refl []) going

theorem continueAfterSETUP_kept {done : List Nat} {i : Nat} (succeeded : Bool)
    (numbered : (s.media.map Prod.snd).Nodup) (all : done ++ i :: initiated s.rest = initiated s.media)
    (made : created.Sublist done) (perm : (closed ++ s.sinks).Perm created) (going : s.exitCode = none) :
    (continueAfterSETUP s i succeeded).1.Kept
      (.describe :: (done ++ [i]).map .setup ++ (continueAfterSETUP s i succeeded).2.sent)
      (created ++ (continueAfterSETUP s i succeeded).2.created)
      (closed ++ (continueAfterSETUP s i succeeded).2.closed) ∧
      RtspRequest.teardown ∉ (continueAfterSETUP s i succeeded).2.sent := by
  have next : (done ++ [i]) ++ initiated s.rest = initiated s.media := by rw [← all, List.append_assoc]; rfl
  unfold continueAfterSETUP
  split
  · next sub k found =>
    obtain ⟨-, unclosed, -⟩ := setupNextSubsession_cases { s with
      sinks := s.sinks ++ [i], handlers := i :: s.handlers,
      channels := { s.channels with subsession := none, sinks := sub.subsession :: s.channels.sinks } } s.rest
    dsimp only
    rw [unclosed, List.append_nil]
    refine setupNextSubsession_kept (s := { s with
      sinks := s.sinks ++ [i], handlers := i :: s.handlers,
      channels := { s.channels with subsession := none, sinks := sub.subsession :: s.channels.sinks } })
      (done ++ [i]) numbered next (made.append (.refl [i])) ?_ going
    rw [← List.append_assoc]
    exact perm.append_right [i]
  · obtain ⟨uncreated, unclosed, -⟩ := setupNextSubsession_cases s s.rest
    rw [uncreated, unclosed, List.append_nil, List.append_nil]
    exact setupNextSubsession_kept _ numbered next (made.trans (List.sublist_append_left _ _)) perm going

theorem StreamStep.kept {done : List Nat} {l : Callback × Effects} (running : s.Running sent created closed done)
    (step : StreamStep s l t) :
    t.Kept (sent ++ l.2.sent) (created ++ l.2.created) (closed ++ l.2.closed) ∧
      (RtspRequest.teardown ∈ l.2.sent ↔ Tears s l.1) := by
  have asked := running.asked
  unfold StreamClientState.Asked at asked
  cases step with
  | @describe subs pending =>
      rw [pending] at asked
      obtain ⟨rfl, rfl, empty⟩ := asked
      obtain rfl := List.sublist_nil.mp running.made
      obtain ⟨rfl, sinks⟩ := List.append_eq_nil_iff.mp (List.perm_nil.mp running.perm)
      obtain ⟨kept, quiet⟩ := continueAfterDESCRIBE_kept (s := { s with pending := none }) subs empty
        sinks running.running
      exact ⟨kept, iff_of_false quiet fun tears => by simp [Tears] at tears⟩
  | @setup i succeeded pending =>
      rw [pending] at asked
      obtain ⟨rfl, all⟩ := asked
      obtain ⟨kept, quiet⟩ := continueAfterSETUP_kept (s := { s with pending := none }) succeeded running.numbered
        all running.made running.perm running.running
      exact ⟨kept, iff_of_false quiet fun tears => by simp [Tears] at tears⟩
  | @play succeeded timed pending =>
      rw [pending] at asked
      cases succeeded with
      | true =>
          refine ⟨.inl ⟨done, running.numbered, ?_, ?_, ?_, running.running⟩, ?_⟩
          · exact (List.append_nil sent).symm ▸ asked
          · exact (List.append_nil created).symm ▸ running.made
          · exact (List.append_nil closed).symm ▸ (List.append_nil created).symm ▸ running.perm
          · exact iff_of_false List.not_mem_nil fun tears => by simp [Tears] at tears
      | false =>
          obtain ⟨ended, torn⟩ := running.shutdown (t := { s with pending := none }) rfl
          exact ⟨.inr ((List.append_nil created).symm ▸ ended), torn.trans (by simp [Tears])⟩
  | frame playing member =>
      refine ⟨.inl ⟨done, running.numbered, ?_, ?_, ?_, running.running⟩, ?_⟩
      · exact (List.append_nil sent).symm ▸ running.asked
      · exact (List.append_nil created).symm ▸ running.made
      · exact (List.append_nil closed).symm ▸ (List.append_nil created).symm ▸ running.perm
      · exact iff_of_false List.not_mem_nil fun tears => by simp [Tears] at tears
  | @afterPlaying i playing | @bye i handled =>
      obtain ⟨kept, nothing, quiet⟩ := running.afterPlaying i
      rw [nothing, List.append_nil]
      exact ⟨kept, iff_of_false quiet fun tears => by simp [Tears] at tears⟩
  | timer timed =>
      obtain ⟨ended, torn⟩ := running.shutdown (t := { s with streamTimerTask := false }) rfl
      exact ⟨.inr ((List.append_nil created).symm ▸ ended), torn.trans (by simp [Tears])⟩

/-! ## What a callback asks for -/

def responds : Callback → Bool
  | .describe _ | .setup _ | .play _ _ => true
  | .frame _ | .afterPlaying _ | .bye _ | .timer => false

inductive Asks (s : StreamClientState) : Callback → StreamClientState → List RtspRequest → Prop
  | quiet {c : Callback} {t : StreamClientState} : responds c = false → t.pending = s.pending → Asks s c t []
  | plays {timed : Bool} {t : StreamClientState} : t.pending = none → Asks s (.play true timed) t []
  | next {c : Callback} {t : StreamClientState} {q : RtspRequest} : responds c = true →
      (∀ succeeded timed, c ≠ .play succeeded timed) → t.exitCode = s.exitCode → t.pending = some q →
      q ≠ .teardown → Asks s c t [q]
  | exits {c : Callback} {t : StreamClientState} : t.exitCode ≠ none → Asks s c t []
  | tears {c : Callback} {t : StreamClientState} : s.sinks ≠ [] → t.exitCode ≠ none → Asks s c t [.teardown]

theorem shutdownStream_asks (same : t.sinks = s.sinks) (c : Callback) :
    Asks s c (shutdownStream t).1 (shutdownStream t).2.sent := by
  have exited : (shutdownStream t).1.exitCode ≠ none := Option.some_ne_none 1
  by_cases silent : (t.media.map Prod.snd).filter (· ∈ t.sinks) = []
  · have nothing : (shutdownStream t).2.sent = [] := if_pos silent
    rw [nothing]
    exact .exits exited
  · have torn : (shutdownStream t).2.sent = [.teardown] := if_neg silent
    rw [torn]
    refine .tears (fun none => silent ?_) exited
    exact List.filter_eq_nil_iff.mpr fun i _ => by simp [same, none]

theorem setupNextSubsession_asks {c : Callback} (responding : responds c = true)
    (other : ∀ succeeded timed, c ≠ .play succeeded timed) (same : t.exitCode = s.exitCode) (rest : List Entry) :
    Asks s c (setupNextSubsession t rest).1 (setupNextSubsession t rest).2.sent := by
  obtain ⟨-, -, -, -, -, ⟨nothing, exited⟩ | ⟨going, ⟨i, asks, pending, -⟩ | ⟨asks, pending, -⟩⟩⟩ :=
    setupNextSubsession_cases t rest
  · rw [nothing]
    exact .exits (by rw [exited]; nofun)
  · rw [asks]
    exact .next responding other (going.trans same) pending nofun
  · rw [asks]
    exact .next responding other (going.trans same) pending nofun

theorem subsessionAfterPlaying_asks {c : Callback} (quiet : responds c = false) (i : Nat) :
    Asks s c (subsessionAfterPlaying s i).1 (subsessionAfterPlaying s i).2.sent := by
  unfold subsessionAfterPlaying
  dsimp only
  generalize (if i ∈ s.sinks then [i] else []) = gone
  split_ifs with active
  · exact .quiet quiet rfl
  · have silent : (s.media.map Prod.snd).filter (· ∈ s.sinks.erase i) = [] :=
      List.filter_eq_nil_iff.mpr fun j member left => active (List.any_eq_true.mpr ⟨j, member, left⟩)
    have nothing : (shutdownStream { s with sinks := s.sinks.erase i }).2.sent = [] := if_pos silent
    dsimp only
    rw [nothing]
    exact .exits (Option.some_ne_none 1)

theorem StreamStep.asks {l : Callback × Effects} (step : StreamStep s l t) : Asks s l.1 t l.2.sent := by
  cases step with
  | @describe subs pending =>
      cases subs with
      | none => exact shutdownStream_asks (s := s) (t := { s with pending := none }) rfl (.describe none)
      | some subs =>
          dsimp only
          unfold continueAfterDESCRIBE
          dsimp only
          split_ifs
          · exact shutdownStream_asks (s := s) (t := { s with pending := none, media := subs.zipIdx }) rfl _
          · exact setupNextSubsession_asks (s := s) (c := .describe (some subs)) rfl nofun (by rfl) _
  | @setup i succeeded pending =>
      dsimp only
      unfold continueAfterSETUP
      split
      · exact setupNextSubsession_asks (s := s) (c := .setup true) rfl nofun (by rfl) _
      · exact setupNextSubsession_asks (s := s) (c := .setup _) rfl nofun (by rfl) _
  | @play succeeded timed pending =>
      cases succeeded with
      | true => exact .plays rfl
      | false => exact shutdownStream_asks (s := s) (t := { s with pending := none }) rfl (.play false timed)
  | frame playing member => exact .quiet rfl rfl
  | @afterPlaying i playing => exact subsessionAfterPlaying_asks (c := .afterPlaying i) rfl i
  | @bye i handled => exact subsessionAfterPlaying_asks (c := .bye i) rfl i
  | timer timed => exact shutdownStream_asks (s := s) (t := { s with streamTimerTask := false }) rfl .timer

structure Extends (s : StreamClientState) (c : Callback) (t : StreamClientState) : Prop where
  media : t.media = s.media ∨ ∃ subs, c = .describe (some subs) ∧ t.media = subs.zipIdx
  sinks : ∀ i ∈ t.sinks, i ∈ s.sinks ∨ c = .setup true ∧ s.pending = some (.setup i)

theorem StreamStep.extends {l : Callback × Effects} (step : StreamStep s l t) : Extends s l.1 t := by
  cases step with
  | @describe subs pending =>
      cases subs with
      | none => exact ⟨.inl rfl, nofun⟩
      | some subs =>
          dsimp only
          unfold continueAfterDESCRIBE
          dsimp only
          split_ifs
          · exact ⟨.inr ⟨subs, rfl, rfl⟩, nofun⟩
          · obtain ⟨-, -, media, sinks, -⟩ :=
              setupNextSubsession_cases { s with pending := none, media := subs.zipIdx } subs.zipIdx
            exact ⟨.inr ⟨subs, rfl, media⟩, fun i member => .inl (sinks ▸ member)⟩
  | @setup i succeeded pending =>
      dsimp only
      unfold continueAfterSETUP
      split
      · next sub k found =>
        obtain ⟨-, -, media, sinks, -⟩ := setupNextSubsession_cases { s with
          sinks := s.sinks ++ [i], handlers := i :: s.handlers, pending := none,
          channels := { s.channels with subsession := none, sinks := sub.subsession :: s.channels.sinks } } s.rest
        refine ⟨.inl media, fun j member => ?_⟩
        dsimp only at member
        rw [sinks] at member
        rcases List.mem_append.mp member with before | now
        · exact .inl before
        · exact .inr ⟨rfl, List.mem_singleton.mp now ▸ pending⟩
      · obtain ⟨-, -, media, sinks, -⟩ := setupNextSubsession_cases { s with pending := none } s.rest
        exact ⟨.inl media, fun j member => .inl (sinks ▸ member)⟩
  | @play succeeded timed pending =>
      cases succeeded with
      | true => exact ⟨.inl rfl, fun _ => .inl⟩
      | false => exact ⟨.inl rfl, nofun⟩
  | frame playing member => exact ⟨.inl rfl, fun _ => .inl⟩
  | @afterPlaying i playing | @bye i handled =>
      dsimp only
      unfold subsessionAfterPlaying
      dsimp only
      generalize (if i ∈ s.sinks then [i] else []) = gone
      split_ifs with active
      · exact ⟨.inl rfl, fun j member => .inl (List.mem_of_mem_erase member)⟩
      · exact ⟨.inl rfl, nofun⟩
  | timer timed => exact ⟨.inl rfl, nofun⟩

/-! ## The channels of the session -/

structure StreamClientState.Tuned (s : StreamClientState) : Prop where
  going : s.exitCode = none → s.channels.exited = false
  numbered : (s.media.map Prod.snd).Nodup
  rest : ∀ entry ∈ s.rest, entry ∈ s.media
  asked : ∀ i, s.pending = some (.setup i) → ∃ sub, s.subsession = some (sub, i) ∧ (sub, i) ∈ s.media ∧
    s.channels.subsession = some sub.subsession
  playing : ∀ i ∈ s.sinks, ∀ sub, (sub, i) ∈ s.media → sub.subsession ∈ s.channels.sinks
  fresh : s.pending = some .describe → s.sinks = [] ∧ s.rest = []

theorem setupSubsession_kept (c : Channels) (sub : Subsession) (opens : Bool) :
    (setupSubsession c sub opens).1.sinks = c.sinks ∧
      (setupSubsession c sub opens).1.subsession = some sub := by
  unfold setupSubsession setupVideo
  dsimp only
  repeat' split
  all_goals exact ⟨rfl, rfl⟩

theorem setupNextSubsession_tuned (tuned : s.Tuned) (pending : s.pending = none) (going : s.exitCode = none)
    {rest : List Entry} (part : ∀ entry ∈ rest, entry ∈ s.media) :
    receiving.Run s.channels (setupNextSubsession s rest).2.received (setupNextSubsession s rest).1.channels ∧
      (setupNextSubsession s rest).1.Tuned := by
  have running := tuned.going going
  induction rest generalizing s with
  | nil => exact ⟨.nil _, tuned.going, tuned.numbered, nofun, nofun, tuned.playing, nofun⟩
  | cons entry rest ih =>
      obtain ⟨sub, i⟩ := entry
      obtain ⟨here, later⟩ := List.forall_mem_cons.mp part
      obtain ⟨sinks, subsession⟩ := setupSubsession_kept s.channels sub.subsession sub.opens
      have playing := tuned.playing
      rw [← sinks] at playing
      rw [setupNextSubsession]
      split
      · dsimp only
        have step : receiving.Run s.channels _ (setupSubsession s.channels sub.subsession sub.opens).1 :=
          .cons (.initiate running) (.nil _)
        split
        · exact ⟨step, nofun, tuned.numbered, later, by rw [pending]; nofun, playing, by rw [pending]; nofun⟩
        · next open' =>
          refine ⟨step, fun _ => Bool.not_eq_true _ ▸ open', tuned.numbered, later, ?_, playing, nofun⟩
          intro j same
          cases same
          exact ⟨sub, rfl, here, subsession⟩
      · have after : StreamClientState.Tuned { s with channels := { s.channels with subsession := none } } :=
          ⟨fun _ => running, tuned.numbered, tuned.rest, by rw [pending]; nofun, tuned.playing,
            by rw [pending]; nofun⟩
        obtain ⟨run, kept⟩ := ih after pending going later running
        exact ⟨.cons (.giveUp running) run, kept⟩

theorem StreamClientState.Tuned.shutdown (tuned : s.Tuned) :
    receiving.Run s.channels (shutdownStream s).2.received (shutdownStream s).1.channels ∧
      (shutdownStream s).1.Tuned :=
  ⟨.nil _, nofun, tuned.numbered, tuned.rest, tuned.asked, nofun, fun asks => ⟨rfl, (tuned.fresh asks).2⟩⟩

theorem StreamClientState.Tuned.afterPlaying (tuned : s.Tuned) (i : Nat) :
    receiving.Run s.channels (subsessionAfterPlaying s i).2.received (subsessionAfterPlaying s i).1.channels ∧
      (subsessionAfterPlaying s i).1.Tuned := by
  have erased : StreamClientState.Tuned { s with sinks := s.sinks.erase i } :=
    ⟨tuned.going, tuned.numbered, tuned.rest, tuned.asked,
      fun j member => tuned.playing j (List.mem_of_mem_erase member),
      fun asks => ⟨by rw [(tuned.fresh asks).1]; rfl, (tuned.fresh asks).2⟩⟩
  unfold subsessionAfterPlaying
  dsimp only
  generalize (if i ∈ s.sinks then [i] else []) = gone
  split_ifs
  · exact ⟨.nil _, erased⟩
  · exact erased.shutdown

theorem afterGettingFrame_kept (c : Channels) (sub : Subsession) :
    (afterGettingFrame c sub).1.sinks = c.sinks ∧ (afterGettingFrame c sub).1.subsession = c.subsession ∧
      (afterGettingFrame c sub).1.exited = c.exited := by
  unfold afterGettingFrame Channels.channelOf
  repeat' split
  all_goals exact ⟨rfl, rfl, rfl⟩

theorem StreamStep.tuned {l : Callback × Effects} (tuned : s.Tuned) (going : s.exitCode = none)
    (step : StreamStep s l t) : receiving.Run s.channels l.2.received t.channels ∧ t.Tuned := by
  have unasked : StreamClientState.Tuned { s with pending := none } :=
    ⟨tuned.going, tuned.numbered, tuned.rest, nofun, tuned.playing, nofun⟩
  cases step with
  | @describe subs pending =>
      cases subs with
      | none => exact unasked.shutdown
      | some subs =>
          have numbered : (subs.zipIdx.map Prod.snd).Nodup := by
            rw [List.zipIdx_map_snd]
            exact List.nodup_range'
          obtain ⟨sinks, rest⟩ := tuned.fresh pending
          have described : StreamClientState.Tuned { s with pending := none, media := subs.zipIdx } :=
            ⟨tuned.going, numbered, by rw [rest]; nofun, nofun, by rw [sinks]; nofun, nofun⟩
          unfold continueAfterDESCRIBE
          dsimp only
          split_ifs
          · exact described.shutdown
          · exact setupNextSubsession_tuned described rfl going fun _ => id
  | @setup i succeeded pending =>
      obtain ⟨sub, here, member, known⟩ := tuned.asked i pending
      obtain ⟨media, rest, subsession, sinks, handlers, awaited, timer, channels, exitCode⟩ := s
      obtain rfl : subsession = some (sub, i) := here
      cases succeeded with
      | false => exact setupNextSubsession_tuned unasked rfl going tuned.rest
      | true =>
          have playing : StreamClientState.Tuned ⟨media, rest, some (sub, i), sinks ++ [i], i :: handlers, none, timer,
              { channels with subsession := none, sinks := sub.subsession :: channels.sinks }, exitCode⟩ := by
            refine ⟨tuned.going, tuned.numbered, tuned.rest, nofun, ?_, nofun⟩
            intro j plays other found
            rcases List.mem_append.mp plays with before | now
            · exact List.mem_cons_of_mem _ (tuned.playing j before other found)
            · obtain rfl := List.mem_singleton.mp now
              have same : (other, j) = (sub, j) := List.inj_on_of_nodup_map tuned.numbered found member rfl
              cases same
              exact List.mem_cons_self
          obtain ⟨run, kept⟩ := setupNextSubsession_tuned playing rfl going tuned.rest
          exact ⟨.cons (.setUp (tuned.going going) known) run, kept⟩
  | @play succeeded timed pending =>
      cases succeeded with
      | true => exact ⟨.nil _, tuned.going, tuned.numbered, tuned.rest, nofun, tuned.playing, nofun⟩
      | false => exact unasked.shutdown
  | @frame i sub playing member =>
      obtain ⟨sinks, subsession, exited⟩ := afterGettingFrame_kept s.channels sub.subsession
      have step : receiving.Run s.channels _ (afterGettingFrame s.channels sub.subsession).1 :=
        .cons (.frame (tuned.going going) (tuned.playing i playing sub member)) (.nil _)
      refine ⟨step, ?_, tuned.numbered, tuned.rest, ?_, ?_, tuned.fresh⟩
      · exact fun going => exited.trans (tuned.going going)
      · exact fun j asks => subsession ▸ tuned.asked j asks
      · exact sinks ▸ tuned.playing
  | @afterPlaying i playing | @bye i handled => exact tuned.afterPlaying i
  | timer timed =>
      exact StreamClientState.Tuned.shutdown (s := { s with streamTimerTask := false })
        ⟨tuned.going, tuned.numbered, tuned.rest, tuned.asked, tuned.playing, tuned.fresh⟩

/-! ## Whole sessions -/

def requests (ls : List (Callback × Effects)) : List RtspRequest := .describe :: ls.flatMap (·.2.sent)

structure StreamClientState.Orderly (s : StreamClientState) (ls : List (Callback × Effects))
    (step : Callback × Effects → StreamClientState → Prop) : Prop where
  conversation : ∃ torn, Conversation s.media (ls.flatMap (·.2.created)) torn (requests ls)
  once : (s.media.map Prod.snd).Nodup
  sinks : (ls.flatMap (·.2.closed) ++ s.sinks).Perm (ls.flatMap (·.2.created))
  closed : s.exitCode = some 1 → s.sinks = []
  tears : ∀ l t, step l t → (RtspRequest.teardown ∈ l.2.sent ↔ Tears s l.1)
  channels : receiving.Run .start (ls.flatMap (·.2.received)) s.channels

/-- In every session `DESCRIBE` comes first, then `SETUP` for the subsessions in their order, each once, `PLAY` only
when all have been asked for, and `TEARDOWN` at the end if there is something to tear down; each sink that was made
is closed once; and the channels see a sequence of subsessions and frames as they expect it. -/
theorem streaming_orderly (s : StreamClientState) (ls : List (Callback × Effects))
    (run : streaming.Run .start ls s) : s.Orderly ls (streaming.Step s) := by
  have step (ls : List (Callback × Effects)) (s : StreamClientState) (l : Callback × Effects)
      (t : StreamClientState)
      (before : (s.Kept (requests ls) (ls.flatMap (·.2.created)) (ls.flatMap (·.2.closed)) ∧ s.Tuned) ∧
        receiving.Run .start (ls.flatMap (·.2.received)) s.channels)
      (taken : streaming.Step s l t) :
      (t.Kept (requests (ls ++ [l])) ((ls ++ [l]).flatMap (·.2.created)) ((ls ++ [l]).flatMap (·.2.closed)) ∧
        t.Tuned) ∧ receiving.Run .start ((ls ++ [l]).flatMap (·.2.received)) t.channels := by
    obtain ⟨⟨kept, tuned⟩, heard⟩ := before
    obtain ⟨going, taken⟩ := taken
    obtain ⟨done, running⟩ := kept.resolve_right fun ended => ended.ended going
    obtain ⟨more, after⟩ := taken.tuned tuned going
    have kept := (taken.kept running).1
    simp only [requests, List.flatMap_append, List.flatMap_singleton] at kept ⊢
    exact ⟨⟨kept, after⟩, heard.append more⟩
  have start : StreamClientState.start.Running [.describe] [] [] [] :=
    ⟨List.nodup_nil, ⟨rfl, rfl, rfl⟩, .refl [], .refl [], rfl⟩
  have tuned : StreamClientState.start.Tuned := ⟨fun _ => rfl, List.nodup_nil, nofun, nofun, nofun, fun _ => ⟨rfl, rfl⟩⟩
  obtain ⟨⟨kept, -⟩, heard⟩ := run.history step [] ⟨⟨.inl ⟨[], start⟩, tuned⟩, .nil _⟩
  rw [List.nil_append] at kept heard
  rcases kept with ⟨done, running⟩ | ended
  · refine ⟨⟨false, running.conversation⟩, running.numbered, running.perm, fun exited => ?_,
      fun l t taken => (taken.2.kept running).2, heard⟩
    rw [running.running] at exited
    cases exited
  · exact ⟨ended.conversation, ended.numbered, ended.perm, ended.all,
      fun l t taken => absurd taken.1 ended.ended, heard⟩

end
def videoSubsession : MediaSubsession := ⟨⟨.video, 5000, 96⟩, true, true⟩

def oneVideo : List Callback := [.describe (some [videoSubsession]), .setup true, .play true false, .bye 0]

theorem streaming_orderly_video : ∃ s ls, streaming.Run .start ls s ∧ ls.map Prod.fst = oneVideo ∧
    s.Orderly ls (streaming.Step s) := by
  have run : ∃ s ls, streaming.Run .start ls s ∧ ls.map Prod.fst = oneVideo := by
    refine ⟨_, _, .cons ⟨rfl, .describe rfl⟩ (.cons ⟨rfl, .setup (i := 0) rfl⟩ (.cons ⟨rfl, .play rfl⟩ (.cons
      ⟨rfl, .bye (by decide)⟩ (.nil _)))), rfl⟩
  obtain ⟨s, ls, run, same⟩ := run
  exact ⟨s, ls, run, same, streaming_orderly s ls run⟩

end GamingAnywhere.Client
