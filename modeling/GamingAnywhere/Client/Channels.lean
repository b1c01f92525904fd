import GamingAnywhere.Lib.OrderedMap
import GamingAnywhere.Lib.Transition
import Mathlib.Order.Fin.Basic

namespace GamingAnywhere.Client
open Lib

def imageSourceChannelMax : Nat := 8

inductive Medium
  | video
  | audio
  | other
  deriving DecidableEq

structure Subsession where
  medium : Medium
  clientPortNum : Fin 65536
  rtpPayloadFormat : Fin 256

structure Channels where
  port2channel : OrderedMap (Fin 65536) Nat
  videoSessFmt : Int
  audioSessFmt : Int
  /-- The channels that `init_vdecoder` has stored a decoder for. -/
  vdecoder : List Nat
  adecoder : Bool
  /-- The subsession that `SETUP` is sent for. -/
  subsession : Option Subsession
  /-- The subsessions that a sink plays. -/
  sinks : List Subsession
  /-- The number of video subsessions that have been initiated. -/
  videos : Nat
  exited : Bool

namespace Channels

def start : Channels := ⟨.empty, -1, -1, [], false, none, [], 0, false⟩

/-- `port2channel[port]`, which makes an entry for a port that there is none for. -/
def channelOf (s : Channels) (port : Fin 65536) : Channels × Nat :=
  match s.port2channel.find port with
  | some channel => (s, channel)
  | none => ({ s with port2channel := s.port2channel.insert port 0 }, 0)

end Channels

/-- The channel that the decoder is stored for; `opens` is whether the codec can be opened. -/
def initVdecoder (channel : Nat) (opens : Bool) : Option Nat :=
  if imageSourceChannelMax < channel then none else if opens then some channel else none

def setupVideo (s : Channels) (sub : Subsession) (opens : Bool) : Channels × List Nat :=
  let s := { s with videoSessFmt := sub.rtpPayloadFormat, videos := s.videos + 1 }
  match s.port2channel.find sub.clientPortNum with
  | some _ => (s, [])
  | none =>
      let cid := s.port2channel.entries.length
      let s := { s with port2channel := s.port2channel.insert sub.clientPortNum cid }
      match initVdecoder cid opens with
      | none => ({ s with exited := true }, [])
      | some channel => ({ s with vdecoder := channel :: s.vdecoder }, [channel])

def setupSubsession (s : Channels) (sub : Subsession) (opens : Bool) : Channels × List Nat :=
  let s := { s with subsession := some sub }
  match sub.medium with
  | .video => setupVideo s sub opens
  | .audio =>
      let adecoder := s.adecoder || opens
      ({ s with audioSessFmt := sub.rtpPayloadFormat, adecoder := adecoder, exited := !adecoder }, [])
  | .other => (s, [])

def afterGettingFrame (s : Channels) (sub : Subsession) : Channels × List Nat :=
  if (sub.rtpPayloadFormat : Int) = s.videoSessFmt then
    let looked := s.channelOf sub.clientPortNum
    (looked.1, [looked.2])
  else (s, [])

inductive Received
  | giveUp (sub : Subsession)
  | initiate (sub : Subsession) (opens : Bool) (uses : List Nat)
  | setUp (sub : Subsession)
  | frame (sub : Subsession) (uses : List Nat)

def Received.uses : Received → List Nat
  | initiate _ _ uses | frame _ uses => uses
  | giveUp _ | setUp _ => []

inductive Receives : Channels → Received → Channels → Prop
  | giveUp {s : Channels} {sub : Subsession} : s.exited = false →
      Receives s (.giveUp sub) { s with subsession := none }
  | initiate {s : Channels} {sub : Subsession} {opens : Bool} : s.exited = false →
      Receives s (.initiate sub opens (setupSubsession s sub opens).2) (setupSubsession s sub opens).1
  | setUp {s : Channels} {sub : Subsession} : s.exited = false → s.subsession = some sub →
      Receives s (.setUp sub) { s with subsession := none, sinks := sub :: s.sinks }
  | frame {s : Channels} {sub : Subsession} : s.exited = false → sub ∈ s.sinks →
      Receives s (.frame sub (afterGettingFrame s sub).2) (afterGettingFrame s sub).1

def receiving : System Channels Received where
  Init s := s = .start
  Step := Receives

structure InRange (_ : Channels) (l : Received) (t : Channels) : Prop where
  uses : ∀ channel ∈ l.uses, channel < imageSourceChannelMax ∧ channel ∈ t.vdecoder
  refused : t.exited = false → t.videos ≤ imageSourceChannelMax

/-- What a video subsession needs to be handled right: it is none too many, and the channel for a new port
is not the one past the last, unless the program exits over it. -/
def HasChannel (s : Channels) (l : Received) (_ : Channels) : Prop :=
  ∀ sub opens uses, l = .initiate sub opens uses → sub.medium = .video →
    match s.port2channel.find sub.clientPortNum with
    | some _ => s.videos < imageSourceChannelMax
    | none => imageSourceChannelMax < s.port2channel.entries.length ∨ opens = false ∨
        s.videos < imageSourceChannelMax ∧ s.port2channel.entries.length < imageSourceChannelMax

/-! ## Steps -/

structure Channels.Valid (s : Channels) : Prop where
  channels : ∀ port channel, s.port2channel.find port = some channel →
    channel < imageSourceChannelMax ∧ channel ∈ s.vdecoder
  first : s.videoSessFmt = -1 ∧ s.port2channel.entries = [] ∨ 0 ∈ s.vdecoder
  accepted : s.videos ≤ imageSourceChannelMax

section
variable {s t : Channels} {l : Received} {ls : List Received} {sub : Subsession} {opens : Bool}

theorem initVdecoder_none {channel : Nat} :
    initVdecoder channel opens = none ↔ imageSourceChannelMax < channel ∨ opens = false := by
  unfold initVdecoder
  split_ifs with full opened
  · exact iff_of_true rfl (Or.inl full)
  · exact iff_of_false nofun (not_or.mpr ⟨full, by rw [opened]; exact nofun⟩)
  · exact iff_of_true rfl (Or.inr (Bool.not_eq_true _ ▸ opened))

theorem initVdecoder_some {channel c : Nat} (stored : initVdecoder channel opens = some c) :
    c = channel ∧ channel ≤ imageSourceChannelMax ∧ opens = true := by
  unfold initVdecoder at stored
  split_ifs at stored with full opened
  exact ⟨(Option.some.inj stored).symm, Nat.not_lt.mp full, opened⟩

theorem setupVideo_cases (s : Channels) (sub : Subsession) (opens : Bool) :
    (∃ channel, s.port2channel.find sub.clientPortNum = some channel ∧
      setupVideo s sub opens =
        ({ s with videoSessFmt := sub.rtpPayloadFormat, videos := s.videos + 1 }, [])) ∨
    (s.port2channel.find sub.clientPortNum = none ∧
      (imageSourceChannelMax < s.port2channel.entries.length ∨ opens = false) ∧
      (setupVideo s sub opens).1.exited = true ∧ (setupVideo s sub opens).2 = []) ∨
    (s.port2channel.find sub.clientPortNum = none ∧
      s.port2channel.entries.length ≤ imageSourceChannelMax ∧ opens = true ∧
      setupVideo s sub opens =
        ({ s with videoSessFmt := sub.rtpPayloadFormat, videos := s.videos + 1,
                  port2channel := s.port2channel.insert sub.clientPortNum s.port2channel.entries.length,
                  vdecoder := s.port2channel.entries.length :: s.vdecoder },
          [s.port2channel.entries.length])) := by
  cases found : s.port2channel.find sub.clientPortNum with
  | some channel =>
      refine Or.inl ⟨channel, rfl, ?_⟩
      simp only [setupVideo, found]
  | none =>
      right
      cases stored : initVdecoder s.port2channel.entries.length opens with
      | none =>
          refine Or.inl ⟨rfl, initVdecoder_none.mp stored, ?_⟩
          simp only [setupVideo, found, stored, and_self]
      | some channel =>
          obtain ⟨rfl, le, opened⟩ := initVdecoder_some stored
          refine Or.inr ⟨rfl, le, opened, ?_⟩
          simp only [setupVideo, found, stored]

theorem exists_entry {port : Fin 65536} {channel : Nat}
    (found : s.port2channel.find port = some channel) : s.port2channel.entries ≠ [] :=
  List.ne_nil_of_mem (s.port2channel.find_eq_some_iff.mp found)

theorem Channels.Valid.frame (valid : s.Valid) (sub : Subsession) :
    (afterGettingFrame s sub).1.Valid ∧
      ∀ channel ∈ (afterGettingFrame s sub).2,
        channel < imageSourceChannelMax ∧ channel ∈ (afterGettingFrame s sub).1.vdecoder := by
  unfold afterGettingFrame
  split_ifs with video
  · have first : 0 ∈ s.vdecoder := valid.first.resolve_left fun ⟨none_yet, _⟩ => by
      rw [none_yet] at video
      omega
    cases found : s.port2channel.find sub.clientPortNum with
    | some channel =>
        simp only [channelOf, found]
        exact ⟨valid, List.forall_mem_singleton.mpr (valid.channels _ _ found)⟩
    | none =>
        simp only [channelOf, found]
        refine ⟨⟨?_, Or.inr first, valid.accepted⟩, List.forall_mem_singleton.mpr ⟨by decide, first⟩⟩
        intro port channel entry
        rw [OrderedMap.find_insert] at entry
        split_ifs at entry
        · cases entry
          exact ⟨by decide, first⟩
        · exact valid.channels port channel entry
  · exact ⟨valid, nofun⟩

theorem Channels.Valid.setupVideo (valid : s.Valid) (opens : Bool)
    (has : match s.port2channel.find sub.clientPortNum with
      | some _ => s.videos < imageSourceChannelMax
      | none => imageSourceChannelMax < s.port2channel.entries.length ∨ opens = false ∨
          s.videos < imageSourceChannelMax ∧ s.port2channel.entries.length < imageSourceChannelMax) :
    ((setupVideo s sub opens).1.exited = true ∨ (setupVideo s sub opens).1.Valid) ∧
      ∀ channel ∈ (setupVideo s sub opens).2,
        channel < imageSourceChannelMax ∧ channel ∈ (setupVideo s sub opens).1.vdecoder := by
  rcases setupVideo_cases s sub opens with
    ⟨channel, found, after⟩ | ⟨found, full, exited, uses⟩ | ⟨found, le, opened, after⟩
  · rw [found] at has
    have first : 0 ∈ s.vdecoder := valid.first.resolve_left fun none_yet => exists_entry found none_yet.2
    rw [after]
    exact ⟨Or.inr ⟨valid.channels, Or.inr first, has⟩, nofun⟩
  · rw [uses]
    exact ⟨Or.inl exited, nofun⟩
  · rw [found, opened] at has
    obtain ⟨few, fits⟩ := (has.resolve_left (Nat.not_lt.mpr le)).resolve_left nofun
    rw [after]
    refine ⟨Or.inr ⟨?_, ?_, few⟩, List.forall_mem_singleton.mpr ⟨fits, List.mem_cons_self⟩⟩
    · intro port channel entry
      rw [OrderedMap.find_insert] at entry
      split_ifs at entry
      · cases entry
        exact ⟨fits, List.mem_cons_self⟩
      · obtain ⟨lt, stored⟩ := valid.channels port channel entry
        exact ⟨lt, List.mem_cons_of_mem _ stored⟩
    · rcases valid.first with ⟨-, empty⟩ | first
      · right
        rw [empty]
        exact List.mem_cons_self
      · exact Or.inr (List.mem_cons_of_mem _ first)

theorem step_inRange (valid : s.exited = true ∨ s.Valid) (has : HasChannel s l t) (step : Receives s l t) :
    (t.exited = true ∨ t.Valid) ∧ InRange s l t := by
  have refused {t : Channels} (valid : t.exited = true ∨ t.Valid) (going : t.exited = false) :
      t.videos ≤ imageSourceChannelMax := by
    rcases valid with exited | valid
    · rw [going] at exited
      cases exited
    · exact valid.accepted
  cases step with
  | giveUp going | setUp going =>
      have valid := valid.resolve_left (by rw [going]; exact Bool.false_ne_true)
      exact ⟨Or.inr ⟨valid.channels, valid.first, valid.accepted⟩, nofun, fun _ => valid.accepted⟩
  | frame going playing =>
      obtain ⟨after, uses⟩ :=
        (valid.resolve_left (by rw [going]; exact Bool.false_ne_true)).frame _
      exact ⟨Or.inr after, uses, fun _ => after.accepted⟩
  | @initiate sub opens going =>
      have valid := valid.resolve_left (by rw [going]; exact Bool.false_ne_true)
      have begun : Channels.Valid { s with subsession := some sub } :=
        ⟨valid.channels, valid.first, valid.accepted⟩
      have has := has sub opens _ rfl
      unfold setupSubsession
      cases medium : sub.medium with
      | video =>
          obtain ⟨after, uses⟩ := begun.setupVideo opens (has medium)
          exact ⟨after, uses, refused after⟩
      | audio =>
          have after : Channels.Valid { s with
              subsession := some sub, audioSessFmt := sub.rtpPayloadFormat, adecoder := s.adecoder || opens,
              exited := !(s.adecoder || opens) } :=
            ⟨valid.channels, valid.first, valid.accepted⟩
          exact ⟨Or.inr after, nofun, fun _ => after.accepted⟩
      | other => exact ⟨Or.inr begun, nofun, fun _ => begun.accepted⟩

theorem hasChannel_of_inRange (inRange : InRange s l t) (step : Receives s l t) : HasChannel s l t := by
  rintro sub opens _ rfl medium
  cases step with
  | initiate going =>
      obtain ⟨uses, refused⟩ := inRange
      rw [Received.uses] at uses
      unfold setupSubsession at uses refused
      rw [medium] at uses refused
      rcases setupVideo_cases { s with subsession := some sub } sub opens with
        ⟨channel, found, after⟩ | ⟨found, full, -⟩ | ⟨found, le, opened, after⟩
      · rw [show s.port2channel.find sub.clientPortNum = some channel from found]
        dsimp only at refused
        rw [after] at refused
        exact refused going
      · rw [show s.port2channel.find sub.clientPortNum = none from found]
        exact full.imp_right Or.inl
      · rw [show s.port2channel.find sub.clientPortNum = none from found]
        dsimp only at uses refused
        rw [after] at uses refused
        exact Or.inr (Or.inr ⟨refused going, (uses _ List.mem_cons_self).1⟩)

theorem channels_inRange_iff (ls : List Received) (t : Channels) :
    (receiving.restrict InRange).Run .start ls t ↔ (receiving.restrict HasChannel).Run .start ls t := by
  constructor
  · intro run
    exact run.restrict_imp (I := fun _ => True) (fun _ _ _ _ _ _ => trivial)
      (fun _ _ _ _ inRange step => hasChannel_of_inRange inRange step) trivial
  · intro run
    have valid : Channels.start.Valid := ⟨nofun, Or.inl ⟨rfl, rfl⟩, Nat.zero_le _⟩
    exact run.restrict_imp (I := fun s => s.exited = true ∨ s.Valid)
      (fun _ _ _ valid has step => (step_inRange valid has step).1)
      (fun _ _ _ valid has step => (step_inRange valid has step).2) (Or.inr valid)

/-! ## Nine subsessions -/

structure NextChannel (s : Channels) (n : Nat) : Prop where
  going : s.exited = false
  size : s.port2channel.entries.length = n
  unused : ∀ port : Fin 65536, n ≤ port → s.port2channel.find port = none

theorem NextChannel.step {n : Nat} (next : NextChannel s n) (le : n ≤ imageSourceChannelMax) :
    ∃ l t, Receives s l t ∧ n ∈ l.uses ∧ NextChannel t (n + 1) := by
  have small : n < 65536 := Nat.lt_of_le_of_lt le (by decide)
  let sub : Subsession := ⟨.video, ⟨n, small⟩, 96⟩
  have found : s.port2channel.find sub.clientPortNum = none := next.unused ⟨n, small⟩ (Nat.le_refl n)
  have size := next.size
  have step : Receives s (.initiate sub true (setupVideo { s with subsession := some sub } sub true).2)
      (setupVideo { s with subsession := some sub } sub true).1 := .initiate next.going
  rcases setupVideo_cases { s with subsession := some sub } sub true with
    ⟨_, there, -⟩ | ⟨-, full, -⟩ | ⟨-, -, -, after⟩
  · rw [show s.port2channel.find sub.clientPortNum = some _ from there] at found
    cases found
  · exact absurd full (not_or.mpr ⟨Nat.not_lt.mpr (size ▸ le), nofun⟩)
  · rw [after] at step
    refine ⟨_, _, step, ?_, next.going, ?_, ?_⟩
    · rw [Received.uses, size]
      exact List.mem_cons_self
    · exact (s.port2channel.length_insert_of_find found).trans (congrArg (· + 1) size)
    · intro port ge
      have apart : port ≠ sub.clientPortNum := by
        rintro rfl
        exact absurd ge (Nat.not_succ_le_self n)
      rw [OrderedMap.find_insert, if_neg apart]
      exact next.unused port (Nat.le_of_succ_le ge)

theorem NextChannel.run {d n : Nat} (next : NextChannel s n) (count : n + d = imageSourceChannelMax) :
    ∃ ls t, receiving.Run s ls t ∧ ∃ l ∈ ls, imageSourceChannelMax ∈ l.uses := by
  induction d generalizing s n with
  | zero =>
      obtain ⟨l, t, step, used, -⟩ := next.step (Nat.le_of_eq count)
      exact ⟨_, _, .cons step (.nil _), l, List.mem_cons_self, count ▸ used⟩
  | succ d ih =>
      obtain ⟨l, t, step, -, next⟩ := next.step (by omega)
      obtain ⟨ls, u, run, l', member, used⟩ := ih next (by omega)
      exact ⟨_, u, .cons step run, l', List.mem_cons_of_mem _ member, used⟩

theorem not_channels_inRange :
    ¬ ∀ ls t, receiving.Run .start ls t → (receiving.restrict InRange).Run .start ls t := by
  intro inRange
  have next : NextChannel .start 0 := ⟨rfl, rfl, fun _ _ => rfl⟩
  obtain ⟨ls, t, run, l, member, used⟩ := next.run (Nat.zero_add _)
  obtain ⟨u, v, within, -⟩ := (inRange ls t run).step_of_mem member
  exact Nat.lt_irrefl _ (within.uses _ used).1

end

end GamingAnywhere.Client
