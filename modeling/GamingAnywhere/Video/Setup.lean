import GamingAnywhere.Pipeline.Pool
import GamingAnywhere.Video.Frame
import Mathlib.Data.Nat.Find

namespace GamingAnywhere.Video
open Lib Pipeline

/-! ## The functions -/

def imageSourceChannelMax : Int := 8

def poolsize : Int := 8

def vsourceFrameSize : Int := 64

structure VsourceConfig where
  rtpId : Int
  width : Int
  height : Int
  stride : Int
  id : Int

/-- A pipeline, with the configuration in its private data and the frames in the buffers of its pool. -/
structure SourcePipe (α : Type*) where
  myname : Bytes
  privdata : Option VsourceConfig
  pool : Pool α
  frame : α → VsourceFrame

structure VideoSources (ι α : Type*) where
  gChannels : Int
  gWidth : Nat → Int
  gHeight : Nat → Int
  gStride : Nat → Int
  gPipe : Nat → Option ι
  pipelinemap : Bytes → Option ι
  pipes : ι → SourcePipe α
  config : Nat → VsourceConfig

def videoSourceChannels {ι α : Type*} (s : VideoSources ι α) : Int := s.gChannels

/-- What `new` and `malloc` give in round `idx`, and what `snprintf` leaves in `pipename`. -/
structure SetupEnv (ι α : Type*) where
  pipe : Nat → Option ι
  privdata : Nat → Bool
  pool : Nat → Nat → Option α
  frame : Nat → α → Int → Option Nat
  pipename : Nat → Bytes

section
variable {ι α : Type*} [DecidableEq ι] [DecidableEq α]

def doRegister (provider : Bytes) (pipe : ι) (s : VideoSources ι α) : Bool × VideoSources ι α :=
  match s.pipelinemap provider with
  | some _ => (false, s)
  | none =>
      (true, { s with pipelinemap := Function.update s.pipelinemap provider (some pipe),
                      pipes := Function.update s.pipes pipe
                        { s.pipes pipe with myname := provider } })

/-- Whether all frames are made; `none` where `vsource_frame_init` does not return. -/
def initFrames (malloc : α → Int → Option Nat) (width height stride : Int) :
    List α → (α → VsourceFrame) → Option (Bool × (α → VsourceFrame))
  | [], frame => some (true, frame)
  | data :: rest, frame =>
      (vsourceFrameInit (malloc data) width height stride).bind fun (made, result) =>
        let frame := Function.update frame data result
        if made then initFrames malloc width height stride rest frame else some (false, frame)

/-- Whether the loop goes on; `none` where it does not return. -/
def setupRound (env : SetupEnv ι α) (idx : Nat) (s : VideoSources ι α) :
    Option (Bool × VideoSources ι α) :=
  let config := s.config idx
  let s := { s with gWidth := Function.update s.gWidth idx config.width,
                    gHeight := Function.update s.gHeight idx config.height,
                    gStride := Function.update s.gStride idx config.stride,
                    gPipe := Function.update s.gPipe idx (env.pipe idx) }
  match env.pipe idx with
  | none => some (false, s)
  | some pipe =>
      if env.privdata idx then
        let config := { config with id := idx }
        let s := { s with config := Function.update s.config idx config }
        match datapoolInit (env.pool idx) poolsize vsourceFrameSize .start with
        | none => some (false, { s with gPipe := Function.update s.gPipe idx none })
        | some pool =>
            (follow pool.next poolsize.toNat pool.bufpool).bind fun data =>
              (initFrames (env.frame idx) config.width config.height config.stride data
                fun _ => .zero).map fun (made, frame) =>
                let filled : SourcePipe α := ⟨[], some config, pool, frame⟩
                let s := { s with pipes := Function.update s.pipes pipe filled }
                if made then doRegister (env.pipename idx) pipe s else (false, s)
      else some (false, { s with gPipe := Function.update s.gPipe idx none })

def setupRounds (env : SetupEnv ι α) (s : VideoSources ι α) : Nat → Option (Bool × VideoSources ι α)
  | 0 => some (true, s)
  | n + 1 => do
      let (goes, s) ← setupRounds env s n
      if goes then setupRound env n s else some (false, s)

def VideoSources.start (config : Nat → VsourceConfig) : VideoSources ι α :=
  ⟨0, fun _ => 0, fun _ => 0, fun _ => 0, fun _ => none, fun _ => none,
    fun _ => ⟨[], none, .start, fun _ => .zero⟩, config⟩

def videoSourceSetupEx (env : SetupEnv ι α) (config : Option (Nat → VsourceConfig)) (nConfig : Int)
    (s : VideoSources ι α) : Option (Int × VideoSources ι α) :=
  match config with
  | none => some (-1, s)
  | some config =>
      if nConfig ≤ 0 then some (-1, s)
      else if imageSourceChannelMax < nConfig then some (-1, s)
      else
        (setupRounds env { s with config := config } nConfig.toNat).map fun (done, s) =>
          if done then (0, { s with gChannels := nConfig }) else (-1, s)

/-! ## One round -/

def VsourceConfig.imgbufsize (config : VsourceConfig) : Int := int32 (config.height * config.stride)

def VsourceConfig.asked (config : VsourceConfig) : Int := int32 (config.imgbufsize + 16)

structure SetupEnv.Granted (env : SetupEnv ι α) (idx : Nat) : Prop where
  pipe : env.pipe idx ≠ none
  privdata : env.privdata idx = true
  pool : ∀ i < poolsize.toNat, env.pool idx i ≠ none

structure SetupEnv.Framed (env : SetupEnv ι α) (config : VsourceConfig) (idx : Nat) : Prop where
  size : 0 ≤ config.imgbufsize
  memory : ∀ data ∈ blocks (env.pool idx) poolsize.toNat, env.frame idx data config.asked ≠ none

structure SetupEnv.Faults (env : SetupEnv ι α) (config : VsourceConfig) (idx : Nat) : Prop where
  size : config.imgbufsize < 0
  memory : ∀ data, (blocks (env.pool idx) poolsize.toNat).getLast? = some data →
    env.frame idx data config.asked ≠ none

section
variable {malloc : α → Int → Option Nat} {config : VsourceConfig} {data : List α}

theorem initFrames_made (positive : 0 ≤ config.imgbufsize)
    (memory : ∀ p ∈ data, malloc p config.asked ≠ none) (frame : α → VsourceFrame) :
    ∃ result, initFrames malloc config.width config.height config.stride data frame = some (true, result) ∧
      (∀ p ∉ data, result p = frame p) ∧
      ∀ p ∈ data, vsourceFrameInit (malloc p) config.width config.height config.stride =
        some (true, result p) := by
  induction data generalizing frame with
  | nil => exact ⟨frame, rfl, fun _ _ => rfl, nofun⟩
  | cons p data ih =>
      obtain ⟨first, made⟩ := (vsourceFrameInit_obtained config.width (memory p List.mem_cons_self)).mpr
        positive
      have rest := fun q member => memory q (List.mem_cons_of_mem p member)
      obtain ⟨result, filled, outside, inside⟩ := ih rest (Function.update frame p first)
      refine ⟨result, ?_, ?_, ?_⟩
      · rw [initFrames, made]
        exact filled
      · intro q apart
        rw [List.mem_cons, not_or] at apart
        rw [outside q apart.2, Function.update_of_ne apart.1]
      · intro q member
        by_cases later : q ∈ data
        · exact inside q later
        · obtain rfl : q = p := (List.mem_cons.mp member).resolve_right later
          rw [outside q later, Function.update_self]
          exact made

theorem initFrames_failed (positive : 0 ≤ config.imgbufsize) {p : α} (member : p ∈ data)
    (missing : malloc p config.asked = none) (frame : α → VsourceFrame) :
    ∃ result, initFrames malloc config.width config.height config.stride data frame = some (false, result) := by
  induction data generalizing frame with
  | nil => cases member
  | cons q data ih =>
      by_cases refused : malloc q config.asked = none
      · obtain ⟨first, failed⟩ := vsourceFrameInit_refused config.width refused
        rw [initFrames, failed]
        exact ⟨_, rfl⟩
      · obtain ⟨first, made⟩ := (vsourceFrameInit_obtained config.width refused).mpr positive
        have later : p ∈ data := by
          refine (List.mem_cons.mp member).resolve_left ?_
          rintro rfl
          exact refused missing
        rw [initFrames, made]
        exact ih later _

theorem initFrames_fault (negative : config.imgbufsize < 0) {p : α}
    (memory : malloc p config.asked ≠ none) (frame : α → VsourceFrame) :
    initFrames malloc config.width config.height config.stride (p :: data) frame = none := by
  rw [initFrames, vsourceFrameInit_fault config.width memory negative]
  rfl

end

structure RoundKept (idx : Nat) (s t : VideoSources ι α) : Prop where
  channels : t.gChannels = s.gChannels
  pipes : ∀ j, j ≠ idx → t.gPipe j = s.gPipe j
  config : ∀ j, j ≠ idx → t.config j = s.config j

structure SetupEnv.Filled (env : SetupEnv ι α) (config : VsourceConfig) (idx : Nat)
    (pipe : SourcePipe α) : Prop where
  name : pipe.myname = env.pipename idx
  buffers : follow pipe.pool.next poolsize.toNat pipe.pool.bufpool =
    some (blocks (env.pool idx) poolsize.toNat).reverse
  count : ((blocks (env.pool idx) poolsize.toNat).length : Int) = poolsize
  frames : ∀ data ∈ blocks (env.pool idx) poolsize.toNat,
    vsourceFrameInit (env.frame idx data) config.width config.height config.stride =
      some (true, pipe.frame data)

variable {env : SetupEnv ι α} {idx : Nat} {s : VideoSources ι α}

theorem setupRound_refused (refused : ¬ env.Granted idx) :
    ∃ t, setupRound env idx s = some (false, t) ∧ RoundKept idx s t ∧
      t.pipelinemap = s.pipelinemap ∧ t.gPipe idx = none := by
  unfold setupRound
  cases pipe : env.pipe idx with
  | none =>
      refine ⟨_, rfl, ⟨rfl, ?_, fun _ _ => rfl⟩, rfl, Function.update_self _ _ _⟩
      exact fun j other => Function.update_of_ne other _ _
  | some p =>
      cases private' : env.privdata idx with
      | false =>
          refine ⟨_, rfl, ⟨rfl, ?_, fun _ _ => rfl⟩, rfl, Function.update_self _ _ _⟩
          intro j other
          exact (Function.update_of_ne other _ _).trans (Function.update_of_ne other _ _)
      | true =>
          have empty : datapoolInit (env.pool idx) poolsize vsourceFrameSize .start = none := by
            by_contra filled
            refine refused ⟨by simp [pipe], private', ?_⟩
            exact (datapoolInit_ne_none_iff (by decide) (by decide)).mp filled
          simp only [empty, if_true]
          refine ⟨_, rfl, ⟨rfl, ?_, ?_⟩, rfl, Function.update_self _ _ _⟩
          · intro j other
            exact (Function.update_of_ne other _ _).trans (Function.update_of_ne other _ _)
          · exact fun j other => Function.update_of_ne other _ _

def VideoSources.opened (s : VideoSources ι α) (idx : Nat) (pipe : ι) : VideoSources ι α :=
  { s with gWidth := Function.update s.gWidth idx (s.config idx).width,
           gHeight := Function.update s.gHeight idx (s.config idx).height,
           gStride := Function.update s.gStride idx (s.config idx).stride,
           gPipe := Function.update s.gPipe idx (some pipe),
           config := Function.update s.config idx { s.config idx with id := idx } }

omit [DecidableEq ι] [DecidableEq α] in
theorem roundKept_opened (pipe : ι) (pipes : ι → SourcePipe α) (map : Bytes → Option ι) :
    RoundKept idx s { s.opened idx pipe with pipes := pipes, pipelinemap := map } where
  channels := rfl
  pipes _ other := Function.update_of_ne other _ _
  config _ other := Function.update_of_ne other _ _

theorem setupRound_granted (granted : env.Granted idx) (distinct : Distinct (env.pool idx)) :
    ∃ pipe pool, env.pipe idx = some pipe ∧
      follow pool.next poolsize.toNat pool.bufpool =
        some (blocks (env.pool idx) poolsize.toNat).reverse ∧
      ((blocks (env.pool idx) poolsize.toNat).length : Int) = poolsize ∧
      ∀ s, setupRound env idx s =
        (initFrames (env.frame idx) (s.config idx).width (s.config idx).height (s.config idx).stride
          (blocks (env.pool idx) poolsize.toNat).reverse fun _ => .zero).map fun (made, frame) =>
            let filled : SourcePipe α := ⟨[], some { s.config idx with id := idx }, pool, frame⟩
            let t := { s.opened idx pipe with pipes := Function.update s.pipes pipe filled }
            if made then doRegister (env.pipename idx) pipe t else (false, t) := by
  obtain ⟨pipe, here⟩ := Option.ne_none_iff_exists'.mp granted.pipe
  have made : datapoolInit (env.pool idx) poolsize vsourceFrameSize .start ≠ none :=
    (datapoolInit_ne_none_iff (by decide) (by decide)).mpr granted.pool
  obtain ⟨pool, init⟩ := Option.ne_none_iff_exists'.mp made
  obtain ⟨laid, count⟩ := datapoolInit_laid distinct init
  have buffers : follow pool.next poolsize.toNat pool.bufpool =
      some (blocks (env.pool idx) poolsize.toNat).reverse := by
    apply laid.bufpool.follow_eq
    rw [List.length_reverse]
    omega
  refine ⟨pipe, pool, here, buffers, count, fun s => ?_⟩
  simp only [setupRound, here, granted.privdata, init, buffers, if_true, Option.bind_some]
  rfl

omit [DecidableEq ι] [DecidableEq α] in
theorem blocks_reverse (granted : env.Granted idx) : ∃ data,
    (blocks (env.pool idx) poolsize.toNat).getLast? = some data ∧
    (blocks (env.pool idx) poolsize.toNat).reverse = data :: (blocks (env.pool idx) 7).reverse := by
  obtain ⟨data, last⟩ := Option.ne_none_iff_exists'.mp (granted.pool 7 (by decide))
  rw [show poolsize.toNat = 7 + 1 from rfl, blocks_succ last]
  exact ⟨data, List.getLast?_concat, List.reverse_append⟩

theorem setupRound_fault (granted : env.Granted idx) (distinct : Distinct (env.pool idx))
    (faults : env.Faults (s.config idx) idx) : setupRound env idx s = none := by
  obtain ⟨pipe, pool, -, -, -, round⟩ := setupRound_granted granted distinct
  obtain ⟨data, last, order⟩ := blocks_reverse granted
  rw [round s, order, initFrames_fault faults.size (faults.memory data last)]
  rfl

omit [DecidableEq ι] in
theorem initFrames_stops (granted : env.Granted idx) {config : VsourceConfig}
    (steady : ¬ env.Faults config idx) (frame : α → VsourceFrame) :
    env.Framed config idx ∨
    ∃ result, initFrames (env.frame idx) config.width config.height config.stride
      (blocks (env.pool idx) poolsize.toNat).reverse frame = some (false, result) := by
  by_cases positive : 0 ≤ config.imgbufsize
  · by_cases memory : ∀ data ∈ blocks (env.pool idx) poolsize.toNat,
        env.frame idx data config.asked ≠ none
    · exact .inl ⟨positive, memory⟩
    · push Not at memory
      obtain ⟨data, member, missing⟩ := memory
      exact .inr (initFrames_failed positive (List.mem_reverse.mpr member) missing frame)
  · obtain ⟨data, last, order⟩ := blocks_reverse granted
    have refused : env.frame idx data config.asked = none := by
      by_contra obtained
      refine steady ⟨Int.not_le.mp positive, fun other same => ?_⟩
      obtain rfl := Option.some.inj (last.symm.trans same)
      exact obtained
    obtain ⟨first, failed⟩ := vsourceFrameInit_refused config.width refused
    rw [order, initFrames, failed]
    exact .inr ⟨_, rfl⟩

theorem setupRound_failed (granted : env.Granted idx) (distinct : Distinct (env.pool idx))
    (steady : ¬ env.Faults (s.config idx) idx)
    (taken : env.Framed (s.config idx) idx → s.pipelinemap (env.pipename idx) ≠ none) :
    ∃ t, setupRound env idx s = some (false, t) ∧ RoundKept idx s t ∧
      t.pipelinemap = s.pipelinemap ∧ t.gPipe idx = env.pipe idx := by
  obtain ⟨pipe, pool, here, -, -, round⟩ := setupRound_granted granted distinct
  rw [here, round s]
  rcases initFrames_stops granted steady fun _ => .zero with framed | ⟨frame, failed⟩
  · have memory := fun data member => framed.memory data (List.mem_reverse.mp member)
    obtain ⟨frame, made, -⟩ := initFrames_made framed.size memory fun _ => .zero
    obtain ⟨other, registered⟩ := Option.ne_none_iff_exists'.mp (taken framed)
    rw [made]
    simp only [Option.map_some, if_true, doRegister, VideoSources.opened, registered]
    exact ⟨_, rfl, roundKept_opened pipe _ _, rfl, Function.update_self _ _ _⟩
  · rw [failed]
    exact ⟨_, rfl, roundKept_opened pipe _ _, rfl, Function.update_self _ _ _⟩

theorem setupRound_clear (granted : env.Granted idx) (distinct : Distinct (env.pool idx))
    (framed : env.Framed (s.config idx) idx) (unused : s.pipelinemap (env.pipename idx) = none) :
    ∃ pipe t, setupRound env idx s = some (true, t) ∧ RoundKept idx s t ∧
      env.pipe idx = some pipe ∧ t.gPipe idx = some pipe ∧
      t.pipelinemap = Function.update s.pipelinemap (env.pipename idx) (some pipe) ∧
      (∀ q, q ≠ pipe → t.pipes q = s.pipes q) ∧ env.Filled (s.config idx) idx (t.pipes pipe) := by
  obtain ⟨pipe, pool, here, buffers, count, round⟩ := setupRound_granted granted distinct
  have memory := fun data member => framed.memory data (List.mem_reverse.mp member)
  obtain ⟨frame, made, -, frames⟩ := initFrames_made framed.size memory fun _ => .zero
  rw [round s, made]
  simp only [Option.map_some, if_true, doRegister, VideoSources.opened, unused]
  refine ⟨pipe, _, rfl, roundKept_opened pipe _ _, here, Function.update_self _ _ _, rfl, ?_, ?_⟩
  · exact fun q other => (Function.update_of_ne other _ _).trans (Function.update_of_ne other _ _)
  · simp only [Function.update_self]
    exact ⟨rfl, buffers, count, fun data member => frames data (List.mem_reverse.mpr member)⟩

/-! ## The rounds -/

structure SetupEnv.Clear (env : SetupEnv ι α) (s : VideoSources ι α) (idx : Nat) : Prop where
  granted : env.Granted idx
  framed : env.Framed (s.config idx) idx
  unused : s.pipelinemap (env.pipename idx) = none
  apart : ∀ j < idx, env.pipename j ≠ env.pipename idx

structure SetupEnv.Fresh (env : SetupEnv ι α) (s : VideoSources ι α) : Prop where
  pools : ∀ idx, Distinct (env.pool idx)
  pipes : Distinct env.pipe
  unused : ∀ idx pipe, env.pipe idx = some pipe → ∀ j, s.gPipe j ≠ some pipe

structure SetupEnv.Ran (env : SetupEnv ι α) (s : VideoSources ι α) (n : Nat)
    (t : VideoSources ι α) : Prop where
  channels : t.gChannels = s.gChannels
  made : ∀ idx < n, ∃ pipe, env.pipe idx = some pipe ∧ t.gPipe idx = some pipe ∧
    t.pipelinemap (env.pipename idx) = some pipe ∧ env.Filled (s.config idx) idx (t.pipes pipe)
  pipes : ∀ idx, n ≤ idx → t.gPipe idx = s.gPipe idx
  config : ∀ idx, n ≤ idx → t.config idx = s.config idx
  names : ∀ name, (∀ idx < n, env.pipename idx ≠ name) → t.pipelinemap name = s.pipelinemap name

variable {n : Nat} {t : VideoSources ι α}

theorem SetupEnv.Ran.round (ran : env.Ran s n t) (fresh : env.Fresh s) (clear : env.Clear s n) :
    ∃ u, setupRound env n t = some (true, u) ∧ env.Ran s (n + 1) u := by
  have config := ran.config n (Nat.le_refl n)
  have framed : env.Framed (t.config n) n := by
    rw [config]
    exact clear.framed
  have unused := (ran.names _ clear.apart).trans clear.unused
  obtain ⟨pipe, u, round, kept, here, opened, map, others, filled⟩ :=
    setupRound_clear clear.granted (fresh.pools n) framed unused
  rw [config] at filled
  refine ⟨u, round, kept.channels.trans ran.channels, ?_, ?_, ?_, ?_⟩
  · intro idx below
    by_cases last : idx = n
    · subst last
      exact ⟨pipe, here, opened, by rw [map, Function.update_self], filled⟩
    · have before : idx < n := by omega
      obtain ⟨other, theirs, listed, registered, full⟩ := ran.made idx before
      have different : other ≠ pipe := by
        rintro rfl
        exact last (fresh.pipes _ _ _ theirs here)
      refine ⟨other, theirs, (kept.pipes idx last).trans listed, ?_, ?_⟩
      · rw [map, Function.update_of_ne (clear.apart idx before)]
        exact registered
      · rw [others other different]
        exact full
  · intro idx above
    exact (kept.pipes idx (by omega)).trans (ran.pipes idx (by omega))
  · intro idx above
    exact (kept.config idx (by omega)).trans (ran.config idx (by omega))
  · intro name new
    rw [map, Function.update_of_ne (new n (Nat.lt_succ_self n)).symm]
    exact ran.names name fun idx below => new idx (Nat.lt_succ_of_lt below)

theorem setupRounds_ran (fresh : env.Fresh s) (clear : ∀ idx < n, env.Clear s idx) :
    ∃ t, setupRounds env s n = some (true, t) ∧ env.Ran s n t := by
  induction n with
  | zero =>
      refine ⟨s, rfl, rfl, ?_, fun _ _ => rfl, fun _ _ => rfl, fun _ _ => rfl⟩
      exact fun idx below => absurd below (Nat.not_lt_zero idx)
  | succ n ih =>
      obtain ⟨t, before, ran⟩ := ih fun idx below => clear idx (Nat.lt_succ_of_lt below)
      obtain ⟨u, round, later⟩ := ran.round fresh (clear n (Nat.lt_succ_self n))
      refine ⟨u, ?_, later⟩
      rw [setupRounds, before]
      exact round

theorem setupRounds_stopped {m : Nat} (stopped : ∀ t, setupRounds env s m ≠ some (true, t))
    (later : m ≤ n) : setupRounds env s n = setupRounds env s m := by
  induction later with
  | refl => rfl
  | step later ih =>
      rw [setupRounds, ih]
      cases result : setupRounds env s m with
      | none => rfl
      | some result' =>
          obtain ⟨goes, t⟩ := result'
          cases goes with
          | false => rfl
          | true => exact absurd result (stopped t)

omit [DecidableEq ι] [DecidableEq α] in
theorem SetupEnv.Ran.taken (ran : env.Ran s n t) {name : Bytes}
    (used : s.pipelinemap name = none → ∃ j < n, env.pipename j = name) : t.pipelinemap name ≠ none := by
  by_cases mine : ∃ j < n, env.pipename j = name
  · obtain ⟨j, below, rfl⟩ := mine
    obtain ⟨pipe, -, -, registered, -⟩ := ran.made j below
    rw [registered]
    exact Option.some_ne_none pipe
  · push Not at mine
    rw [ran.names name mine]
    intro unused
    obtain ⟨j, below, same⟩ := used unused
    exact mine j below same

theorem setupRounds_fault (fresh : env.Fresh s) {idx : Nat} (below : idx < n)
    (clear : ∀ j < idx, env.Clear s j) (granted : env.Granted idx)
    (faults : env.Faults (s.config idx) idx) : setupRounds env s n = none := by
  obtain ⟨t, before, ran⟩ := setupRounds_ran fresh clear
  rw [← ran.config idx (Nat.le_refl idx)] at faults
  have stopped : setupRounds env s (idx + 1) = none := by
    rw [setupRounds, before]
    exact setupRound_fault granted (fresh.pools idx) faults
  rw [setupRounds_stopped (by simp [stopped]) below]
  exact stopped

theorem setupRounds_refused (fresh : env.Fresh s) {idx : Nat} (below : idx < n)
    (clear : ∀ j < idx, env.Clear s j) (refused : ¬ env.Granted idx) :
    ∃ t u, setupRounds env s n = some (false, u) ∧ env.Ran s idx t ∧ RoundKept idx t u ∧
      u.pipelinemap = t.pipelinemap ∧ u.gPipe idx = none := by
  obtain ⟨t, before, ran⟩ := setupRounds_ran fresh clear
  obtain ⟨u, round, kept, map, closed⟩ := setupRound_refused (s := t) refused
  have stopped : setupRounds env s (idx + 1) = some (false, u) := by
    rw [setupRounds, before]
    exact round
  rw [setupRounds_stopped (by simp [stopped]) below]
  exact ⟨t, u, stopped, ran, kept, map, closed⟩

theorem setupRounds_failed (fresh : env.Fresh s) {idx : Nat} (below : idx < n)
    (clear : ∀ j < idx, env.Clear s j) (unclear : ¬ env.Clear s idx) (granted : env.Granted idx)
    (steady : ¬ env.Faults (s.config idx) idx) :
    ∃ t u, setupRounds env s n = some (false, u) ∧ env.Ran s idx t ∧ RoundKept idx t u ∧
      u.pipelinemap = t.pipelinemap ∧ u.gPipe idx = env.pipe idx := by
  obtain ⟨t, before, ran⟩ := setupRounds_ran fresh clear
  have taken (framed : env.Framed (s.config idx) idx) : t.pipelinemap (env.pipename idx) ≠ none := by
    refine ran.taken fun unused => ?_
    by_contra apart
    push Not at apart
    exact unclear ⟨granted, framed, unused, apart⟩
  rw [← ran.config idx (Nat.le_refl idx)] at steady taken
  obtain ⟨u, round, kept, map, left⟩ := setupRound_failed granted (fresh.pools idx) steady taken
  have stopped : setupRounds env s (idx + 1) = some (false, u) := by
    rw [setupRounds, before]
    exact round
  rw [setupRounds_stopped (by simp [stopped]) below]
  exact ⟨t, u, stopped, ran, kept, map, left⟩

/-! ## All or nothing -/

structure SetupEnv.Undone (env : SetupEnv ι α) (s t : VideoSources ι α) : Prop where
  registered : t.pipelinemap = s.pipelinemap
  channels : videoSourceChannels t = videoSourceChannels s
  pipes : ∀ idx pipe, env.pipe idx = some pipe → ∀ j, t.gPipe j ≠ some pipe

structure SetupEnv.Ready (env : SetupEnv ι α) (config : Nat → VsourceConfig) (nConfig : Int)
    (t : VideoSources ι α) : Prop where
  channels : videoSourceChannels t = nConfig
  each : ∀ idx < nConfig.toNat, ∃ pipe data, t.gPipe idx = some pipe ∧
    t.pipelinemap (env.pipename idx) = some pipe ∧
    follow (t.pipes pipe).pool.next poolsize.toNat (t.pipes pipe).pool.bufpool = some data ∧
    (data.length : Int) = poolsize ∧
    ∀ p ∈ data, ((t.pipes pipe).frame p).imgbuf ≠ none ∧
      ((t.pipes pipe).frame p).imgbufsize = (config idx).height * (config idx).stride

def AllOrNothing (env : SetupEnv ι α) (config : Option (Nat → VsourceConfig)) (nConfig : Int)
    (s : VideoSources ι α) : Prop :=
  ∀ ret t, videoSourceSetupEx env config nConfig s = some (ret, t) →
    (ret = -1 → env.Undone s t) ∧
    (ret = 0 → ∃ cells, config = some cells ∧ env.Ready cells nConfig t)

def SetupEnv.Clean (env : SetupEnv ι α) (config : Option (Nat → VsourceConfig)) (nConfig : Int)
    (s : VideoSources ι α) : Prop :=
  match config with
  | none => True
  | some config =>
      nConfig ≤ 0 ∨ imageSourceChannelMax < nConfig ∨ ¬ env.Granted 0 ∨
      (∀ idx < nConfig.toNat, env.Clear { s with config := config } idx ∧
        (config idx).imgbufsize = (config idx).height * (config idx).stride) ∨
      ∃ idx < nConfig.toNat, (∀ j < idx, env.Clear { s with config := config } j) ∧
        env.Granted idx ∧ env.Faults (config idx) idx

omit [DecidableEq ι] [DecidableEq α] in
theorem SetupEnv.Ran.undone {u : VideoSources ι α} (ran : env.Ran s 0 t) (fresh : env.Fresh s)
    (kept : RoundKept 0 t u) (map : u.pipelinemap = t.pipelinemap) (closed : u.gPipe 0 = none) :
    env.Undone s u := by
  refine ⟨?_, kept.channels.trans ran.channels, ?_⟩
  · rw [map]
    exact funext fun name => ran.names name fun idx below => absurd below (Nat.not_lt_zero idx)
  · intro idx pipe here j
    by_cases first : j = 0
    · rw [first, closed]
      exact Option.some_ne_none pipe |>.symm
    · rw [kept.pipes j first, ran.pipes j (Nat.zero_le j)]
      exact fresh.unused idx pipe here j

omit [DecidableEq ι] [DecidableEq α] in
theorem SetupEnv.Ran.not_undone {u : VideoSources ι α} (ran : env.Ran s n t) (later : 0 < n)
    (clear : env.Clear s 0) (map : u.pipelinemap = t.pipelinemap) : ¬ env.Undone s u := by
  intro undone
  obtain ⟨pipe, -, -, registered, -⟩ := ran.made 0 later
  rw [← map, undone.registered, clear.unused] at registered
  cases registered

omit [DecidableEq ι] [DecidableEq α] in
theorem SetupEnv.Ran.ready_iff {config : Nat → VsourceConfig} {nConfig : Int}
    (ran : env.Ran { s with config := config } nConfig.toNat t) :
    env.Ready config nConfig { t with gChannels := nConfig } ↔
      ∀ idx < nConfig.toNat,
        (config idx).imgbufsize = (config idx).height * (config idx).stride := by
  constructor
  · intro ready idx below
    obtain ⟨pipe, data, opened, -, buffers, count, sized⟩ := ready.each idx below
    obtain ⟨pipe', -, opened', -, filled⟩ := ran.made idx below
    obtain rfl := Option.some.inj (opened.symm.trans opened')
    obtain rfl := Option.some.inj (buffers.symm.trans filled.buffers)
    have some_data : 0 < (blocks (env.pool idx) poolsize.toNat).reverse.length := by
      have : (0 : Int) < poolsize := by decide
      omega
    obtain ⟨p, member⟩ := List.exists_mem_of_length_pos some_data
    have made := filled.frames p (List.mem_reverse.mp member)
    obtain ⟨-, -, -, size, -⟩ := vsourceFrameInit_placed made
    exact size.symm.trans (sized p member).2
  · intro sized
    refine ⟨rfl, fun idx below => ?_⟩
    obtain ⟨pipe, -, opened, registered, filled⟩ := ran.made idx below
    refine ⟨pipe, _, opened, registered, filled.buffers, ?_, ?_⟩
    · rw [List.length_reverse]
      exact filled.count
    · intro p member
      have made := filled.frames p (List.mem_reverse.mp member)
      obtain ⟨block, -, -, size, -, imgbuf, -⟩ := vsourceFrameInit_placed made
      exact ⟨by rw [imgbuf]; exact Option.some_ne_none _, size.trans (sized idx below)⟩

omit [DecidableEq ι] [DecidableEq α] in
theorem SetupEnv.Clear.of_memory (memory : ∀ i, env.pipe i ≠ none ∧ env.privdata i = true ∧
    (∀ j, env.pool i j ≠ none) ∧ ∀ data size, env.frame i data size ≠ none)
    (size : 0 ≤ (s.config idx).imgbufsize) (unused : s.pipelinemap (env.pipename idx) = none)
    (apart : ∀ j < idx, env.pipename j ≠ env.pipename idx) : env.Clear s idx := by
  obtain ⟨pipe, private', pool, frame⟩ := memory idx
  exact ⟨⟨pipe, private', fun j _ => pool j⟩, ⟨size, fun data _ => frame data _⟩, unused, apart⟩

omit [DecidableEq ι] [DecidableEq α] in
theorem SetupEnv.Clear.steady (clear : env.Clear s idx) : ¬ env.Faults (s.config idx) idx :=
  fun faults => absurd clear.framed.size (Int.not_le.mpr faults.size)

omit [DecidableEq ι] [DecidableEq α] in
theorem SetupEnv.clean_iff {config : Nat → VsourceConfig} {nConfig : Int} (low : ¬ nConfig ≤ 0)
    (high : ¬ imageSourceChannelMax < nConfig) (below : idx < nConfig.toNat)
    (clear : ∀ j < idx, env.Clear { s with config := config } j)
    (unclear : ¬ env.Clear { s with config := config } idx) :
    env.Clean (some config) nConfig s ↔
      ¬ env.Granted 0 ∨ env.Granted idx ∧ env.Faults (config idx) idx := by
  simp only [SetupEnv.Clean, low, high, false_or]
  constructor
  · rintro (refused | all | ⟨i, within, before, granted, faults⟩)
    · exact .inl refused
    · exact absurd (all idx below).1 unclear
    · obtain less | rfl | more := Nat.lt_trichotomy i idx
      · exact absurd faults (clear i less).steady
      · exact .inr ⟨granted, faults⟩
      · exact absurd (before idx more) unclear
  · rintro (refused | ⟨granted, faults⟩)
    · exact .inl refused
    · exact .inr (.inr ⟨idx, below, clear, granted, faults⟩)

theorem allOrNothing_clear {config : Nat → VsourceConfig} {nConfig : Int} (fresh : env.Fresh s)
    (low : ¬ nConfig ≤ 0) (high : ¬ imageSourceChannelMax < nConfig)
    (clear : ∀ idx < nConfig.toNat, env.Clear { s with config := config } idx) :
    AllOrNothing env (some config) nConfig s ↔ env.Clean (some config) nConfig s := by
  have fresh' : env.Fresh { s with config := config } := ⟨fresh.pools, fresh.pipes, fresh.unused⟩
  obtain ⟨t, done, ran⟩ := setupRounds_ran fresh' clear
  have returned : videoSourceSetupEx env (some config) nConfig s =
      some (0, { t with gChannels := nConfig }) := by
    rw [videoSourceSetupEx, if_neg low, if_neg high, done]
    rfl
  have first := clear 0 (by omega)
  simp only [SetupEnv.Clean, low, high, false_or]
  constructor
  · intro right
    obtain ⟨cells, same, ready⟩ := (right 0 _ returned).2 rfl
    obtain rfl := Option.some.inj same
    exact .inr (.inl fun idx below => ⟨clear idx below, ran.ready_iff.mp ready idx below⟩)
  · rintro (refused | all | ⟨i, within, -, -, faults⟩)
    · exact absurd first.granted refused
    · intro ret u found
      rw [returned] at found
      cases found
      refine ⟨fun negative => absurd negative (by decide), fun _ => ⟨config, rfl, ?_⟩⟩
      exact ran.ready_iff.mpr fun idx below => (all idx below).2
    · exact absurd faults (clear i within).steady

theorem allOrNothing_unclear {config : Nat → VsourceConfig} {nConfig : Int} (fresh : env.Fresh s)
    (low : ¬ nConfig ≤ 0) (high : ¬ imageSourceChannelMax < nConfig) (below : idx < nConfig.toNat)
    (clear : ∀ j < idx, env.Clear { s with config := config } j)
    (unclear : ¬ env.Clear { s with config := config } idx) :
    AllOrNothing env (some config) nConfig s ↔ env.Clean (some config) nConfig s := by
  have fresh' : env.Fresh { s with config := config } := ⟨fresh.pools, fresh.pipes, fresh.unused⟩
  have failing {u : VideoSources ι α}
      (failed : setupRounds env { s with config := config } nConfig.toNat = some (false, u)) :
      AllOrNothing env (some config) nConfig s ↔ env.Undone s u := by
    have returned : videoSourceSetupEx env (some config) nConfig s = some (-1, u) := by
      rw [videoSourceSetupEx, if_neg low, if_neg high, failed]
      rfl
    constructor
    · exact fun right => (right (-1) u returned).1 rfl
    · intro undone ret v found
      rw [returned] at found
      cases found
      exact ⟨fun _ => undone, fun zero => absurd zero (by decide)⟩
  rw [SetupEnv.clean_iff low high below clear unclear]
  by_cases granted : env.Granted idx
  · by_cases faults : env.Faults (config idx) idx
    · refine iff_of_true ?_ (.inr ⟨granted, faults⟩)
      intro ret u found
      rw [videoSourceSetupEx, if_neg low, if_neg high,
        setupRounds_fault fresh' below clear granted faults] at found
      cases found
    · obtain ⟨t, u, failed, -, -, -, left⟩ := setupRounds_failed fresh' below clear unclear granted faults
      obtain ⟨pipe, here⟩ := Option.ne_none_iff_exists'.mp granted.pipe
      rw [failing failed]
      refine iff_of_false (fun undone => ?_) ?_
      · exact undone.pipes idx pipe here idx (left.trans here)
      · rintro (refused | ⟨-, faults'⟩)
        · rcases Nat.eq_zero_or_pos idx with rfl | later
          · exact refused granted
          · exact refused (clear 0 later).granted
        · exact faults faults'
  · obtain ⟨t, u, failed, ran, kept, map, closed⟩ := setupRounds_refused fresh' below clear granted
    rw [failing failed]
    rcases Nat.eq_zero_or_pos idx with rfl | later
    · have undone := ran.undone fresh' kept map closed
      exact iff_of_true ⟨undone.registered, undone.channels, undone.pipes⟩ (.inl granted)
    · have first := clear 0 later
      refine iff_of_false (fun undone => ?_) ?_
      · exact ran.not_undone later first map ⟨undone.registered, undone.channels, undone.pipes⟩
      · rintro (refused | ⟨granted', -⟩)
        · exact refused first.granted
        · exact granted granted'

theorem allOrNothing_iff (env : SetupEnv ι α) (config : Option (Nat → VsourceConfig)) (nConfig : Int)
    (s : VideoSources ι α) (fresh : env.Fresh s) :
    AllOrNothing env config nConfig s ↔ env.Clean config nConfig s := by
  cases config with
  | none =>
      refine iff_of_true ?_ trivial
      intro ret t returned
      cases returned
      exact ⟨fun _ => ⟨rfl, rfl, fresh.unused⟩, fun zero => absurd zero (by decide)⟩
  | some config =>
      by_cases low : nConfig ≤ 0
      · refine iff_of_true ?_ (.inl low)
        intro ret t returned
        rw [videoSourceSetupEx, if_pos low] at returned
        cases returned
        exact ⟨fun _ => ⟨rfl, rfl, fresh.unused⟩, fun zero => absurd zero (by decide)⟩
      by_cases high : imageSourceChannelMax < nConfig
      · refine iff_of_true ?_ (.inr (.inl high))
        intro ret t returned
        rw [videoSourceSetupEx, if_neg low, if_pos high] at returned
        cases returned
        exact ⟨fun _ => ⟨rfl, rfl, fresh.unused⟩, fun zero => absurd zero (by decide)⟩
      by_cases all : ∀ idx < nConfig.toNat, env.Clear { s with config := config } idx
      · exact allOrNothing_clear fresh low high all
      · push Not at all
        classical
        have least := Nat.find_spec all
        refine allOrNothing_unclear fresh low high least.1 (fun j less => ?_) least.2
        by_contra unclear
        exact Nat.find_min all less ⟨Nat.lt_trans less least.1, unclear⟩

end

theorem allOrNothing_iff_two_sources :
    AllOrNothing (⟨some, fun _ => true, fun _ => some, fun _ _ _ => some 4096, fun idx => [UInt8.ofNat idx]⟩ :
      SetupEnv Nat Nat) (some fun _ => ⟨0, 2, 2, 8, 0⟩) 2 (.start fun _ => ⟨0, 2, 2, 8, 0⟩) := by
  refine (allOrNothing_iff _ _ _ _ ⟨fun _ => distinct_some, distinct_some, nofun⟩).mpr ?_
  refine .inr (.inr (.inr (.inl fun idx below => ⟨?_, rfl⟩)))
  have names : ∀ j < idx, [UInt8.ofNat j] ≠ [UInt8.ofNat idx] := by
    intro j earlier
    have two : idx < 2 := below
    obtain ⟨rfl, rfl⟩ : j = 0 ∧ idx = 1 := by omega
    decide
  have size : (0 : Int) ≤ (⟨0, 2, 2, 8, 0⟩ : VsourceConfig).imgbufsize := by decide
  exact .of_memory (fun _ => ⟨nofun, rfl, fun _ => nofun, fun _ _ => nofun⟩) size rfl names

/-- Two sources get the same name: the first pipeline stays registered. -/
theorem not_allOrNothing :
    ¬ ∀ (env : SetupEnv Nat Nat) (config : Option (Nat → VsourceConfig)) (nConfig : Int)
        (s : VideoSources Nat Nat), env.Fresh s → AllOrNothing env config nConfig s := by
  intro all
  let env : SetupEnv Nat Nat := ⟨some, fun _ => true, fun _ => some, fun _ _ _ => some 4096, fun _ => []⟩
  have right := all env (some fun _ => ⟨0, 2, 2, 8, 0⟩) 2 (.start fun _ => ⟨0, 2, 2, 8, 0⟩)
    ⟨fun _ => distinct_some, distinct_some, nofun⟩
  have clear (idx : Nat) (first : idx < 1) :
      env.Clear (.start fun _ => ⟨0, 2, 2, 8, 0⟩ : VideoSources Nat Nat) idx := by
    obtain rfl : idx = 0 := Nat.lt_one_iff.mp first
    exact .of_memory (fun _ => ⟨nofun, rfl, fun _ => nofun, fun _ _ => nofun⟩) (by decide) rfl (by decide)
  have unclear : ¬ env.Clear (.start fun _ => ⟨0, 2, 2, 8, 0⟩ : VideoSources Nat Nat) 1 :=
    fun second => second.apart 0 (by decide) rfl
  rw [allOrNothing_unclear ⟨fun _ => distinct_some, distinct_some, nofun⟩ (by decide) (by decide)
    (by decide) clear unclear, SetupEnv.clean_iff (by decide) (by decide) (by decide) clear unclear] at right
  rcases right with refused | ⟨-, faults⟩
  · exact refused (clear 0 (by decide)).granted
  · exact absurd faults.size (by decide)

end GamingAnywhere.Video
