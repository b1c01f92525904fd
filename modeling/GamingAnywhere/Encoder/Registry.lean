import GamingAnywhere.Lib.Transition
import Mathlib.Logic.Function.Basic

/-!
# Clients and encoder threads

`encoder-common.cpp` with the loops of the two encoder modules, as a transition system. A connection
is in one of its calls of `encoder_register_client` and `encoder_unregister_client` or between them;
an encoder thread is somewhere in its loop. Each step makes at most one access to what the threads
share, so the runs are all interleavings.
-/

namespace GamingAnywhere.Encoder
open Lib

/-- What is fixed before the first client comes: the encoders registered by the modules, the number
of video channels, and `encoder->frame_size` of the audio encoder. -/
structure Setup where
  vencoders : Nat
  aencoder : Bool
  videoSourceChannels : Nat
  frameSize : Nat

/-! ## Encoder threads -/

inductive Proc
  | video (k : Nat)
  | audio
  deriving DecidableEq

/-- Where an encoder thread is. `load` to `convert` are in the loop of a video encoder only, `read`,
`frames` and `drop` in that of the audio encoder; `send` holds `encoder_lock` for reading, with the
clients still to be visited. -/
inductive ThreadPlace (ι : Type*)
  | init
  | running
  | load
  | timedwait
  | reload
  | convert
  | read
  | frames
  | encode
  | tryrdlock
  | launchedTest
  | send (left : List ι)
  | drop
  | quit
  | ended

structure Thread (ι : Type*) where
  proc : Proc
  place : ThreadPlace ι
  nsamples : Nat
  joined : Bool

def Thread.Reading {ι : Type*} (t : Thread ι) : Prop := ∃ left, t.place = .send left

def Proc.body {ι : Type*} : Proc → ThreadPlace ι
  | .video _ => .load
  | .audio => .read

def Proc.next {ι : Type*} : Proc → ThreadPlace ι
  | .video _ => .running
  | .audio => .drop

/-! ## Connections -/

/-- Where a connection is. Between the calls it keeps what its last `encoder_register_client`
returned; `encoder_unregister_client` is its last call. -/
inductive ClientPlace
  | idle (ret : Option Int)
  | regWrlock
  | regTest
  | regVideo (vcount : Nat)
  | regAudio
  | regFailUnlock
  | regFailFlag
  | regInsert
  | regUnlock
  | unregWrlock
  | unregErase
  | unregTest
  | unregJoin (i : Nat)
  | unregJoinAudio
  | unregSync
  | unregUnlock
  | gone
  deriving DecidableEq

/-- The file's static variables, with the places of all parties. A thread id is a position in
`threads`, `none` a value that no `pthread_create` has stored. -/
structure Registry (ι : Type*) where
  place : ι → ClientPlace
  writer : Option ι
  clients : List ι
  threadLaunched : Bool
  syncReset : Bool
  vethreadId : Nat → Option Nat
  aethreadId : Option Nat
  threads : List (Thread ι)

def Registry.start {ι : Type*} : Registry ι where
  place _ := .idle none
  writer := none
  clients := []
  threadLaunched := false
  syncReset := true
  vethreadId _ := none
  aethreadId := none
  threads := []

variable {ι : Type*} [DecidableEq ι]

def Registry.goto (s : Registry ι) (c : ι) (p : ClientPlace) : Registry ι :=
  { s with place := Function.update s.place c p }

def Registry.spawn (s : Registry ι) (proc : Proc) : Registry ι :=
  { s with threads := s.threads ++ [⟨proc, .init, 0, false⟩] }

def Registry.Joinable (s : Registry ι) (id : Option Nat) : Prop :=
  ∃ tid t, id = some tid ∧ s.threads[tid]? = some t ∧ t.joined = false

def Registry.join (s : Registry ι) (tid : Nat) : Registry ι :=
  { s with threads := s.threads.modify tid fun t => { t with joined := true } }

def Registry.NoReaders (s : Registry ι) : Prop := ∀ t ∈ s.threads, ¬ t.Reading

/-! ## Steps -/

/-- One step of a connection. A failed `pthread_create` leaves an arbitrary `junk` in the id; joining
an id that is not joinable is undefined, and taken to return an error. -/
inductive ClientStep (cfg : Setup) (c : ι) : Registry ι → Registry ι → Prop
  -- `encoder_register_client`
  | register {s ret} : s.place c = .idle ret → ClientStep cfg c s (s.goto c .regWrlock)
  | regWrlock {s} : s.place c = .regWrlock → s.writer = none → s.NoReaders →
      ClientStep cfg c s { s.goto c .regTest with writer := some c }
  | regFirst {s} : s.place c = .regTest → s.clients = [] →
      ClientStep cfg c s { s.goto c (.regVideo 0) with threadLaunched := true }
  | regFurther {s} : s.place c = .regTest → s.clients ≠ [] →
      ClientStep cfg c s (s.goto c .regInsert)
  | regVideo {s k} : s.place c = .regVideo k → k < cfg.vencoders →
      ClientStep cfg c s { (s.goto c (.regVideo (k + 1))).spawn (.video k) with
        vethreadId := Function.update s.vethreadId k (some s.threads.length) }
  | regVideoFailed {s k} (junk : Option Nat) : s.place c = .regVideo k → k < cfg.vencoders →
      ClientStep cfg c s { s.goto c .regFailUnlock with
        vethreadId := Function.update s.vethreadId k junk }
  | regVideoDone {s} : s.place c = .regVideo cfg.vencoders →
      ClientStep cfg c s (s.goto c .regAudio)
  | regAudioNone {s} : s.place c = .regAudio → cfg.aencoder = false →
      ClientStep cfg c s (s.goto c .regInsert)
  | regAudio {s} : s.place c = .regAudio → cfg.aencoder = true →
      ClientStep cfg c s { (s.goto c .regInsert).spawn .audio with
        aethreadId := some s.threads.length }
  | regAudioFailed {s} (junk : Option Nat) : s.place c = .regAudio → cfg.aencoder = true →
      ClientStep cfg c s { s.goto c .regFailUnlock with aethreadId := junk }
  | regFailUnlock {s} : s.place c = .regFailUnlock →
      ClientStep cfg c s { s.goto c .regFailFlag with writer := none }
  | regFailFlag {s} : s.place c = .regFailFlag →
      ClientStep cfg c s { s.goto c (.idle (some (-1))) with threadLaunched := false }
  | regInsert {s} : s.place c = .regInsert →
      ClientStep cfg c s { s.goto c .regUnlock with clients := s.clients.insert c }
  | regUnlock {s} : s.place c = .regUnlock →
      ClientStep cfg c s { s.goto c (.idle (some 0)) with writer := none }
  -- `encoder_unregister_client`
  | unregister {s ret} : s.place c = .idle ret → ClientStep cfg c s (s.goto c .unregWrlock)
  | unregWrlock {s} : s.place c = .unregWrlock → s.writer = none → s.NoReaders →
      ClientStep cfg c s { s.goto c .unregErase with writer := some c }
  | unregErase {s} : s.place c = .unregErase →
      ClientStep cfg c s { s.goto c .unregTest with clients := s.clients.erase c }
  | unregLast {s} : s.place c = .unregTest → s.clients = [] →
      ClientStep cfg c s { s.goto c (.unregJoin 0) with threadLaunched := false }
  | unregOthers {s} : s.place c = .unregTest → s.clients ≠ [] →
      ClientStep cfg c s (s.goto c .unregUnlock)
  | unregJoin {s i tid t} : s.place c = .unregJoin i → i < cfg.videoSourceChannels →
      s.vethreadId i = some tid → s.threads[tid]? = some t → t.joined = false → t.place = .ended →
      ClientStep cfg c s ((s.goto c (.unregJoin (i + 1))).join tid)
  | unregJoinError {s i} : s.place c = .unregJoin i → i < cfg.videoSourceChannels →
      ¬ s.Joinable (s.vethreadId i) → ClientStep cfg c s (s.goto c (.unregJoin (i + 1)))
  | unregJoinDone {s} : s.place c = .unregJoin cfg.videoSourceChannels →
      ClientStep cfg c s (s.goto c .unregJoinAudio)
  | unregJoinAudio {s tid t} : s.place c = .unregJoinAudio → s.aethreadId = some tid →
      s.threads[tid]? = some t → t.joined = false → t.place = .ended →
      ClientStep cfg c s ((s.goto c .unregSync).join tid)
  | unregJoinAudioError {s} : s.place c = .unregJoinAudio → ¬ s.Joinable s.aethreadId →
      ClientStep cfg c s (s.goto c .unregSync)
  | unregSync {s} : s.place c = .unregSync →
      ClientStep cfg c s { s.goto c .unregUnlock with syncReset := true }
  | unregUnlock {s} : s.place c = .unregUnlock →
      ClientStep cfg c s { s.goto c .gone with writer := none }

/-- One step of an encoder thread. It changes nothing but its own place; what it reads of the others
is `threadLaunched`, `encoder_clients` and whether `encoder_lock` can be had. -/
inductive ThreadStep (cfg : Setup) (s : Registry ι) : Thread ι → Thread ι → Prop
  | started {t} : t.place = .init → ThreadStep cfg s t { t with place := .running }
  | startFailed {t} : t.place = .init → ThreadStep cfg s t { t with place := .quit }
  -- without an audio source buffer the audio thread returns at once
  | startReturned {t} : t.place = .init → ThreadStep cfg s t { t with place := .ended }
  | running {t} : t.place = .running → s.threadLaunched = true →
      ThreadStep cfg s t { t with place := t.proc.body }
  | stopped {t} : t.place = .running → s.threadLaunched = false →
      ThreadStep cfg s t { t with place := .quit }
  | loaded {t} : t.place = .load → ThreadStep cfg s t { t with place := .convert }
  | loadedNull {t} : t.place = .load → ThreadStep cfg s t { t with place := .timedwait }
  | timedOut {t} : t.place = .timedwait → ThreadStep cfg s t { t with place := .running }
  | notified {t} : t.place = .timedwait → ThreadStep cfg s t { t with place := .reload }
  | reloaded {t} : t.place = .reload → ThreadStep cfg s t { t with place := .convert }
  | reloadedNull {t} : t.place = .reload → ThreadStep cfg s t { t with place := .running }
  | converted {t} : t.place = .convert → ThreadStep cfg s t { t with place := .encode }
  | mismatched {t} : t.place = .convert → ThreadStep cfg s t { t with place := .quit }
  -- `audio_source_buffer_read` is asked for `maxsamples - nsamples` frames
  | readNothing {t} : t.place = .read → ThreadStep cfg s t { t with place := .running }
  | read {t} (r : Nat) : t.place = .read → 0 < r → r ≤ cfg.frameSize - t.nsamples →
      ThreadStep cfg s t { t with place := .frames, nsamples := t.nsamples + r }
  | frame {t} : t.place = .frames → cfg.frameSize ≤ t.nsamples →
      ThreadStep cfg s t { t with place := .encode }
  | noFrame {t} : t.place = .frames → t.nsamples < cfg.frameSize →
      ThreadStep cfg s t { t with place := .running }
  | encodeFailed {t} : t.place = .encode → ThreadStep cfg s t { t with place := .quit }
  | noPacket {t} : t.place = .encode → ThreadStep cfg s t { t with place := t.proc.next }
  | packet {t} : t.place = .encode → ThreadStep cfg s t { t with place := .tryrdlock }
  -- `encoder_send_packet_all`
  | locked {t} : t.place = .tryrdlock → s.writer = none →
      ThreadStep cfg s t { t with place := .send s.clients }
  | busy {t} : t.place = .tryrdlock → ThreadStep cfg s t { t with place := .launchedTest }
  | again {t} : t.place = .launchedTest → s.threadLaunched = true →
      ThreadStep cfg s t { t with place := .tryrdlock }
  | gaveUp {t} : t.place = .launchedTest → s.threadLaunched = false →
      ThreadStep cfg s t { t with place := .quit }
  | visited {t c left} : t.place = .send (c :: left) →
      ThreadStep cfg s t { t with place := .send left }
  | sent {t} : t.place = .send [] → ThreadStep cfg s t { t with place := t.proc.next }
  | dropped {t} : t.place = .drop →
      ThreadStep cfg s t { t with place := .frames, nsamples := t.nsamples - cfg.frameSize }
  | quitted {t} : t.place = .quit → ThreadStep cfg s t { t with place := .ended }

inductive Party (ι : Type*)
  | client (c : ι)
  | thread (tid : Nat)
  deriving DecidableEq

inductive Step (cfg : Setup) : Registry ι → Party ι → Registry ι → Prop
  | client {s s' c} : ClientStep cfg c s s' → Step cfg s (.client c) s'
  | thread {s tid t t'} : s.threads[tid]? = some t → ThreadStep cfg s t t' →
      Step cfg s (.thread tid) { s with threads := s.threads.set tid t' }

def encoders (ι : Type*) [DecidableEq ι] (cfg : Setup) : System (Registry ι) (Party ι) where
  Init s := s = .start
  Step := Step cfg

end GamingAnywhere.Encoder
