import GamingAnywhere.Audio.Clients
import GamingAnywhere.Audio.Encoding

namespace GamingAnywhere.Audio
open Lib Encoder

/-! ## The threads -/

/-- What the device has been set to. Four chunks and one block have sizes that fit an `int`. -/
structure AudioSetup extends AudioFormat where
  chunkSize : Int
  some_chunk : 0 < chunkSize
  some_channels : 0 < channels
  block_fits : frameSize * channels * bitspersample < 2147483648
  buffer_fits : chunkSize * 4 * channels * bitspersample < 2147483648

/-- A thread of `aencoder_threadproc`, before `audio_source_client_register`, in its loop, and behind
`audio_source_client_unregister`. -/
inductive AudioClient
  | absent
  | running (e : AencoderState)
  | gone (e : AencoderState)

/-- `recording` is the loop of `asource_threadproc`. -/
structure AudioPath (ι : Type*) where
  source : Source ι
  recording : Bool
  clients : ι → AudioClient

inductive AudioPathEvent (ι : Type*)
  | record (fbuffer : Mem UInt8) (r : Int)
  | failed
  | visit (i : ι) (data : Option (Mem UInt8)) (frames : Int) (reply : Reply)
  | filled
  | start (i : ι)
  | quit (i : ι)
  | wait (i : ι) (asked : Int)
  | read (i : ι) (asked r : Int) (data : Bytes)
  | encode (i : ι) (l : AencoderEvent)

section
variable {ι : Type*}

def AudioPathEvent.source (owner : ι → Int) : AudioPathEvent ι → Option (Event ι)
  | .record fbuffer r => some (.fill (some fbuffer) r)
  | .visit i data frames reply => some (.call i (.fill data frames) reply)
  | .filled => some .filled
  | .start i => some (.register (owner i) (some i))
  | .quit i => some (.unregister (owner i))
  | .wait i asked => some (.wait i asked)
  | .read i asked r data => some (.call i (.read asked) (.read r data))
  | .failed | .encode _ _ => none

def AudioClient.isRunning : AudioClient → Bool
  | .running _ => true
  | _ => false

def Source.Awake (s : Source ι) (i : ι) : Prop := ∀ frames, (i, frames) ∉ s.waiting

def AencoderEvent.isRead : AencoderEvent → Bool
  | .read _ _ _ => true
  | _ => false

theorem Source.Registered.inj {owner : ι → Int} {s : Source ι} {i j : ι} (first : s.Registered owner i)
    (second : s.Registered owner j) (same : owner i = owner j) : i = j := by
  rw [Source.Registered, same] at first
  have found := (s.gClients.find_eq_some_iff.mpr first).symm.trans (s.gClients.find_eq_some_iff.mpr second)
  exact Option.some.inj (Option.some.inj found)

end

variable {ι : Type*} [DecidableEq ι]

/-- A read that was not answered with samples is made again, after `usleep`. -/
inductive AudioPathStep (setup : AudioSetup) (owner : ι → Int) :
    AudioPath ι → AudioPathEvent ι → AudioPath ι → Prop
  | record {s : AudioPath ι} {fbuffer : Mem UInt8} {r : Int} {source : Source ι} : s.recording = true →
      0 ≤ r → r ≤ setup.chunkSize → SourceStep owner s.source (.fill (some fbuffer) r) source →
      AudioPathStep setup owner s (.record fbuffer r) { s with source }
  | failed {s : AudioPath ι} : s.recording = true → s.source.filling = none →
      AudioPathStep setup owner s .failed { s with recording := false }
  | visit {s : AudioPath ι} {i : ι} {data : Option (Mem UInt8)} {frames : Int} {reply : Reply}
      {source : Source ι} : SourceStep owner s.source (.call i (.fill data frames) reply) source →
      AudioPathStep setup owner s (.visit i data frames reply) { s with source }
  | filled {s : AudioPath ι} {source : Source ι} : SourceStep owner s.source .filled source →
      AudioPathStep setup owner s .filled { s with source }
  | start {s : AudioPath ι} {i : ι} {samples : Mem UInt8} {baseT : Timeval} {source : Source ι} :
      s.clients i = .absent → (∀ j, (s.clients j).isRunning = true → owner j ≠ owner i) →
      SourceStep owner s.source (.register (owner i) (some i)) source →
      AudioPathStep setup owner s (.start i)
        { s with source,
                 clients := Function.update s.clients i (.running ⟨samples, 0, 0, .start baseT, .top⟩) }
  | quit {s : AudioPath ι} {i : ι} {e : AencoderState} {left : Bytes} {source : Source ι} :
      s.clients i = .running e → e.place = .ended left →
      SourceStep owner s.source (.unregister (owner i)) source →
      AudioPathStep setup owner s (.quit i)
        { s with source, clients := Function.update s.clients i (.gone e) }
  | wait {s : AudioPath ι} {i : ι} {e : AencoderState} {source : Source ι} :
      s.clients i = .running e → e.place = .top → s.source.Awake i →
      SourceStep owner s.source (.wait i (setup.frameSize - e.nsamples)) source →
      AudioPathStep setup owner s (.wait i (setup.frameSize - e.nsamples)) { s with source }
  | read {s : AudioPath ι} {i : ι} {e e' : AencoderState} {asked r : Int} {data : Bytes}
      {source : Source ι} : s.clients i = .running e →
      SourceStep owner s.source (.call i (.read asked) (.read r data)) source → source.Awake i →
      AencoderStep setup.toAudioFormat e (.read asked r data) e' →
      AudioPathStep setup owner s (.read i asked r data)
        { s with source, clients := Function.update s.clients i (.running e') }
  | encode {s : AudioPath ι} {i : ι} {e e' : AencoderState} {l : AencoderEvent} :
      s.clients i = .running e → s.source.Awake i → l.isRead = false →
      AencoderStep setup.toAudioFormat e l e' →
      AudioPathStep setup owner s (.encode i l)
        { s with clients := Function.update s.clients i (.running e') }

def audioPath (setup : AudioSetup) (owner : ι → Int) : System (AudioPath ι) (AudioPathEvent ι) where
  Init s := s.source.gClients = .empty ∧ s.source.filling = none ∧ s.source.waiting = [] ∧
    (∀ i, ∃ malloc, audioSourceBufferInit malloc setup.chunkSize setup.channels setup.bitspersample =
      some (s.source.buffers i)) ∧
    s.recording = true ∧ ∀ i, s.clients i = .absent
  Step := AudioPathStep setup owner

/-! ## What is recorded, heard and encoded -/

def AudioPathEvent.recorded : AudioPathEvent ι → List (Option (Mem UInt8) × Int)
  | .record fbuffer r => [(some fbuffer, r)]
  | _ => []

def AudioPathEvent.listens (i : ι) (running : Bool) : AudioPathEvent ι → Bool
  | .start j => if j = i then true else running
  | .quit j => if j = i then false else running
  | _ => running

def chunksFor (i : ι) : Bool → List (AudioPathEvent ι) → List (Option (Mem UInt8) × Int)
  | _, [] => []
  | running, l :: ls => (if running then l.recorded else []) ++ chunksFor i (l.listens i running) ls

def AudioPathEvent.visits (i : ι) : AudioPathEvent ι → List (Option (Mem UInt8) × Int)
  | .visit j data frames _ => if j = i then [(data, frames)] else []
  | _ => []

def AudioPathEvent.accepted (unit : Int) (i : ι) : AudioPathEvent ι → Bytes
  | .visit j data frames reply => if j = i then acceptedBytes unit (.fill data frames, reply) else []
  | _ => []

def AudioPathEvent.reads (i : ι) : AudioPathEvent ι → Bytes
  | .read j _ _ data => if j = i then data else []
  | _ => []

def AudioPathEvent.drops (i : ι) : AudioPathEvent ι → Bool
  | .visit j _ _ (.filled .dropped _) => j = i
  | _ => false

def AudioPathEvent.block (i : ι) : AudioPathEvent ι → Option Bytes
  | .encode j l => if j = i then l.handed else none
  | _ => none

def AudioBuffer.stored (ab : AudioBuffer) : Bytes :=
  ab.buffer.slice ab.bufhead.toNat (ab.buftail - ab.bufhead).toNat

def AudioClient.pending (fmt : AudioFormat) : AudioClient → Bytes
  | .absent => []
  | .running e | .gone e => e.pending fmt

def AudioPath.content (fmt : AudioFormat) (i : ι) (s : AudioPath ι) : Bytes :=
  (s.clients i).pending fmt ++ (s.source.buffers i).stored

def bytesOf (unit : Int) (chunks : List (Option (Mem UInt8) × Int)) : Bytes :=
  chunks.flatMap fun chunk => payload chunk.1 (chunk.2 * unit).toNat

/-! ## One buffer -/

section
variable {ab after : AudioBuffer} {stored : Bytes} {call : Call} {reply : Reply} {jumps : Nat}

theorem AudioBuffer.Holds.stored_eq (holds : ab.Holds stored) : ab.stored = stored := by
  have length : (ab.buftail - ab.bufhead).toNat = stored.length := by
    have := holds.tail
    omega
  rw [AudioBuffer.stored, length, holds.cells]

theorem AudioBuffer.Holds.self (holds : ab.Holds stored) : ab.Holds ab.stored := by
  rw [holds.stored_eq]
  exact holds

theorem AudioBuffer.Holds.performs (holds : ab.Holds ab.stored) (fits : FillFits ab (call, reply) after)
    (ran : perform jumps ab call = some (reply, after)) :
    after.Holds after.stored ∧ after.shape = ab.shape ∧
      ab.stored ++ acceptedBytes ab.unit (call, reply) = reply.bytes ++ after.stored := by
  have implements : Implements ab ab ab.stored := ⟨holds, rfl⟩
  have accepted := accepted_asStream ab.unit (call, reply)
  have delivered := delivered_asStream ab.unit (call, reply)
  cases (implements.step fits ran).1 with
  | shown e rest image step next =>
      have kept := Stream.conservation (.cons step (.nil rest))
      rw [image, Option.map_some, Option.getD_some] at accepted delivered
      rw [List.flatMap_singleton, List.flatMap_singleton, accepted, delivered] at kept
      rw [next.holds.stored_eq]
      exact ⟨next.holds, next.shape, kept⟩
  | hidden image next =>
      rw [image] at accepted delivered
      rw [next.holds.stored_eq, ← accepted, ← delivered]
      exact ⟨next.holds, next.shape, List.append_nil _⟩

theorem audioSourceBufferRead_nothing {asked r : Int} {data : Bytes}
    (returned : audioSourceBufferRead ab asked = some ⟨r, data, after⟩) (nothing : r ≤ 0) : data = [] := by
  simp only [audioSourceBufferRead] at returned
  split_ifs at returned <;> cases returned <;> first | rfl | contradiction

theorem perform_fill_bytes {data : Option (Mem UInt8)} {frames : Int} {n : Nat}
    (ran : perform n ab (.fill data frames) = some (reply, after)) : reply.bytes = [] := by
  obtain ⟨r, -, same⟩ := Option.map_eq_some_iff.mp ran
  cases same
  rfl

end

/-! ## All buffers -/

def AudioSetup.shape (setup : AudioSetup) : Int × Int × Int :=
  (setup.channels, setup.bitspersample,
    setup.chunkSize * 4 * setup.channels * setup.bitspersample / 8)

theorem AudioFormat.bits_div (fmt : AudioFormat) (frames : Int) :
    frames * fmt.channels * fmt.bitspersample / 8 = frames * fmt.frameunit := by
  rw [AudioFormat.frameunit, Int.mul_assoc, Int.mul_ediv_assoc frames fmt.whole]

theorem AudioSetup.some_bitspersample (setup : AudioSetup) : 0 < setup.bitspersample :=
  Int.pos_of_mul_pos_right setup.some_bits setup.some_channels

section
variable {setup : AudioSetup} {ab : AudioBuffer}

theorem AudioSetup.unit_eq (shape : ab.shape = setup.shape) : ab.unit = setup.frameunit := by
  obtain ⟨channels, rest⟩ := Prod.mk.inj shape
  obtain ⟨bits, -⟩ := Prod.mk.inj rest
  rw [AudioBuffer.unit, channels, bits, AudioFormat.frameunit]

theorem AudioSetup.bufsize_eq (shape : ab.shape = setup.shape) :
    ab.bufsize = 4 * (setup.chunkSize * setup.frameunit) := by
  obtain ⟨-, rest⟩ := Prod.mk.inj shape
  obtain ⟨-, bufsize⟩ := Prod.mk.inj rest
  have bytes := setup.bits_div (setup.chunkSize * 4)
  rw [bufsize, bytes, Int.mul_comm setup.chunkSize 4, Int.mul_assoc]

theorem AudioSetup.fits (shape : ab.shape = setup.shape) {frames : Int} (less : frames ≤ setup.chunkSize) :
    ab.Fits frames := by
  obtain ⟨channels, rest⟩ := Prod.mk.inj shape
  obtain ⟨bits, -⟩ := Prod.mk.inj rest
  have four : frames ≤ setup.chunkSize * 4 := by
    have := setup.some_chunk
    omega
  have most := Int.mul_le_mul_of_nonneg_right four (Int.le_of_lt setup.some_bits)
  have small := setup.buffer_fits
  rw [← Int.mul_assoc, ← Int.mul_assoc] at most
  rw [AudioBuffer.Fits, channels, bits]
  omega

theorem AudioSetup.init {malloc : Option (Mem UInt8)} (init : audioSourceBufferInit malloc setup.chunkSize
    setup.channels setup.bitspersample = some ab) : ab.Holds [] ∧ ab.shape = setup.shape := by
  have chunk := setup.some_chunk
  have product := setup.some_bits
  have small := setup.buffer_fits
  have fewer : setup.chunkSize * 4 ≤ setup.chunkSize * 4 * (setup.channels * setup.bitspersample) := by
    have one : 1 ≤ setup.channels * setup.bitspersample := product
    have := Int.mul_le_mul_of_nonneg_left one (show 0 ≤ setup.chunkSize * 4 by omega)
    rwa [Int.mul_one] at this
  have frames : int32 (setup.chunkSize * 4) = setup.chunkSize * 4 := by
    rw [← Int.mul_assoc] at fewer
    exact int32_of_lt (by omega) (by omega)
  have size : framesize (setup.chunkSize * 4) setup.channels setup.bitspersample =
      setup.chunkSize * 4 * setup.frameunit :=
    framesize_eq (Int.ediv_mul_cancel setup.whole).symm
      (Int.mul_nonneg (by omega) (Int.le_of_lt setup.frameunit_pos)) small
  have bytes := setup.bits_div (setup.chunkSize * 4)
  have found := init
  simp only [audioSourceBufferInit, frames] at found
  split_ifs at found
  obtain ⟨buffer, -, rfl⟩ := Option.map_eq_some_iff.mp found
  refine ⟨(AudioBuffer.holds_init ⟨?_, setup.some_channels, setup.some_bitspersample, setup.whole, ?_⟩ init).1, ?_⟩
  · dsimp only
    omega
  · rw [size, bytes]
  · rw [AudioBuffer.shape, size, AudioSetup.shape, bytes]

end

section
variable {setup : AudioSetup} {owner : ι → Int} {s t : Source ι} {l : Event ι} {i : ι}

structure Source.Sound (setup : AudioSetup) (owner : ι → Int) (s : Source ι) : Prop where
  owned : s.Owned owner
  holds : ∀ i, (s.buffers i).Holds (s.buffers i).stored
  shape : ∀ i, (s.buffers i).shape = setup.shape
  chunk : ∀ filling, s.filling = some filling → filling.frames ≤ setup.chunkSize

def Event.Chunk (setup : AudioSetup) : Event ι → Prop
  | .fill _ frames => frames ≤ setup.chunkSize
  | _ => True

theorem SourceStep.fits (step : SourceStep owner s l t) (sound : s.Sound setup owner) : FillsFit s l t := by
  cases step with
  | visit filling ran => exact AudioSetup.fits (sound.shape _) (sound.chunk _ filling)
  | fill | filled | register | unregister | wait | wake | read => trivial

theorem SourceStep.chunk (step : SourceStep owner s l t) (chunk : l.Chunk setup)
    (known : ∀ filling, s.filling = some filling → filling.frames ≤ setup.chunkSize)
    (filling : Filling ι) (some_filling : t.filling = some filling) : filling.frames ≤ setup.chunkSize := by
  cases step with
  | fill free =>
      cases some_filling
      exact chunk
  | visit visiting ran =>
      cases some_filling
      have whole := known _ visiting
      exact whole
  | filled visited => cases some_filling
  | register | unregister | wait | wake | read => exact known filling some_filling

structure Source.Moves (s t : Source ι) (l : Event ι) (i : ι) : Prop where
  holds : (t.buffers i).Holds (t.buffers i).stored
  shape : (t.buffers i).shape = (s.buffers i).shape
  silent : l.own i = none → (t.buffers i).stored = (s.buffers i).stored
  account : ∀ e, l.own i = some e →
    (s.buffers i).stored ++ acceptedBytes (s.buffers i).unit e = e.2.bytes ++ (t.buffers i).stored

theorem SourceStep.moves (step : SourceStep owner s l t) (sound : s.Sound setup owner) (i : ι) :
    s.Moves t l i := by
  cases step.acts (step.fits sound) i with
  | calls made reply jumps mine ran fits =>
      obtain ⟨holds, shape, account⟩ := (sound.holds i).performs fits ran
      refine ⟨holds, shape, ?_, ?_⟩
      · rw [mine]
        nofun
      · intro e image
        obtain rfl := Option.some.inj (mine.symm.trans image)
        exact account
  | other hidden same =>
      refine ⟨by rw [same]; exact sound.holds i, by rw [same], fun _ => by rw [same], ?_⟩
      rw [hidden]
      nofun

theorem SourceStep.performs {made : Call} {reply : Reply} (step : SourceStep owner s (.call i made reply) t) :
    ∃ n ab, perform n (s.buffers i) made = some (reply, ab) := by
  cases step with
  | visit filling ran => exact ⟨_, _, ran⟩
  | wake waiting ran => exact ⟨_, _, ran⟩
  | read ready ran => exact ⟨_, _, ran⟩

theorem SourceStep.sound (step : SourceStep owner s l t) (chunk : l.Chunk setup)
    (sound : s.Sound setup owner) : t.Sound setup owner where
  owned := step.owned sound.owned
  holds i := (step.moves sound i).holds
  shape i := (step.moves sound i).shape.trans (sound.shape i)
  chunk := step.chunk chunk sound.chunk

end

/-! ## The whole path -/

section
variable {setup : AudioSetup} {owner : ι → Int} {s t : AudioPath ι} {l : AudioPathEvent ι}
  {ls : List (AudioPathEvent ι)} {i : ι}

structure AudioPath.Sound (setup : AudioSetup) (owner : ι → Int) (s : AudioPath ι) : Prop where
  source : s.source.Sound setup owner
  running : ∀ i, decide (s.source.Registered owner i) = (s.clients i).isRunning
  client : ∀ i e, s.clients i = .running e → e.Sound setup.toAudioFormat

theorem AudioPath.Sound.apart (sound : s.Sound setup owner) {j : ι}
    (first : (s.clients i).isRunning = true) (second : (s.clients j).isRunning = true)
    (same : owner i = owner j) : i = j := by
  rw [← sound.running] at first second
  exact (of_decide_eq_true first).inj (of_decide_eq_true second) same

inductive AudioPathStep.Part (setup : AudioSetup) (owner : ι → Int) (s t : AudioPath ι)
    (l : AudioPathEvent ι) : Prop
  | source (e : Event ι) : l.source owner = some e → e.Chunk setup → SourceStep owner s.source e t.source →
      Part setup owner s t l
  | client : l.source owner = none → t.source = s.source → Part setup owner s t l

theorem AudioPathStep.part (step : AudioPathStep setup owner s l t) : AudioPathStep.Part setup owner s t l := by
  cases step with
  | record recording nonneg less taken => exact .source _ rfl less taken
  | visit taken => exact .source _ rfl trivial taken
  | filled taken => exact .source _ rfl trivial taken
  | start absent apart taken => exact .source _ rfl trivial taken
  | quit running ended taken => exact .source _ rfl trivial taken
  | wait running top awake taken => exact .source _ rfl trivial taken
  | read running taken awake encodes => exact .source _ rfl trivial taken
  | failed | encode => exact .client rfl rfl

theorem isRunning_update {clients : ι → AudioClient} {client : AudioClient} {j : ι} :
    (Function.update clients j client i).isRunning =
      if j = i then client.isRunning else (clients i).isRunning := by
  by_cases same : j = i
  · subst same
    rw [Function.update_self, if_pos rfl]
  · rw [Function.update_of_ne (Ne.symm same), if_neg same]

theorem AudioPathStep.listens (step : AudioPathStep setup owner s l t) (i : ι) :
    (t.clients i).isRunning = l.listens i (s.clients i).isRunning := by
  cases step with
  | record | failed | visit | filled | wait => rfl
  | start | quit => exact isRunning_update
  | @read j e e' asked r data source running taken awake encodes
  | @encode j e e' l running awake silent encodes =>
      have known : (s.clients j).isRunning = true := by rw [running, AudioClient.isRunning]
      rw [isRunning_update]
      by_cases same : j = i
      · subst same
        rw [if_pos rfl]
        exact known.symm
      · rw [if_neg same]
        rfl

theorem AudioPathStep.registered (step : AudioPathStep setup owner s l t) (sound : s.Sound setup owner)
    {e : Event ι} (image : l.source owner = some e) (i : ι) :
    e.registered owner i (s.clients i).isRunning = l.listens i (s.clients i).isRunning := by
  cases step with
  | record | visit | filled | wait | read =>
      cases image
      rfl
  | failed | encode => cases image
  | @start j samples baseT source absent apart taken =>
      cases image
      rw [Event.registered, AudioPathEvent.listens]
      by_cases same : j = i
      · subst same
        rw [if_pos rfl, if_pos rfl]
        exact decide_eq_true rfl
      · rw [if_neg same]
        split_ifs with tid
        · cases known : (s.clients i).isRunning with
          | true => exact absurd tid.symm (apart i known)
          | false => exact decide_eq_false fun own => same (Option.some.inj own)
        · rfl
  | @quit j e left source running ended taken =>
      cases image
      have known : (s.clients j).isRunning = true := by rw [running, AudioClient.isRunning]
      rw [Event.registered, AudioPathEvent.listens]
      by_cases same : j = i
      · rw [if_pos same, if_pos (congrArg owner same)]
      · rw [if_neg same]
        split_ifs with tid
        · cases other : (s.clients i).isRunning with
          | true => exact absurd (sound.apart known other tid) same
          | false => rfl
        · rfl

theorem running_update {clients : ι → AudioClient} {client : AudioClient} {j : ι} {e : AencoderState}
    (running : Function.update clients j client i = .running e) :
    client = .running e ∨ clients i = .running e := by
  by_cases same : j = i
  · subst same
    rw [Function.update_self] at running
    exact .inl running
  · rw [Function.update_of_ne (Ne.symm same)] at running
    exact .inr running

theorem AudioPathStep.sound (step : AudioPathStep setup owner s l t) (sound : s.Sound setup owner) :
    t.Sound setup owner where
  source := by
    cases step.part with
    | source e image chunk taken => exact taken.sound chunk sound.source
    | client image same =>
        rw [same]
        exact sound.source
  running i := by
    rw [step.listens]
    cases step.part with
    | source e image chunk taken =>
        rw [taken.registered, sound.running, step.registered sound image]
    | client image same =>
        rw [same, sound.running]
        cases step with
        | failed | encode => rfl
        | record | visit | filled | start | quit | wait | read => cases image
  client i e running := by
    cases step with
    | record | failed | visit | filled | wait => exact sound.client i e running
    | start =>
        rcases running_update running with fresh | old
        · cases fresh
          exact AencoderState.sound_start _ _ _
        · exact sound.client i e old
    | quit =>
        rcases running_update running with fresh | old
        · cases fresh
        · exact sound.client i e old
    | read earlier taken awake encodes | encode earlier awake silent encodes =>
        rcases running_update running with fresh | old
        · cases fresh
          exact encodes.sound setup.block_fits (sound.client _ _ earlier)
        · exact sound.client i e old

theorem audioPath_init (init : (audioPath setup owner).Init s) : s.Sound setup owner := by
  obtain ⟨clients, free, waiting, buffers, recording, absent⟩ := init
  have opened (i : ι) : (s.source.buffers i).Holds [] ∧ (s.source.buffers i).shape = setup.shape := by
    obtain ⟨malloc, made⟩ := buffers i
    exact AudioSetup.init made
  have nobody (tid : Int) (ab : Option ι) : (tid, ab) ∉ s.source.gClients.entries := by
    rw [clients]
    exact List.not_mem_nil
  refine ⟨⟨⟨?_, ?_⟩, fun i => (opened i).1.self, fun i => (opened i).2, ?_⟩, ?_, ?_⟩
  · intro tid i member
    exact absurd member (nobody _ _)
  · rw [free]
    nofun
  · rw [free]
    nofun
  · intro i
    rw [absent]
    exact decide_eq_false (nobody _ _)
  · intro i e running
    rw [absent] at running
    cases running

/-! ## What comes in and goes out -/

theorem visitsOf_call {j : ι} {made : Call} {reply : Reply} :
    visitsOf i [.call j made reply] = if j = i then made.filled.toList else [] := by
  by_cases same : j = i
  · subst same
    rw [if_pos rfl]
    cases made <;> simp [visitsOf, own_call, Call.filled]
  · simp [visitsOf, own_other same, same]

theorem AudioPathStep.due (step : AudioPathStep setup owner s l t) (sound : s.Sound setup owner) (i : ι) :
    s.source.due i ++ (if (s.clients i).isRunning then l.recorded else []) = l.visits i ++ t.source.due i := by
  cases step.part with
  | source e image chunk taken =>
      have account := taken.due sound.source.owned i
      have begun : e.begun (s.clients i).isRunning =
          if (s.clients i).isRunning then l.recorded else [] := by
        cases l with
        | record => cases image; rfl
        | visit | filled | start | quit | wait | read =>
            cases image
            exact (ite_self []).symm
        | failed | encode => cases image
      have visited : visitsOf i [e] = l.visits i := by
        cases l with
        | visit j data frames reply =>
            cases image
            rw [visitsOf_call]
            rfl
        | read j =>
            cases image
            rw [visitsOf_call]
            exact ite_self []
        | record | filled | start | quit | wait => cases image; rfl
        | failed | encode => cases image
      rw [sound.running, begun, visited] at account
      exact account
  | client image same =>
      rw [same]
      cases l with
      | failed | encode => simp [AudioPathEvent.recorded, AudioPathEvent.visits]
      | record | visit | filled | start | quit | wait | read => cases image

theorem AudioPathStep.stored (step : AudioPathStep setup owner s l t) (sound : s.Sound setup owner) (i : ι) :
    (s.source.buffers i).stored ++ l.accepted setup.frameunit i =
      l.reads i ++ (t.source.buffers i).stored := by
  cases step.part with
  | source e image chunk taken =>
      have moves := taken.moves sound.source i
      have unit := AudioSetup.unit_eq (sound.source.shape i)
      cases l with
      | visit j data frames reply =>
          cases image
          by_cases same : j = i
          · subst same
            have account := moves.account _ own_call
            obtain ⟨n, ab, ran⟩ := taken.performs
            rw [unit, perform_fill_bytes ran] at account
            rw [AudioPathEvent.accepted, if_pos rfl]
            exact account
          · rw [AudioPathEvent.accepted, if_neg same, moves.silent (own_other same), List.append_nil]
            rfl
      | read j asked r data =>
          cases image
          by_cases same : j = i
          · subst same
            have account := moves.account _ own_call
            rw [AudioPathEvent.reads, if_pos rfl]
            exact account
          · rw [AudioPathEvent.reads, if_neg same, moves.silent (own_other same)]
            exact List.append_nil _
      | record | filled | start | quit | wait =>
          cases image
          rw [moves.silent rfl]
          exact List.append_nil _
      | failed | encode => cases image
  | client image same =>
      rw [same]
      cases l with
      | failed | encode => exact List.append_nil _
      | record | visit | filled | start | quit | wait | read => cases image

theorem pending_update {fmt : AudioFormat} {clients : ι → AudioClient} {client : AudioClient} {j : ι} :
    (Function.update clients j client i).pending fmt =
      if j = i then client.pending fmt else (clients i).pending fmt := by
  by_cases same : j = i
  · subst same
    rw [Function.update_self, if_pos rfl]
  · rw [Function.update_of_ne (Ne.symm same), if_neg same]

theorem AudioPathStep.pending (step : AudioPathStep setup owner s l t) (sound : s.Sound setup owner) (i : ι) :
    (s.clients i).pending setup.toAudioFormat ++ l.reads i =
      (l.block i).toList.flatten ++ (t.clients i).pending setup.toAudioFormat := by
  cases step with
  | record | failed | visit | filled | wait => exact List.append_nil _
  | @start j samples baseT source absent apart taken =>
      rw [pending_update]
      split_ifs with same
      · subst same
        rw [absent]
        simp [AudioClient.pending, AencoderState.pending, AudioPathEvent.reads, AudioPathEvent.block]
      · exact List.append_nil _
  | @quit j e left source running ended taken =>
      rw [pending_update]
      split_ifs with same
      · subst same
        rw [running]
        exact List.append_nil _
      · exact List.append_nil _
  | @read j e e' asked r data source running taken awake encodes =>
      have account := encodes.balance setup.block_fits (sound.client _ _ running)
      rw [pending_update, AudioPathEvent.reads]
      split_ifs with same
      · subst same
        rw [running]
        exact account
      · exact List.append_nil _
  | @encode j e e' l running awake silent encodes =>
      have account := encodes.balance setup.block_fits (sound.client _ _ running)
      have nothing : l.samplesRead = [] := by
        cases l with
        | read => cases silent
        | block | rest | stop => rfl
      rw [nothing] at account
      rw [pending_update, AudioPathEvent.block]
      split_ifs with same
      · subst same
        rw [running]
        exact account
      · exact List.append_nil _

theorem AudioPathStep.account (step : AudioPathStep setup owner s l t) (sound : s.Sound setup owner) (i : ι) :
    s.content setup.toAudioFormat i ++ l.accepted setup.frameunit i =
      (l.block i).toList.flatten ++ t.content setup.toAudioFormat i := by
  rw [AudioPath.content, AudioPath.content, List.append_assoc, step.stored sound i, ← List.append_assoc,
    step.pending sound i, List.append_assoc]

theorem AudioPathStep.whole (step : AudioPathStep setup owner s l t) (sound : s.Sound setup owner) (i : ι)
    (kept : l.drops i = false) :
    l.accepted setup.frameunit i = bytesOf setup.frameunit (l.visits i) := by
  cases step with
  | record | failed | filled | start | quit | wait | read | encode => rfl
  | @visit j data frames reply source taken =>
      have fits := taken.fits sound.source
      obtain ⟨n, ab, ran⟩ := taken.performs
      obtain ⟨r, filled, same⟩ := Option.map_eq_some_iff.mp (perform_one ran)
      obtain ⟨rfl, -⟩ := Prod.mk.inj same
      obtain ⟨r', filled', fills⟩ := (sound.source.holds j).fills data fits
      obtain rfl := Option.some.inj (filled.symm.trans filled')
      rw [AudioPathEvent.accepted, AudioPathEvent.visits]
      split_ifs with mine
      · cases fills with
        | ignored nothing =>
            have size : frames * setup.frameunit ≤ 0 :=
              Int.mul_nonpos_of_nonpos_of_nonneg nothing (Int.le_of_lt setup.frameunit_pos)
            have empty : payload data (frames * setup.frameunit).toNat = [] := by
              rw [Int.toNat_of_nonpos size]
              exact List.length_eq_zero_iff.mp (length_payload data 0)
            rw [bytesOf, List.flatMap_singleton, empty]
            rfl
        | dropped positive full =>
            rw [AudioPathEvent.drops, decide_eq_false_iff_not] at kept
            exact absurd mine kept
        | accepted => exact (List.append_nil _).symm
      · rfl

theorem AudioPathStep.length_block (step : AudioPathStep setup owner s l t) (i : ι) {block : Bytes}
    (handed : l.block i = some block) : (block.length : Int) = setup.frameSize * setup.frameunit := by
  cases step with
  | record | failed | visit | filled | start | quit | wait | read => cases handed
  | encode running awake silent encodes =>
      rw [AudioPathEvent.block] at handed
      split_ifs at handed
      exact encodes.length_handed handed

theorem chunksFor_eq (run : (audioPath setup owner).Run s ls t) (sound : s.Sound setup owner) (i : ι) :
    s.source.due i ++ chunksFor i (s.clients i).isRunning ls =
      ls.flatMap (AudioPathEvent.visits i) ++ t.source.due i := by
  induction run with
  | nil => simp [chunksFor]
  | @cons s t u l ls taken _ ih =>
      have step : AudioPathStep setup owner s l t := taken
      rw [chunksFor, List.flatMap_cons, List.append_assoc, ← ih (step.sound sound), ← List.append_assoc,
        ← List.append_assoc, step.due sound i, step.listens i]

theorem AudioPath.Sound.fills (sound : s.Sound setup owner) (i : ι) (data : Option (Mem UInt8)) {frames : Int}
    (less : frames ≤ setup.chunkSize) :
    ∃ r, audioSourceBufferFillOne 1 (s.source.buffers i) data frames = some r ∧
      (r.outcome = .dropped →
        3 * (setup.chunkSize * setup.frameunit) < ((s.source.buffers i).stored.length : Int)) := by
  have shape := sound.source.shape i
  have size := AudioSetup.bufsize_eq shape
  have unit := AudioSetup.unit_eq shape
  have most := Int.mul_le_mul_of_nonneg_right less (Int.le_of_lt setup.frameunit_pos)
  obtain ⟨r, filled, fills⟩ := (sound.source.holds i).fills data (AudioSetup.fits shape less)
  refine ⟨r, filled, ?_⟩
  cases fills with
  | ignored nothing => nofun
  | dropped positive full =>
      intro _
      rw [size, unit] at full
      omega
  | accepted => nofun

theorem AudioPath.Sound.reads (sound : s.Sound setup owner) (i : ι) {e : AencoderState}
    (running : s.clients i = .running e) (top : e.place = .top) :
    ∃ r data after e',
      audioSourceBufferRead (s.source.buffers i) (setup.frameSize - e.nsamples) = some ⟨r, data, after⟩ ∧
      AencoderStep setup.toAudioFormat e (.read (setup.frameSize - e.nsamples) r data) e' := by
  obtain ⟨counts, less⟩ := (sound.client i e running).top top
  obtain ⟨channels, rest⟩ := Prod.mk.inj (sound.source.shape i)
  obtain ⟨bits, -⟩ := Prod.mk.inj rest
  obtain ⟨r, data, after, rest, returned, -⟩ := (sound.source.holds i).read (setup.frameSize - e.nsamples)
  obtain ⟨most, length⟩ := audioSourceBufferRead_bytes channels bits (by omega) returned
  rcases Int.lt_or_le 0 r with some_read | nothing
  · exact ⟨r, data, after, _, returned,
      @AencoderStep.read setup.toAudioFormat e r data ⟨0, 0⟩ none top most some_read (length some_read)⟩
  · obtain rfl := audioSourceBufferRead_nothing returned nothing
    exact ⟨r, [], after, e, returned, .nothing top most nothing⟩

end

/-- Every chunk that is recorded while the client runs is put to its buffer, once and in order. What the buffer
accepts is encoded in order, or is still in the buffer or in the block to come, and a chunk is dropped only
where more than three are stored. -/
structure Conserves (setup : AudioSetup) (i : ι) (ls : List (AudioPathEvent ι)) (s : AudioPath ι) : Prop where
  heard : chunksFor i false ls = ls.flatMap (AudioPathEvent.visits i) ++ s.source.due i
  accounted : ls.flatMap (AudioPathEvent.accepted setup.frameunit i) =
    (ls.filterMap (AudioPathEvent.block i)).flatten ++ s.content setup.toAudioFormat i
  lossless : (∀ l ∈ ls, l.drops i = false) → bytesOf setup.frameunit (chunksFor i false ls) =
    (ls.filterMap (AudioPathEvent.block i)).flatten ++ s.content setup.toAudioFormat i ++
      bytesOf setup.frameunit (s.source.due i)
  blocks : ∀ block ∈ ls.filterMap (AudioPathEvent.block i),
    (block.length : Int) = setup.frameSize * setup.frameunit
  fills : ∀ data frames, frames ≤ setup.chunkSize →
    ∃ r, audioSourceBufferFillOne 1 (s.source.buffers i) data frames = some r ∧
      (r.outcome = .dropped →
        3 * (setup.chunkSize * setup.frameunit) < ((s.source.buffers i).stored.length : Int))
  reads : ∀ e, s.clients i = .running e → e.place = .top → ∃ r data after e',
    audioSourceBufferRead (s.source.buffers i) (setup.frameSize - e.nsamples) = some ⟨r, data, after⟩ ∧
    AencoderStep setup.toAudioFormat e (.read (setup.frameSize - e.nsamples) r data) e'

theorem audioPath_conserves (setup : AudioSetup) (owner : ι → Int) (start s : AudioPath ι)
    (ls : List (AudioPathEvent ι)) (init : (audioPath setup owner).Init start)
    (run : (audioPath setup owner).Run start ls s) (i : ι) : Conserves setup i ls s := by
  have first : start.Sound setup owner := audioPath_init init
  have kept (s : AudioPath ι) (l : AudioPathEvent ι) (t : AudioPath ι) (sound : s.Sound setup owner)
      (step : (audioPath setup owner).Step s l t) : t.Sound setup owner := AudioPathStep.sound step sound
  have last := run.invariant kept first
  obtain ⟨-, free, -, buffers, -, absent⟩ := init
  have heard := chunksFor_eq run first i
  have nothing_due : start.source.due i = [] := by rw [Source.due, free]
  have nobody : (start.clients i).isRunning = false := by
    rw [absent]
    rfl
  rw [nothing_due, nobody, List.nil_append] at heard
  have accounted := run.balance (fun s => s.content setup.toAudioFormat i) kept
    (fun s l t sound step => AudioPathStep.account step sound i) first
  obtain ⟨malloc, made⟩ := buffers i
  have empty : start.content setup.toAudioFormat i = [] := by
    rw [AudioPath.content, absent, (AudioSetup.init made).1.stored_eq]
    rfl
  rw [empty, List.nil_append, ← System.flatten_filterMap] at accounted
  refine ⟨heard, accounted, ?_, ?_, fun data frames => last.fills i data, fun e => last.reads i⟩
  · intro none_dropped
    have restricted : ((audioPath setup owner).restrict fun _ l _ => l.drops i = false).Run start ls s :=
      run.restrict_of_forall none_dropped
    have same (s : AudioPath ι) (l : AudioPathEvent ι) (t : AudioPath ι) (sound : s.Sound setup owner)
        (step : l.drops i = false ∧ AudioPathStep setup owner s l t) :
        [] ++ l.accepted setup.frameunit i = bytesOf setup.frameunit (l.visits i) ++ [] := by
      rw [step.2.whole sound i step.1, List.append_nil, List.nil_append]
    have restricted_kept (s : AudioPath ι) (l : AudioPathEvent ι) (t : AudioPath ι)
        (sound : s.Sound setup owner) (step : l.drops i = false ∧ AudioPathStep setup owner s l t) :
        t.Sound setup owner := step.2.sound sound
    have whole := restricted.balance (fun _ => []) restricted_kept same first
    rw [List.nil_append, List.append_nil, accounted] at whole
    rw [heard, bytesOf, List.flatMap_append, List.flatMap_assoc]
    exact congrArg (· ++ _) whole.symm
  · intro block member
    obtain ⟨l, inside, handed⟩ := List.mem_filterMap.mp member
    obtain ⟨u, v, step⟩ := run.step_of_mem inside
    exact AudioPathStep.length_block step i handed

theorem audioPath_conserves_block : ∃ (setup : AudioSetup) (start s : AudioPath Unit)
    (ls : List (AudioPathEvent Unit)), (audioPath setup fun _ => 7).Run start ls s ∧
    ls = [.start (), .record (fun n => n.toUInt8) 2, .visit () (some fun n => n.toUInt8) 2 (.filled .accepted 0),
      .filled, .read () 2 2 [0, 1], .encode () (.block [0, 1] 5 .sent), .encode () .rest] ∧
    Conserves setup () ls s := by
  let setup : AudioSetup :=
    ⟨⟨2, 1, 8, 48000, by decide, by decide, by decide, by decide⟩, 2, by decide, by decide,
      by decide, by decide⟩
  let start : AudioPath Unit :=
    ⟨⟨.empty, none, fun _ => ⟨0, 8, 1, 8, 8, 0, 0, 0, fun _ => 0⟩, []⟩, true, fun _ => .absent⟩
  have asleep : ∀ j, (start.clients j).isRunning = true → (7 : Int) ≠ 7 := nofun
  have run : (audioPath setup fun _ => 7).Run start
      [.start (), .record (fun n => n.toUInt8) 2, .visit () (some fun n => n.toUInt8) 2 (.filled .accepted 0),
        .filled, .read () 2 2 [0, 1], .encode () (.block [0, 1] 5 .sent), .encode () .rest] _ :=
    .cons (@AudioPathStep.start _ _ setup _ start () (fun _ => 0) ⟨0, 0⟩ _ rfl asleep
        (.register rfl (fun _ _ => rfl)))
      (.cons (.record rfl (by decide) (by decide) (.fill rfl))
      (.cons (.visit (.visit (n := 0) rfl rfl))
      (.cons (.filled (.filled rfl))
      (.cons (.read rfl (.read (n := 0) (Or.inr (by decide)) rfl) nofun
        (@AencoderStep.read setup.toAudioFormat _ 2 [0, 1] ⟨0, 0⟩ (some 5) rfl (by decide) (by decide) rfl))
      (.cons (.encode rfl nofun rfl (@AencoderStep.block setup.toAudioFormat _ 0 .sent rfl (by decide) nofun))
      (.cons (.encode rfl nofun rfl (@AencoderStep.rest setup.toAudioFormat _ 2 rfl (by decide))) (.nil _)))))))
  refine ⟨setup, start, _, _, run, rfl, audioPath_conserves setup _ start _ _ ?_ run ()⟩
  exact ⟨rfl, rfl, rfl, fun _ => ⟨some fun _ => 0, rfl⟩, rfl, fun _ => rfl⟩

end GamingAnywhere.Audio
