import GamingAnywhere.Lib.Bytes
import GamingAnywhere.Lib.Memory
import GamingAnywhere.Lib.Transition

/-!
# Audio playback

`audio_fill_buffer` serves the requests of the audio device from `audiobuf`, which it fills from the packets
of a queue: decoded frames as far as they fit, and silence where decoding fails. `cap` is `abmaxsize`. The
positions are unsigned, and the bytes that `bcopy` and `bzero` write are those of a flat memory.
-/

namespace GamingAnywhere.Client
open Lib

structure AudioBuffer where
  audiobuf : Mem UInt8
  absize : Nat
  abpos : Nat

structure AudioFrame where
  srcbuf : Mem UInt8
  datalen : Nat
  isInt : datalen < 2147483648

def AudioFrame.bytes (f : AudioFrame) : Bytes := f.srcbuf.slice 0 f.datalen

/-- An answer of the decoder: a failure, or how much it has consumed and the frame that it has got. It is
`fatal` where that frame cannot be converted, and the program exits. -/
inductive Decoded
  | failed
  | silent (len : Nat)
  | frame (len : Nat) (f : AudioFrame)
  | fatal

structure Write where
  start : Nat
  bytes : Bytes

def silence : Bytes := List.replicate 1024 0

theorem length_silence : silence.length = 1024 := List.length_replicate

namespace AudioBuffer

def available (ab : AudioBuffer) : Nat := uint32 (ab.absize - ab.abpos)

def peek (ab : AudioBuffer) (ssize : Nat) : Bytes := ab.audiobuf.slice ab.abpos ssize

def skip (ab : AudioBuffer) (ssize : Nat) : AudioBuffer := { ab with abpos := uint32 (ab.abpos + ssize) }

def compact (ab : AudioBuffer) : AudioBuffer where
  audiobuf := ab.audiobuf.bcopy ab.abpos 0 ab.available
  absize := uint32 (ab.absize - ab.abpos)
  abpos := 0

def fillSilence (ab : AudioBuffer) : AudioBuffer :=
  { ab with audiobuf := ab.audiobuf.store ab.absize silence, absize := uint32 (ab.absize + 1024) }

def datalen (cap : Nat) (ab : AudioBuffer) (f : AudioFrame) : Int :=
  if cap < uint32 (ab.absize + f.datalen) then
    int32 (f.datalen - uint32 (uint32 (ab.absize + f.datalen) - cap))
  else f.datalen

def cut (cap : Nat) (ab : AudioBuffer) (f : AudioFrame) : Bytes :=
  f.srcbuf.slice 0 (sizeT (ab.datalen cap f))

def append (cap : Nat) (ab : AudioBuffer) (f : AudioFrame) : AudioBuffer :=
  { ab with audiobuf := ab.audiobuf.store ab.absize (ab.cut cap f)
            absize := uint32 (ab.absize + ab.datalen cap f) }

end AudioBuffer

inductive Round
  | next (ab : AudioBuffer) (size : Int)
  | silence (ab : AudioBuffer)
  | exit

def decodeRound (cap : Nat) (ab : AudioBuffer) (size : Int) : Decoded → Round
  | .failed => .silence ab.fillSilence
  | .silent len => .next ab (size - len)
  | .frame len f => .next (ab.append cap f) (size - len)
  | .fatal => .exit

def Decoded.write (cap : Nat) (ab : AudioBuffer) : Decoded → Option Write
  | .failed => some ⟨ab.absize, Client.silence⟩
  | .frame _ f => some ⟨ab.absize, ab.cut cap f⟩
  | .silent _ | .fatal => none

/-! ## Requests -/

inductive Point
  | idle
  | again (ssize : Nat)
  | decoding (ssize : Nat) (size : Int)

structure Playback where
  ab : AudioBuffer
  audioq : List Bytes
  point : Point

inductive Event
  | put (pkt : Bytes)
  | request (ssize : Nat)
  | deliver (stream : Bytes)
  | get (pkt : Bytes) (w : Write)
  | decode (d : Decoded) (w : Option Write)
  | free

/-- `packet_queue_put` may come at any time, and `packet_queue_get` waits for it. -/
inductive Step (cap : Nat) : Playback → Event → Playback → Prop
  | put {s : Playback} {pkt : Bytes} : Step cap s (.put pkt) { s with audioq := s.audioq ++ [pkt] }
  | request {s : Playback} {ssize : Nat} : s.point = .idle → 0 < ssize → ssize ≤ cap →
      Step cap s (.request ssize) { s with point := .again ssize }
  | deliver {s : Playback} {ssize : Nat} : s.point = .again ssize → ssize ≤ s.ab.available →
      Step cap s (.deliver (s.ab.peek ssize)) { s with ab := s.ab.skip ssize, point := .idle }
  | get {s : Playback} {ssize : Nat} {pkt : Bytes} {rest : List Bytes} : s.point = .again ssize →
      s.ab.available < ssize → s.audioq = pkt :: rest →
      Step cap s (.get pkt ⟨0, s.ab.peek s.ab.available⟩)
        { ab := s.ab.compact, audioq := rest, point := .decoding ssize pkt.length }
  | decode {s : Playback} {ssize : Nat} {size size' : Int} {d : Decoded} {ab' : AudioBuffer} :
      s.point = .decoding ssize size → 0 < size → decodeRound cap s.ab size d = .next ab' size' →
      Step cap s (.decode d (d.write cap s.ab)) { s with ab := ab', point := .decoding ssize size' }
  | fail {s : Playback} {ssize : Nat} {size : Int} {d : Decoded} {ab' : AudioBuffer} :
      s.point = .decoding ssize size → 0 < size → decodeRound cap s.ab size d = .silence ab' →
      Step cap s (.decode d (d.write cap s.ab)) { s with ab := ab', point := .again ssize }
  | free {s : Playback} {ssize : Nat} {size : Int} : s.point = .decoding ssize size → ¬ 0 < size →
      Step cap s .free { s with point := .again ssize }

def playback (cap : Nat) : System Playback Event where
  Init s := s.ab.absize = 0 ∧ s.ab.abpos = 0 ∧ s.point = .idle
  Step := Step cap

def Event.write : Event → Option Write
  | get _ w => some w
  | decode _ w => w
  | _ => none

def Event.delivered : Event → Bytes
  | deliver stream => stream
  | _ => []

/-- What a decode is to contribute: its frame as far as it has been kept, or silence in its place. -/
def Event.decoded : Event → Bytes
  | decode .failed _ => silence
  | decode _ w => w.elim [] Write.bytes
  | _ => []

/-! ## What the buffer keeps to -/

structure AudioBuffer.Valid (cap : Nat) (ab : AudioBuffer) : Prop where
  pos : ab.abpos ≤ ab.absize
  size : ab.absize ≤ cap

def InBounds (cap : Nat) (s : Playback) (l : Event) (t : Playback) : Prop :=
  ∀ w, l.write = some w → s.ab.Valid cap ∧ w.start + w.bytes.length ≤ cap ∧ t.ab.Valid cap

def CutByCapacity (cap : Nat) (_ : Playback) (l : Event) (t : Playback) : Prop :=
  ∀ len f w, l = .decode (.frame len f) w →
    l.decoded <+: f.bytes ∧ (l.decoded = f.bytes ∨ t.ab.absize = cap)

structure InOrder (cap : Nat) (s : Playback) (ls : List Event) (t : Playback) : Prop where
  bounds : ((playback cap).restrict (InBounds cap)).Run s ls t
  cuts : ((playback cap).restrict (CutByCapacity cap)).Run s ls t
  order : ls.flatMap Event.delivered <+: ls.flatMap Event.decoded

def Room (cap : Nat) (s : Playback) (l : Event) (_ : Playback) : Prop :=
  ∀ w, l = .decode .failed w → s.ab.absize + 1024 ≤ cap

/-! ## The operations -/

namespace AudioBuffer

def buffered (ab : AudioBuffer) : Bytes := ab.audiobuf.slice ab.abpos (ab.absize - ab.abpos)

variable {cap : Nat} {ab : AudioBuffer}

theorem Valid.available_eq (valid : ab.Valid cap) (small : cap < 2147483648) :
    ab.available = ab.absize - ab.abpos := by
  have pos := valid.pos
  have size := valid.size
  rw [available, uint32_of_lt (by omega) (by omega)]
  omega

theorem Valid.skip (valid : ab.Valid cap) (small : cap < 2147483648) {ssize : Nat}
    (enough : ssize ≤ ab.available) :
    (ab.skip ssize).Valid cap ∧ ab.buffered = ab.peek ssize ++ (ab.skip ssize).buffered := by
  rw [valid.available_eq small] at enough
  have pos := valid.pos
  have size := valid.size
  have next : uint32 (ab.abpos + ssize) = ab.abpos + ssize := by
    rw [uint32_of_lt (by omega) (by omega)]
    omega
  refine ⟨⟨?_, size⟩, ?_⟩
  · rw [AudioBuffer.skip, next]
    change ab.abpos + ssize ≤ ab.absize
    omega
  · have split : ab.absize - ab.abpos = ssize + (ab.absize - (ab.abpos + ssize)) := by omega
    rw [buffered, buffered, AudioBuffer.skip, next, split, Mem.slice_add]
    rfl

theorem Valid.compact (valid : ab.Valid cap) (small : cap < 2147483648) :
    ab.compact.Valid cap ∧ ab.compact.buffered = ab.buffered := by
  have pos := valid.pos
  have size := valid.size
  have left : uint32 (ab.absize - ab.abpos) = ab.absize - ab.abpos := valid.available_eq small
  refine ⟨⟨Nat.zero_le _, ?_⟩, ?_⟩
  · rw [AudioBuffer.compact, left]
    change ab.absize - ab.abpos ≤ cap
    omega
  · rw [buffered, AudioBuffer.compact, left, valid.available_eq small, Nat.sub_zero]
    exact ab.audiobuf.slice_bcopy ab.abpos 0 _

theorem buffered_store (valid : ab.Valid cap) (bytes : Bytes) :
    buffered ⟨ab.audiobuf.store ab.absize bytes, ab.absize + bytes.length, ab.abpos⟩ =
      ab.buffered ++ bytes := by
  have pos := valid.pos
  have start : ab.abpos + (ab.absize - ab.abpos) = ab.absize := by omega
  have length : ab.absize + bytes.length - ab.abpos = ab.absize - ab.abpos + bytes.length := by omega
  have appended := ab.audiobuf.slice_store_append ab.abpos (ab.absize - ab.abpos) bytes
  rw [start] at appended
  rw [buffered, length]
  exact appended

theorem Valid.fillSilence (valid : ab.Valid cap) (small : cap < 2147483648)
    (room : ab.absize + 1024 ≤ cap) :
    ab.fillSilence.Valid cap ∧ ab.fillSilence.buffered = ab.buffered ++ silence := by
  have pos := valid.pos
  have next : uint32 (ab.absize + 1024) = ab.absize + silence.length := by
    rw [uint32_of_lt (by omega) (by omega), length_silence]
    omega
  rw [AudioBuffer.fillSilence, next]
  refine ⟨⟨?_, ?_⟩, buffered_store valid silence⟩
  · exact Nat.le_trans pos (Nat.le_add_right _ _)
  · rw [length_silence]
    exact room

theorem Valid.datalen_eq (valid : ab.Valid cap) (small : cap < 2147483648) (f : AudioFrame) :
    ab.datalen cap f = (min f.datalen (cap - ab.absize) : Nat) := by
  have size := valid.size
  have isInt := f.isInt
  have sum : uint32 (ab.absize + f.datalen) = ab.absize + f.datalen := by
    rw [uint32_of_lt (by omega) (by omega)]
    omega
  rw [datalen, sum]
  split_ifs with long
  · have excess : uint32 (((ab.absize + f.datalen : Nat) : Int) - cap) = ab.absize + f.datalen - cap := by
      rw [uint32_of_lt (by omega) (by omega)]
      omega
    rw [excess, int32_of_lt (by omega) (by omega)]
    omega
  · omega

theorem Valid.cut_eq (valid : ab.Valid cap) (small : cap < 2147483648) (f : AudioFrame) :
    ab.cut cap f = f.bytes.take (cap - ab.absize) := by
  have isInt := f.isInt
  have count : sizeT (ab.datalen cap f) = min f.datalen (cap - ab.absize) := by
    rw [valid.datalen_eq small f, sizeT_natCast (by omega)]
  rw [cut, count, AudioFrame.bytes, ← Mem.take_slice _ _ _ _ (Nat.min_le_left ..), List.take_eq_take_iff]
  rw [Mem.length_slice]
  omega

theorem Valid.length_cut (valid : ab.Valid cap) (small : cap < 2147483648) (f : AudioFrame) :
    (ab.cut cap f).length = min f.datalen (cap - ab.absize) := by
  rw [valid.cut_eq small, List.length_take, AudioFrame.bytes, Mem.length_slice, Nat.min_comm]

theorem Valid.append (valid : ab.Valid cap) (small : cap < 2147483648) (f : AudioFrame) :
    (ab.append cap f).Valid cap ∧ (ab.append cap f).buffered = ab.buffered ++ ab.cut cap f ∧
      (ab.append cap f).absize = ab.absize + (ab.cut cap f).length := by
  have pos := valid.pos
  have size := valid.size
  have length := valid.length_cut small f
  have next : uint32 (ab.absize + ab.datalen cap f) = ab.absize + (ab.cut cap f).length := by
    rw [valid.datalen_eq small f, length, uint32_of_lt (by omega) (by omega)]
    omega
  rw [AudioBuffer.append, next]
  refine ⟨⟨?_, ?_⟩, buffered_store valid _, rfl⟩
  · exact Nat.le_trans pos (Nat.le_add_right _ _)
  · rw [length]
    change ab.absize + min f.datalen (cap - ab.absize) ≤ cap
    omega

end AudioBuffer

/-! ## Runs -/

section
variable {cap : Nat} {s t : Playback} {l : Event} {ls : List Event}

theorem decodeRound_next {ab ab' : AudioBuffer} {size size' : Int} {d : Decoded}
    (round : decodeRound cap ab size d = .next ab' size') :
    ((∃ len, d = .silent len) ∧ ab' = ab) ∨ ∃ len f, d = .frame len f ∧ ab' = ab.append cap f := by
  cases d with
  | failed => cases round
  | silent len =>
      cases round
      exact Or.inl ⟨⟨len, rfl⟩, rfl⟩
  | frame len f =>
      cases round
      exact Or.inr ⟨len, f, rfl, rfl⟩
  | fatal => cases round

theorem decodeRound_silence {ab ab' : AudioBuffer} {size : Int} {d : Decoded}
    (round : decodeRound cap ab size d = .silence ab') : d = .failed ∧ ab' = ab.fillSilence := by
  cases d with
  | failed =>
      cases round
      exact ⟨rfl, rfl⟩
  | silent len => cases round
  | frame len f => cases round
  | fatal => cases round

theorem step_spec (small : cap < 2147483648) (valid : s.ab.Valid cap) (room : Room cap s l t)
    (step : Step cap s l t) :
    t.ab.Valid cap ∧ s.ab.buffered ++ l.decoded = l.delivered ++ t.ab.buffered ∧ InBounds cap s l t ∧
      CutByCapacity cap s l t := by
  cases step with
  | put | request | free => exact ⟨valid, List.append_nil _, nofun, nofun⟩
  | deliver at_again enough =>
      obtain ⟨kept, bytes⟩ := valid.skip small enough
      exact ⟨kept, (List.append_nil _).trans bytes, nofun, nofun⟩
  | get at_again short queued =>
      obtain ⟨kept, bytes⟩ := valid.compact small
      refine ⟨kept, (List.append_nil _).trans bytes.symm, ?_, nofun⟩
      intro w written
      obtain rfl := Option.some.inj written
      refine ⟨valid, ?_, kept⟩
      have size := valid.size
      change 0 + (s.ab.peek s.ab.available).length ≤ cap
      rw [AudioBuffer.peek, Mem.length_slice, valid.available_eq small]
      omega
  | @decode ssize size size' d ab' at_decoding left round =>
      rcases decodeRound_next round with ⟨⟨len, rfl⟩, rfl⟩ | ⟨len, f, rfl, rfl⟩
      · exact ⟨valid, List.append_nil _, nofun, nofun⟩
      · obtain ⟨kept, bytes, absize⟩ := valid.append small f
        refine ⟨kept, bytes.symm, ?_, ?_⟩
        · intro w written
          obtain rfl := Option.some.inj written
          have within := kept.size
          rw [absize] at within
          exact ⟨valid, within, kept⟩
        · rintro _ _ _ ⟨⟩
          have size := valid.size
          have length : f.bytes.length = f.datalen := Mem.length_slice ..
          change s.ab.cut cap f <+: f.bytes ∧ (s.ab.cut cap f = f.bytes ∨ (s.ab.append cap f).absize = cap)
          rw [absize, valid.length_cut small, valid.cut_eq small]
          refine ⟨List.take_prefix _ _, ?_⟩
          rcases Nat.le_total f.datalen (cap - s.ab.absize) with whole | part
          · exact Or.inl (List.take_of_length_le (by rw [length]; exact whole))
          · right
            omega
  | @fail ssize size d ab' at_decoding left round =>
      obtain ⟨rfl, rfl⟩ := decodeRound_silence round
      obtain ⟨kept, bytes⟩ := valid.fillSilence small (room _ rfl)
      refine ⟨kept, bytes.symm, ?_, nofun⟩
      intro w written
      obtain rfl := Option.some.inj written
      refine ⟨valid, ?_, kept⟩
      rw [length_silence]
      exact room _ rfl

theorem valid_init (init : (playback cap).Init s) : s.ab.Valid cap := by
  obtain ⟨absize, abpos, -⟩ := init
  exact ⟨by rw [abpos]; exact Nat.zero_le _, by rw [absize]; exact Nat.zero_le _⟩

theorem room_of_inBounds (inBounds : InBounds cap s l t) (step : Step cap s l t) : Room cap s l t := by
  rintro w rfl
  cases step with
  | @fail ssize size d ab' at_decoding left round =>
      have within := (inBounds _ rfl).2.1
      rw [length_silence] at within
      exact within
  | decode at_decoding left round => cases round

theorem inOrder_of_room (small : cap < 2147483648) (init : (playback cap).Init s)
    (run : ((playback cap).restrict (Room cap)).Run s ls t) : InOrder cap s ls t := by
  have valid := valid_init init
  have empty : s.ab.buffered = [] := by
    rw [AudioBuffer.buffered, init.1, init.2.1]
    rfl
  have spec (s : Playback) (l : Event) (t : Playback) (valid : s.ab.Valid cap)
      (step : ((playback cap).restrict (Room cap)).Step s l t) :=
    step_spec small valid step.1 step.2
  refine ⟨run.restrict_imp (I := fun s => s.ab.Valid cap) ?_ ?_ valid,
    run.restrict_imp (I := fun s => s.ab.Valid cap) ?_ ?_ valid, ?_⟩
  · intro s l t valid room step
    exact (spec s l t valid ⟨room, step⟩).1
  · intro s l t valid room step
    exact (spec s l t valid ⟨room, step⟩).2.2.1
  · intro s l t valid room step
    exact (spec s l t valid ⟨room, step⟩).1
  · intro s l t valid room step
    exact (spec s l t valid ⟨room, step⟩).2.2.2
  · have all := run.balance (I := fun s => s.ab.Valid cap) (fun s => s.ab.buffered)
      (fun s l t valid step => (spec s l t valid step).1)
      (fun s l t valid step => (spec s l t valid step).2.1) valid
    rw [empty, List.nil_append] at all
    exact ⟨t.ab.buffered, all.symm⟩

theorem room_of_inOrder (inOrder : InOrder cap s ls t) :
    ((playback cap).restrict (Room cap)).Run s ls t :=
  inOrder.bounds.restrict_imp (I := fun _ => True) (fun _ _ _ _ _ _ => trivial)
    (fun _ _ _ _ inBounds step => room_of_inBounds inBounds step) trivial

theorem audioFillBuffer_inOrder_iff (small : cap < 2147483648) (init : (playback cap).Init s) :
    InOrder cap s ls t ↔ ((playback cap).restrict (Room cap)).Run s ls t :=
  ⟨room_of_inOrder, inOrder_of_room small init⟩

/-! ## Decoding that fails -/

def start (audiobuf : Mem UInt8) : Playback := ⟨⟨audiobuf, 0, 0⟩, [], .idle⟩

theorem step_get (audiobuf : Mem UInt8) (pkt : Bytes) :
    Step 768000 ⟨⟨audiobuf, 0, 0⟩, [pkt], .again 1⟩ (.get pkt ⟨0, []⟩)
      ⟨⟨audiobuf, 0, 0⟩, [], .decoding 1 pkt.length⟩ := by
  have same : (AudioBuffer.mk audiobuf 0 0).compact = ⟨audiobuf, 0, 0⟩ :=
    congrArg (AudioBuffer.mk · 0 0) (audiobuf.store_nil 0)
  have get : Step 768000 ⟨⟨audiobuf, 0, 0⟩, [pkt], .again 1⟩ (.get pkt ⟨0, []⟩)
      ⟨(AudioBuffer.mk audiobuf 0 0).compact, [], .decoding 1 pkt.length⟩ := .get rfl Nat.one_pos rfl
  rwa [same] at get

theorem audioFillBuffer_inOrder_failed :
    ∃ ls t w, InOrder 768000 (start fun _ => 0) ls t ∧ Event.decode .failed w ∈ ls := by
  have small : 768000 < 2147483648 := by decide
  have init : (playback 768000).Init (start fun _ => 0) := ⟨rfl, rfl, rfl⟩
  have fail : Step 768000 ⟨⟨fun _ => 0, 0, 0⟩, [], .decoding 1 1⟩ (.decode .failed (some ⟨0, silence⟩))
      ⟨AudioBuffer.fillSilence ⟨fun _ => 0, 0, 0⟩, [], .again 1⟩ := .fail rfl (by decide) rfl
  have run : ((playback 768000).restrict (Room 768000)).Run (start fun _ => 0)
      [.put [7], .request 1, .get [7] ⟨0, []⟩, .decode .failed (some ⟨0, silence⟩)]
      ⟨AudioBuffer.fillSilence ⟨fun _ => 0, 0, 0⟩, [], .again 1⟩ :=
    .cons ⟨nofun, .put⟩ (.cons ⟨nofun, .request rfl Nat.one_pos (by decide)⟩
      (.cons ⟨nofun, step_get _ [7]⟩ (.cons ⟨fun _ _ => by decide, fail⟩ (.nil _))))
  exact ⟨_, _, _, (audioFillBuffer_inOrder_iff small init).mpr run, List.mem_of_getElem? (i := 3) rfl⟩

theorem not_audioFillBuffer_inOrder :
    ¬ ∀ s ls t, (playback 768000).Init s → (playback 768000).Run s ls t → InOrder 768000 s ls t := by
  intro inOrder
  have small : 768000 < 2147483648 := by decide
  obtain ⟨f, datalen⟩ : ∃ f : AudioFrame, f.datalen = 768000 := ⟨⟨fun _ => 0, 768000, by decide⟩, rfl⟩
  let ab : AudioBuffer := ⟨fun _ => 0, 0, 0⟩
  have valid : ab.Valid 768000 := ⟨Nat.le_refl 0, Nat.zero_le _⟩
  have full : (ab.append 768000 f).absize = 768000 := by
    rw [(valid.append small f).2.2, valid.length_cut small f, datalen]
    decide
  have decode : Step 768000 ⟨ab, [], .decoding 1 2⟩ (.decode (.frame 1 f) (some ⟨0, ab.cut 768000 f⟩))
      ⟨ab.append 768000 f, [], .decoding 1 1⟩ := .decode rfl (by decide) rfl
  have fail : Step 768000 ⟨ab.append 768000 f, [], .decoding 1 1⟩
      (.decode .failed (some ⟨(ab.append 768000 f).absize, silence⟩))
      ⟨(ab.append 768000 f).fillSilence, [], .again 1⟩ := .fail rfl (by decide) rfl
  have bounds := (inOrder (start fun _ => 0) _ _ ⟨rfl, rfl, rfl⟩
    (.cons .put (.cons (.request rfl Nat.one_pos (by decide)) (.cons (step_get _ [7, 8])
      (.cons decode (.cons fail (.nil _))))))).bounds
  have member : Event.decode .failed (some ⟨(ab.append 768000 f).absize, silence⟩) ∈
      [.put [7, 8], .request 1, .get [7, 8] ⟨0, []⟩, .decode (.frame 1 f) (some ⟨0, ab.cut 768000 f⟩),
        .decode .failed (some ⟨(ab.append 768000 f).absize, silence⟩)] :=
    List.mem_of_getElem? (i := 4) rfl
  obtain ⟨u, v, inBounds, -⟩ := bounds.step_of_mem member
  have within := (inBounds _ rfl).2.1
  rw [length_silence, full] at within
  exact absurd within (by decide)

end

end GamingAnywhere.Client
