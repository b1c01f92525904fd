import GamingAnywhere.Lib.Endian
import GamingAnywhere.Rtsp.Interleaved

namespace GamingAnywhere.Rtsp
open Lib

/-- What the calls of libavformat return while a packet is sent. -/
structure Muxer where
  openBuf : Bool
  writeFrame : Bool
  iobuf : Packet

/-- The buffer is written only over TCP. -/
def encoderSendPacket (write : Writes) (muxer : Muxer) (c : RTSPContext) (channelId : StreamId) : Int :=
  if c.fmtctx channelId = none then 0
  else if c.lowerTransport channelId = .tcp ∧ muxer.openBuf = false then -1
  else if muxer.writeFrame = false then -1
  else if c.lowerTransport channelId = .tcp ∧
      (rtspWriteBindataTo write channelId muxer.iobuf.buf muxer.iobuf.buflen).ret < 0 then -1
  else 0

def WritesAll (write : Writes) (call count : Nat) : Prop :=
  ∃ n, write call count = some n ∧ count ≤ n ∧ count ≤ writeMax

/-- Two calls for each frame, from `call` on. -/
def Written (write : Writes) : List Frame → Nat → Prop
  | [], _ => True
  | f :: fs, call =>
      WritesAll write call f.header.length ∧ WritesAll write (call + 1) f.payload.length ∧
        Written write fs (call + 2)

def framesOf (streamid : Nat) (p : Packet) : List Frame :=
  if p.buflen < 4 then [] else bindataFrames streamid p.buf p.buflen 0

section
variable {write : Writes} {streamid buflen i call count : Nat} {buf : Mem UInt8}

theorem rtspWrite_all {block : Nat → Bytes} (all : WritesAll write call count) :
    (rtspWrite write call block count).1 = count := by
  obtain ⟨n, taken, enough, bound⟩ := all
  rw [rtspWrite, taken]
  dsimp only
  omega

theorem pktlen_eq_zero : pktlen buf i = 0 ↔ sizeAt buf i = 0 := by
  have bound : sizeAt buf i < 4294967296 := be32_lt _ _ _ _
  rw [pktlen, int32, Int.bmod_def]
  split_ifs <;> omega

theorem pktlen_of_le (bound : sizeAt buf i ≤ writeMax) : pktlen buf i = sizeAt buf i := by
  unfold writeMax at bound
  exact int32_of_lt (by omega) (by omega)

theorem sizeT_of_le (bound : count ≤ writeMax) : sizeT count = count := by
  unfold writeMax at bound
  rw [sizeT]
  omega

theorem bindataFrames_empty (inside : i < buflen) (empty : sizeAt buf i = 0) :
    bindataFrames streamid buf buflen i = bindataFrames streamid buf buflen (i + 4) := by
  have size : be32 (buf i) (buf (i + 1)) (buf (i + 2)) (buf (i + 3)) = 0 := empty
  rw [bindataFrames, if_pos inside]
  simp only [size, ↓reduceIte]

theorem bindataFrames_frame (inside : i < buflen) (nonempty : sizeAt buf i ≠ 0) :
    bindataFrames streamid buf buflen i =
      ⟨bindataHeader streamid buf i, buf.slice (i + 4) (sizeAt buf i)⟩ ::
        bindataFrames streamid buf buflen (i + 4 + sizeAt buf i) := by
  rw [bindataFrames, if_pos inside]
  exact if_neg nonempty

theorem bindataLoop_ret (sent : Bytes) : 0 ≤ (bindataLoop write streamid buf buflen i call sent).ret := by
  induction i, call, sent using bindataLoop.induct write streamid buf buflen with
  | case1 i call sent inside empty ih => rwa [bindataLoop, if_pos inside, if_pos empty]
  | case2 i call sent inside nonempty header short =>
      have stopped : bindataLoop write streamid buf buflen i call sent = ⟨i, sent ++ header.2, false⟩ := by
        rw [bindataLoop, if_pos inside, if_neg nonempty]
        exact if_pos short
      rw [stopped]
      exact Int.natCast_nonneg i
  | case3 i call sent inside nonempty header whole body short =>
      have stopped : bindataLoop write streamid buf buflen i call sent =
          ⟨i, sent ++ header.2 ++ body.2, true⟩ := by
        rw [bindataLoop, if_pos inside, if_neg nonempty]
        exact (if_neg whole).trans (dif_pos short)
      rw [stopped]
      exact Int.natCast_nonneg i
  | case4 i call sent inside nonempty header whole body finished ih =>
      have next : bindataLoop write streamid buf buflen i call sent =
          bindataLoop write streamid buf buflen (i + (4 + pktlen buf i).toNat) (call + 2)
            (sent ++ header.2 ++ body.2) := by
        rw [bindataLoop, if_pos inside, if_neg nonempty]
        exact (if_neg whole).trans (dif_neg finished)
      rwa [next]
  | case5 i call sent outside =>
      rw [bindataLoop, if_neg outside]
      exact Int.natCast_nonneg i

theorem bindataLoop_released (sent : Bytes)
    (written : Written write (bindataFrames streamid buf buflen i) call) :
    (bindataLoop write streamid buf buflen i call sent).locked = false := by
  induction i, call, sent using bindataLoop.induct write streamid buf buflen with
  | case1 i call sent inside empty ih =>
      rw [bindataFrames_empty inside (pktlen_eq_zero.mp empty)] at written
      rw [bindataLoop, if_pos inside, if_pos empty]
      exact ih written
  | case2 i call sent inside nonempty header short =>
      rw [bindataLoop, if_pos inside, if_neg nonempty]
      exact congrArg Bindata.locked (if_pos short)
  | case3 i call sent inside nonempty header whole body short =>
      rw [bindataFrames_frame inside (mt pktlen_eq_zero.mpr nonempty)] at written
      obtain ⟨-, all, -⟩ := written
      rw [Mem.length_slice] at all
      have bound : sizeAt buf i ≤ writeMax := all.choose_spec.2.2
      have finished : body.1 = pktlen buf i := by
        rw [pktlen_of_le bound]
        dsimp only [body]
        rw [pktlen_of_le bound, sizeT_of_le bound]
        exact rtspWrite_all all
      exact absurd finished short
  | case4 i call sent inside nonempty header whole body finished ih =>
      rw [bindataFrames_frame inside (mt pktlen_eq_zero.mpr nonempty)] at written
      obtain ⟨-, all, rest⟩ := written
      rw [Mem.length_slice] at all
      have bound : sizeAt buf i ≤ writeMax := all.choose_spec.2.2
      have moved : i + (4 + pktlen buf i).toNat = i + 4 + sizeAt buf i := by
        rw [pktlen_of_le bound]
        omega
      rw [bindataLoop, if_pos inside, if_neg nonempty]
      refine (congrArg Bindata.locked ((if_neg whole).trans (dif_neg finished))).trans (ih ?_)
      rwa [moved]
  | case5 i call sent outside =>
      rw [bindataLoop, if_neg outside]

theorem rtspWriteBindataTo_ret (write : Writes) (streamid : StreamId) (p : Packet) :
    0 ≤ (rtspWriteBindataTo write streamid p.buf p.buflen).ret := by
  unfold rtspWriteBindataTo
  split_ifs
  · exact Int.natCast_nonneg _
  · exact bindataLoop_ret _

end

structure Reported (write : Writes) (streamid : StreamId) (p : Packet) : Prop where
  released : (rtspWriteBindataTo write streamid p.buf p.buflen).locked = false
  negative : ¬ Written write (framesOf streamid p) 0 →
    (rtspWriteBindataTo write streamid p.buf p.buflen).ret < 0
  packet : ∀ c : RTSPContext, c.fmtctx streamid ≠ none → c.lowerTransport streamid = .tcp →
    (encoderSendPacket write ⟨true, true, p⟩ c streamid = -1 ↔ ¬ Written write (framesOf streamid p) 0)

theorem encoderSendPacket_tcp {write : Writes} {p : Packet} {c : RTSPContext} {streamid : StreamId}
    (opened : c.fmtctx streamid ≠ none) : encoderSendPacket write ⟨true, true, p⟩ c streamid = 0 := by
  have ret := rtspWriteBindataTo_ret write streamid p
  rw [encoderSendPacket, if_neg opened, if_neg (by simp), if_neg (by simp)]
  exact if_neg fun failed => absurd failed.2 (Int.not_lt.mpr ret)

theorem rtspWriteBindata_reported_iff (write : Writes) (streamid : StreamId) (p : Packet) :
    Reported write streamid p ↔ Written write (framesOf streamid p) 0 := by
  constructor
  · intro reported
    by_contra unwritten
    have ret := rtspWriteBindataTo_ret write streamid p
    exact absurd (reported.negative unwritten) (Int.not_lt.mpr ret)
  · intro written
    refine ⟨?_, fun unwritten => absurd written unwritten, fun c opened _ => ?_⟩
    · unfold framesOf at written
      unfold rtspWriteBindataTo
      split_ifs at written ⊢ with short
      · rfl
      · exact bindataLoop_released _ written
    · rw [encoderSendPacket_tcp opened]
      exact ⟨nofun, fun unwritten => absurd written unwritten⟩

theorem not_rtspWriteBindata_reported :
    ¬ ∀ (write : Writes) (streamid : StreamId) (p : Packet), Reported write streamid p := by
  intro reported
  have released := (reported (fun call _ => some (if call = 0 then 4 else 1)) 0
    ⟨Mem.store (fun _ => 0) 0 [0, 0, 0, 2, 7, 8], 6⟩).released
  exact absurd released (by decide +kernel)

end GamingAnywhere.Rtsp
