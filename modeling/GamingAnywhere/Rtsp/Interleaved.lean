import GamingAnywhere.Rtsp.Calls
import GamingAnywhere.Rtsp.Wire

namespace GamingAnywhere.Rtsp
open Lib Framing

/-! ## The writer -/

/-- The number of bytes that each call of `write`, given its position and size, takes over; `none` for
a failure. -/
abbrev Writes := Nat → Nat → Option Nat

def writeMax : Nat := 0x7ffff000

def rtspWrite (write : Writes) (call : Nat) (buf : Nat → Bytes) (count : Nat) : Int × Bytes :=
  match write call count with
  | none => (-1, [])
  | some n =>
      let taken := min n (min count writeMax)
      (taken, buf taken)

theorem rtspWrite_ret (write : Writes) (call : Nat) (buf : Nat → Bytes) (count : Nat) :
    -1 ≤ (rtspWrite write call buf count).1 := by
  unfold rtspWrite
  split
  · exact Int.le_refl _
  · exact Int.le_trans (by decide) (Int.natCast_nonneg _)

structure Bindata where
  ret : Int
  sent : Bytes
  locked : Bool

def sizeT (n : Int) : Nat := (n % 18446744073709551616).toNat

def sizeAt (buf : Mem UInt8) (i : Nat) : Nat := be32 (buf i) (buf (i + 1)) (buf (i + 2)) (buf (i + 3))

def pktlen (buf : Mem UInt8) (i : Nat) : Int := int32 (sizeAt buf i)

def bindataHeader (streamid : Nat) (buf : Mem UInt8) (i : Nat) : Bytes :=
  [dollar, UInt8.ofNat (streamid * 2), UInt8.ofNat (sizeAt buf i / 256), UInt8.ofNat (sizeAt buf i)]

/-- The loop of `rtsp_write_bindata` from offset `i` on, where `call` writes have put `sent` on the
stream. -/
def bindataLoop (write : Writes) (streamid : Nat) (buf : Mem UInt8) (buflen i call : Nat)
    (sent : Bytes) : Bindata :=
  if i < buflen then
    if pktlen buf i = 0 then bindataLoop write streamid buf buflen (i + 4) call sent
    else
      let header := rtspWrite write call (bindataHeader streamid buf i).take 4
      if header.1 ≠ 4 then ⟨i, sent ++ header.2, false⟩
      else
        let body := rtspWrite write (call + 1) (buf.slice (i + 4)) (sizeT (pktlen buf i))
        if _unfinished : body.1 ≠ pktlen buf i then ⟨i, sent ++ header.2 ++ body.2, true⟩
        else
          bindataLoop write streamid buf buflen (i + (4 + pktlen buf i).toNat) (call + 2)
            (sent ++ header.2 ++ body.2)
  else ⟨i, sent, false⟩
termination_by buflen - i
decreasing_by
  · omega
  · have whole : (rtspWrite write (call + 1) (buf.slice (i + 4)) (sizeT (pktlen buf i))).1 =
        pktlen buf i := not_not.mp _unfinished
    have := rtspWrite_ret write (call + 1) (buf.slice (i + 4)) (sizeT (pktlen buf i))
    omega

def rtspWriteBindataTo (write : Writes) (streamid : Nat) (buf : Mem UInt8) (buflen : Nat) : Bindata :=
  if buflen < 4 then ⟨buflen, [], false⟩ else bindataLoop write streamid buf buflen 0 0 []

/-! ## A buffer of packets -/

/-- What `ffio_open_dyn_packet_buf` makes of the packets. -/
def dynPacketBuf (packets : List Bytes) : Bytes := packets.flatMap fun p => bytes32 p.length ++ p

def interleavedFrame (streamid : Nat) (packet : Bytes) : Bytes :=
  dollar :: UInt8.ofNat (streamid * 2) :: UInt8.ofNat (packet.length / 256) ::
    UInt8.ofNat packet.length :: packet

section
variable {buf : Mem UInt8} {i : Nat} {p : Bytes} {packets : List Bytes}

def maxPacketSize : Nat := 1472

structure LaidAt (buf : Mem UInt8) (i : Nat) (p : Bytes) (packets : List Bytes) : Prop where
  size : sizeAt buf i = p.length
  body : buf.slice (i + 4) p.length = p
  rest : buf.slice (i + 4 + p.length) (dynPacketBuf packets).length = dynPacketBuf packets

theorem length_bytes32 (n : Nat) : (bytes32 n).length = 4 := rfl

theorem dynPacketBuf_cons (p : Bytes) (packets : List Bytes) :
    dynPacketBuf (p :: packets) = bytes32 p.length ++ p ++ dynPacketBuf packets := by
  simp [dynPacketBuf]

theorem laidAt (laid : buf.slice i (dynPacketBuf (p :: packets)).length = dynPacketBuf (p :: packets))
    (small : p.length ≤ maxPacketSize) : LaidAt buf i p packets := by
  have length : (dynPacketBuf (p :: packets)).length = 4 + p.length + (dynPacketBuf packets).length := by
    rw [dynPacketBuf_cons, List.length_append, List.length_append, length_bytes32]
  rw [length, Mem.slice_add, Mem.slice_add, dynPacketBuf_cons] at laid
  have parts := List.append_inj laid (by simp [length_bytes32])
  have header := List.append_inj parts.1 (by simp [length_bytes32])
  refine ⟨?_, header.2, ?_⟩
  · have cells := header.1
    simp only [Mem.slice_succ, Mem.slice_zero, bytes32, List.cons.injEq, and_true] at cells
    obtain ⟨a, b, c, d⟩ := cells
    rw [sizeAt, a, b, c, d]
    apply be32_ofNat
    unfold maxPacketSize at small
    omega
  · rw [Nat.add_assoc]
    exact parts.2

theorem LaidAt.pktlen (laid : LaidAt buf i p packets) (small : p.length ≤ maxPacketSize) :
    Rtsp.pktlen buf i = p.length := by
  unfold maxPacketSize at small
  rw [Rtsp.pktlen, laid.size]
  exact int32_of_lt (by omega) (by omega)

theorem packets_rec {motive : Nat → List Bytes → Prop} {buflen : Nat} (last : motive buflen [])
    (next : ∀ i p packets, LaidAt buf i p packets → p.length ≤ maxPacketSize → i < buflen →
      motive (i + 4 + p.length) packets → motive i (p :: packets))
    (small : ∀ p ∈ packets, p.length ≤ maxPacketSize)
    (laid : buf.slice i (dynPacketBuf packets).length = dynPacketBuf packets)
    (whole : i + (dynPacketBuf packets).length = buflen) : motive i packets := by
  induction packets generalizing i with
  | nil =>
      have reached : i = buflen := whole
      rw [reached]
      exact last
  | cons p packets ih =>
      have first : p.length ≤ maxPacketSize := small p List.mem_cons_self
      have at' := laidAt laid first
      rw [dynPacketBuf_cons, List.length_append, List.length_append, length_bytes32] at whole
      apply next i p packets at' first (by omega)
      exact ih (fun q member => small q (List.mem_cons_of_mem _ member)) at'.rest (by omega)

/-! ## Writes that complete -/

def complete : Writes := fun _ count => some count

theorem rtspWrite_complete {call count : Nat} {block : Nat → Bytes} (le : count ≤ writeMax) :
    rtspWrite complete call block count = ((count : Int), block count) := by
  have taken : min count (min count writeMax) = count := by omega
  rw [rtspWrite, complete]
  dsimp only
  rw [taken]

theorem bindataLoop_empty {streamid buflen call : Nat} {sent : Bytes} (laid : LaidAt buf i [] packets)
    (inside : i < buflen) :
    bindataLoop complete streamid buf buflen i call sent =
      bindataLoop complete streamid buf buflen (i + 4) call sent := by
  have empty : pktlen buf i = 0 := laid.pktlen (Nat.zero_le _)
  rw [bindataLoop, if_pos inside, if_pos empty]

theorem bindataLoop_packet {streamid buflen call : Nat} {sent : Bytes}
    (laid : LaidAt buf i p packets) (small : p.length ≤ maxPacketSize) (nonempty : p ≠ [])
    (inside : i < buflen) :
    bindataLoop complete streamid buf buflen i call sent =
      bindataLoop complete streamid buf buflen (i + 4 + p.length) (call + 2)
        (sent ++ interleavedFrame streamid p) := by
  have size := laid.pktlen small
  have positive := List.length_pos_iff.mpr nonempty
  have bound : p.length ≤ writeMax := Nat.le_trans small (by decide)
  have offered : sizeT p.length = p.length := by
    unfold writeMax at bound
    rw [sizeT]
    omega
  have moved : i + (4 + (p.length : Int)).toNat = i + 4 + p.length := by omega
  have header : rtspWrite complete call (bindataHeader streamid buf i).take 4 =
      (4, bindataHeader streamid buf i) := rtspWrite_complete (by decide)
  have body : rtspWrite complete (call + 1) (buf.slice (i + 4)) p.length = ((p.length : Int), p) := by
    rw [rtspWrite_complete bound, laid.body]
  rw [bindataLoop, if_pos inside, if_neg (by omega)]
  simp only [header, size, offered, body, moved, ne_eq, not_true_eq_false, ↓reduceIte, ↓reduceDIte]
  rw [bindataHeader, laid.size, List.append_assoc]
  rfl

theorem bindataLoop_end {streamid buflen call : Nat} {sent : Bytes} (outside : ¬ i < buflen) :
    bindataLoop complete streamid buf buflen i call sent = ⟨i, sent, false⟩ := by
  rw [bindataLoop, if_neg outside]

def interleaved (streamid : Nat) (packets : List Bytes) : List Bytes :=
  (packets.filter (· ≠ [])).map (interleavedFrame streamid)

theorem bindataLoop_packets (streamid : Nat) {packets : List Bytes}
    (small : ∀ p ∈ packets, p.length ≤ maxPacketSize) {i buflen call : Nat} {sent : Bytes}
    (laid : buf.slice i (dynPacketBuf packets).length = dynPacketBuf packets)
    (whole : i + (dynPacketBuf packets).length = buflen) :
    bindataLoop complete streamid buf buflen i call sent =
      ⟨buflen, sent ++ (interleaved streamid packets).flatten, false⟩ := by
  have loop : ∀ call sent, bindataLoop complete streamid buf buflen i call sent =
      ⟨buflen, sent ++ (interleaved streamid packets).flatten, false⟩ := by
    apply packets_rec _ _ small laid whole
    · intro call sent
      rw [bindataLoop_end (Nat.lt_irrefl _)]
      simp [interleaved]
    · intro i p packets at' first inside ih call sent
      by_cases empty : p = []
      · subst empty
        rw [bindataLoop_empty at' inside]
        refine (ih call sent).trans ?_
        simp [interleaved]
      · rw [bindataLoop_packet at' first empty inside, ih]
        simp [interleaved, empty]
  exact loop call sent

theorem bindataFrames_packets (streamid : Nat) {packets : List Bytes}
    (small : ∀ p ∈ packets, p.length ≤ maxPacketSize) {i buflen : Nat}
    (laid : buf.slice i (dynPacketBuf packets).length = dynPacketBuf packets)
    (whole : i + (dynPacketBuf packets).length = buflen) :
    ((bindataFrames streamid buf buflen i).flatMap Frame.writes).flatten =
      (interleaved streamid packets).flatten := by
  apply packets_rec _ _ small laid whole
  · rw [bindataFrames, if_neg (Nat.lt_irrefl _)]
    simp [interleaved]
  · intro i p packets at' first inside ih
    have size : be32 (buf i) (buf (i + 1)) (buf (i + 2)) (buf (i + 3)) = p.length := at'.size
    rw [bindataFrames, if_pos inside, size]
    by_cases empty : p = []
    · subst empty
      refine ih.trans ?_
      simp [interleaved]
    · have positive := List.length_pos_iff.mpr empty
      simp only [if_neg (Nat.ne_of_gt positive), at'.body, List.flatMap_cons, List.flatten_append, ih]
      simp [interleaved, empty, Frame.writes, interleavedFrame, dollar]

theorem rtspWriteBindataTo_frames (streamid : StreamId) {packets : List Bytes}
    (small : ∀ p ∈ packets, p.length ≤ maxPacketSize)
    (laid : buf.slice 0 (dynPacketBuf packets).length = dynPacketBuf packets) :
    (rtspWriteBindataTo complete streamid buf (dynPacketBuf packets).length).sent =
      ((rtspWriteBindata streamid ⟨buf, (dynPacketBuf packets).length⟩).flatMap
        Frame.writes).flatten := by
  rw [rtspWriteBindataTo, rtspWriteBindata]
  split_ifs with short
  · rfl
  · rw [bindataLoop_packets streamid small laid (Nat.zero_add _),
      bindataFrames_packets streamid small laid (Nat.zero_add _)]
    rfl

end

/-! ## Reading the frames back -/

theorem sent_interleavedFrame (streamid : Nat) {p : Bytes} (small : p.length ≤ maxPacketSize) :
    Sent (interleavedFrame streamid p) := by
  unfold maxPacketSize at small
  apply Sent.frame
  · rw [be16_ofNat (by omega)]
  · omega

theorem handed_interleavedFrame (streamid : Nat) (p : Bytes) :
    handed (interleavedFrame streamid p) =
      (((interleavedFrame streamid p).length : Int), interleavedFrame streamid p) := by
  have frame : IsFrame (interleavedFrame streamid p) := rfl
  rw [handed, if_pos frame]

theorem rtspWriteBindata_round_trip (streamid : Nat) (packets : List Bytes)
    (small : ∀ p ∈ packets, p.length ≤ maxPacketSize) (buf : Mem UInt8)
    (laid : buf.slice 0 (dynPacketBuf packets).length = dynPacketBuf packets) (stale : Mem UInt8)
    (cuts : List Nat) (n : Nat) :
    rtspWriteBindataTo complete streamid buf (dynPacketBuf packets).length =
        ⟨(dynPacketBuf packets).length, (interleaved streamid packets).flatten, false⟩ ∧
      (getnexts (some stale) bufSize n none
          ⟨(interleaved streamid packets).flatten, cuts, []⟩).map Outcome.result =
        ((interleaved streamid packets).map (fun f : Bytes => ((f.length : Int), f)) ++ [(-1, [])]).take n := by
  constructor
  · rw [rtspWriteBindataTo]
    split_ifs with short
    · have nothing : packets = [] := by
        cases packets with
        | nil => rfl
        | cons p packets =>
            rw [dynPacketBuf_cons, List.length_append, List.length_append, length_bytes32] at short
            omega
      rw [nothing]
      rfl
    · exact bindataLoop_packets streamid small laid (Nat.zero_add _)
  · have valid : ∀ u ∈ interleaved streamid packets, Sent u := by
      intro u member
      obtain ⟨p, kept, rfl⟩ := List.mem_map.mp member
      exact sent_interleavedFrame streamid (small p (List.mem_filter.mp kept).1)
    have handed_out : (interleaved streamid packets).map handed =
        (interleaved streamid packets).map fun f : Bytes => ((f.length : Int), f) := by
      apply List.map_congr_left
      intro u member
      obtain ⟨p, kept, rfl⟩ := List.mem_map.mp member
      exact handed_interleavedFrame streamid p
    rw [← handed_out]
    exact getnexts_units stale valid n intact_none rfl

theorem rtspWriteBindata_two_packets :
    (rtspWriteBindataTo complete 1 (fun i => (dynPacketBuf [[7, 10], [], [36]]).getD i 0) 15).sent =
        [36, 2, 0, 2, 7, 10, 36, 2, 0, 1, 36] ∧
      (getnexts (some fun _ => 255) bufSize 3 none
          ⟨[36, 2, 0, 2, 7, 10, 36, 2, 0, 1, 36], [1, 6], []⟩).map Outcome.result =
        [(6, [36, 2, 0, 2, 7, 10]), (5, [36, 2, 0, 1, 36]), (-1, [])] := by
  have trip := rtspWriteBindata_round_trip 1 [[7, 10], [], [36]] (by decide)
    (fun i => (dynPacketBuf [[7, 10], [], [36]]).getD i 0) (by decide) (fun _ => 255) [1, 6] 3
  exact ⟨congrArg Bindata.sent trip.1, trip.2⟩

end GamingAnywhere.Rtsp
