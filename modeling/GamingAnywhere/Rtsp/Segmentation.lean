import GamingAnywhere.Rtsp.Reader

namespace GamingAnywhere.Rtsp
open Lib Framing

/-! ## The buffer -/

structure ReadBuffer.Wf (b : ReadBuffer) : Prop where
  head_le : b.rbufhead ≤ b.rbuftail
  tail_le : b.rbuftail ≤ b.rbufsize
  size : b.rbufsize = rbufSize
  empty : b.rbufhead = b.rbuftail → b.rbufhead = 0

def ReadBuffer.pending (b : ReadBuffer) : Bytes := b.rbuffer.slice b.rbufhead (b.rbuftail - b.rbufhead)

@[simp] theorem ReadBuffer.length_pending (b : ReadBuffer) :
    b.pending.length = b.rbuftail - b.rbufhead := Mem.length_slice _ _ _

theorem ReadBuffer.Wf.pending_le {b : ReadBuffer} (wf : b.Wf) : b.pending.length ≤ rbufSize := by
  have := wf.tail_le
  rw [b.length_pending, ← wf.size]
  omega

theorem ReadBuffer.Wf.compact {b : ReadBuffer} (wf : b.Wf) : b.compact.Wf where
  head_le := Nat.zero_le _
  tail_le := Nat.le_trans (Nat.sub_le _ _) wf.tail_le
  size := wf.size
  empty _ := rfl

theorem ReadBuffer.pending_compact (b : ReadBuffer) : b.compact.pending = b.pending :=
  b.rbuffer.slice_bcopy b.rbufhead 0 (b.rbuftail - b.rbufhead)

theorem ReadBuffer.Wf.consume {b : ReadBuffer} (wf : b.Wf) {n : Nat} (le : n ≤ b.pending.length) :
    (b.consume n).Wf := by
  have := wf.head_le
  rw [b.length_pending] at le
  unfold ReadBuffer.consume
  split_ifs with all
  · exact ⟨Nat.le_refl _, Nat.zero_le _, wf.size, fun _ => rfl⟩
  · exact ⟨by change b.rbufhead + n ≤ b.rbuftail; omega, wf.tail_le, wf.size, fun h => absurd h all⟩

theorem ReadBuffer.pending_consume (b : ReadBuffer) {n : Nat} (le : n ≤ b.pending.length) :
    (b.consume n).pending = b.pending.drop n := by
  rw [b.length_pending] at le
  unfold ReadBuffer.consume ReadBuffer.pending
  rw [Mem.drop_slice _ _ _ _ le]
  split_ifs with all
  · rw [show b.rbuftail - b.rbufhead - n = 0 by omega]
    rfl
  · rw [Nat.sub_sub]

/-! ## One read -/

theorem readInternal_none {b : ReadBuffer} (wf : b.Wf) (front : b.rbufhead = 0) {s s' : Socket UInt8}
    (h : rtspReadInternal b s = (none, s')) :
    (s.read (rbufSize - b.pending.length)).1 = [] ∧ s' = (s.read (rbufSize - b.pending.length)).2 := by
  have offered : rbufSize - b.pending.length = b.rbufsize - b.rbuftail := by
    rw [b.length_pending, front, wf.size, Nat.sub_zero]
  simp only [rtspReadInternal, Prod.mk.injEq] at h
  rw [offered]
  obtain ⟨stored, rfl⟩ := h
  split_ifs at stored with ended
  exact ⟨ended, rfl⟩

theorem readInternal_some {b b' : ReadBuffer} (wf : b.Wf) (front : b.rbufhead = 0) {s s' : Socket UInt8}
    (h : rtspReadInternal b s = (some b', s')) :
    (s.read (rbufSize - b.pending.length)).1 ≠ [] ∧ s' = (s.read (rbufSize - b.pending.length)).2 ∧ b'.Wf ∧
      b'.pending = b.pending ++ (s.read (rbufSize - b.pending.length)).1 := by
  have offered : rbufSize - b.pending.length = b.rbufsize - b.rbuftail := by
    rw [b.length_pending, front, wf.size, Nat.sub_zero]
  have room := s.length_read_le (b.rbufsize - b.rbuftail)
  simp only [rtspReadInternal, Prod.mk.injEq] at h
  rw [offered]
  obtain ⟨stored, rfl⟩ := h
  split_ifs at stored with ended
  cases stored
  have tail := wf.tail_le
  refine ⟨ended, rfl, ⟨?_, ?_, wf.size, fun _ => front⟩, ?_⟩
  · change b.rbufhead ≤ b.rbuftail + _
    omega
  · change b.rbuftail + _ ≤ b.rbufsize
    omega
  · have extended := b.rbuffer.slice_store_append 0 b.rbuftail (s.read (b.rbufsize - b.rbuftail)).1
    rw [Nat.zero_add] at extended
    simpa only [ReadBuffer.pending, front, Nat.sub_zero] using extended

theorem refill_none {b : ReadBuffer} (wf : b.Wf) {s s' : Socket UInt8}
    (h : rtspReadInternal b.compact s = (none, s')) :
    (s.read (rbufSize - b.pending.length)).1 = [] ∧ s' = (s.read (rbufSize - b.pending.length)).2 := by
  rw [← b.pending_compact]
  exact readInternal_none wf.compact rfl h

theorem refill_some {b b' : ReadBuffer} (wf : b.Wf) {s s' : Socket UInt8}
    (h : rtspReadInternal b.compact s = (some b', s')) :
    (s.read (rbufSize - b.pending.length)).1 ≠ [] ∧ s' = (s.read (rbufSize - b.pending.length)).2 ∧ b'.Wf ∧
      b'.pending = b.pending ++ (s.read (rbufSize - b.pending.length)).1 := by
  rw [← b.pending_compact]
  exact readInternal_some wf.compact rfl h

/-! ## The two readers -/

abbrev Acceptance := Bytes → Option Bytes

def acceptText (count : Nat) : Acceptance := fun u =>
  if countMinusOne count < u.length then none else some (u ++ [0])

def acceptBinary : Acceptance := some

structure Realizes (accept : Acceptance) (o : Outcome)
    (pulled : Option (Bytes × Bytes) × Socket UInt8) : Prop where
  sock : o.sock = pulled.2
  wf : ∃ b, o.rbuf = some b ∧ b.Wf
  ended : pulled.1 = none → o.ret = -1 ∧ o.stored = []
  refused : ∀ {u rest}, pulled.1 = some (u, rest) → accept u = none → o.ret = -1 ∧ o.stored = []
  accepted : ∀ {u rest bytes}, pulled.1 = some (u, rest) → accept u = some bytes →
    o.ret = u.length ∧ o.stored = bytes ∧ ∃ b, o.rbuf = some b ∧ b.Wf ∧ b.pending = rest

section
variable {accept : Acceptance} {b b' : ReadBuffer} {s s' : Socket UInt8}

theorem realizes_refuse (wf : b.Wf) : Realizes accept (refuse b s) (none, s) :=
  ⟨rfl, ⟨b, rfl, wf⟩, fun _ => ⟨rfl, rfl⟩, nofun, nofun⟩

theorem realizes_unit (wf : b.Wf) {n : Nat} (le : n ≤ b.rbuftail - b.rbufhead) {bytes : Bytes}
    (unit : nextUnit b.pending = some (b.pending.take n))
    (accepted : accept (b.rbuffer.slice b.rbufhead n) = some bytes) :
    Realizes accept ⟨n, bytes, some (b.consume n), s⟩ (rtspFraming.pull rbufSize b.pending s) := by
  have bound : n ≤ b.pending.length := by rwa [b.length_pending]
  have taken : b.pending.take n = b.rbuffer.slice b.rbufhead n := Mem.take_slice _ _ _ _ le
  rw [pull_of_some (F := rtspFraming) unit, taken, Mem.length_slice]
  refine ⟨rfl, ⟨_, rfl, wf.consume bound⟩, nofun, ?_, ?_⟩
  · rintro _ _ ⟨⟩ refused
    simp [accepted] at refused
  · rintro _ _ _ ⟨⟩ stored
    obtain rfl : bytes = _ := by simpa [accepted] using stored
    exact ⟨by rw [Mem.length_slice], rfl, _, rfl, wf.consume bound, b.pending_consume bound⟩

theorem realizes_refused (wf : b.Wf) {u : Bytes} (unit : nextUnit b.pending = some u)
    (refused : accept u = none) :
    Realizes accept (refuse b s) (rtspFraming.pull rbufSize b.pending s) := by
  rw [pull_of_some (F := rtspFraming) unit]
  refine ⟨rfl, ⟨b, rfl, wf⟩, nofun, fun _ _ => ⟨rfl, rfl⟩, ?_⟩
  rintro _ _ _ ⟨⟩ accepted
  simp [refused] at accepted

theorem realizes_full (wf : b.Wf) (absent : nextUnit b.pending = none)
    (full : b.rbuftail - b.rbufhead = b.rbufsize) :
    Realizes accept (refuse b s) (rtspFraming.pull rbufSize b.pending s) := by
  rw [pull_of_none (F := rtspFraming) absent,
    if_pos (by rw [b.length_pending, full, wf.size])]
  exact realizes_refuse wf

theorem realizes_ended (wf : b.Wf) (absent : nextUnit b.pending = none)
    (room : b.rbuftail - b.rbufhead ≠ b.rbufsize)
    (ended : rtspReadInternal b.compact s = (none, s')) :
    Realizes accept (refuse b.compact s') (rtspFraming.pull rbufSize b.pending s) := by
  obtain ⟨nothing, rfl⟩ := refill_none wf ended
  rw [pull_of_none (F := rtspFraming) absent,
    if_neg (by rwa [b.length_pending, ← wf.size]), if_pos nothing]
  exact realizes_refuse wf.compact

theorem pull_refill (wf : b.Wf) (absent : nextUnit b.pending = none)
    (room : b.rbuftail - b.rbufhead ≠ b.rbufsize)
    (more : rtspReadInternal b.compact s = (some b', s')) :
    rtspFraming.pull rbufSize b.pending s = rtspFraming.pull rbufSize b'.pending s' ∧
      b'.Wf ∧ b'.pending = b.pending ++ (s.read (rbufSize - b.pending.length)).1 := by
  obtain ⟨something, rfl, wf', pending⟩ := refill_some wf more
  refine ⟨?_, wf', pending⟩
  rw [pull_of_none (F := rtspFraming) absent,
    if_neg (by rwa [b.length_pending, ← wf.size]), if_neg something, pending]

end

theorem newline?_eq (b : ReadBuffer) :
    b.newline? =
      if newline ∈ b.pending then some (b.rbufhead + b.pending.idxOf newline) else none :=
  b.rbuffer.find?_range' newline _ _

theorem nextUnit_line {b : ReadBuffer} (text : ¬ IsFrame b.pending) {i : Nat}
    (found : b.newline? = some i) :
    nextUnit b.pending = some (b.pending.take (i - b.rbufhead + 1)) ∧
      i - b.rbufhead + 1 ≤ b.rbuftail - b.rbufhead := by
  rw [newline?_eq] at found
  split_ifs at found with member
  cases found
  have before := List.idxOf_lt_length_of_mem member
  rw [b.length_pending] at before
  rw [Nat.add_sub_cancel_left]
  exact ⟨by rw [nextUnit, if_neg text, if_pos member], before⟩

theorem nextUnit_no_line {b : ReadBuffer} (text : ¬ IsFrame b.pending)
    (absent : b.newline? = none) : nextUnit b.pending = none := by
  rw [newline?_eq] at absent
  split_ifs at absent with member
  rw [nextUnit, if_neg text, if_neg member]

theorem rtspReadText_realizes (b : ReadBuffer) (count : Nat) (s : Socket UInt8) (wf : b.Wf)
    (text : ¬ IsFrame b.pending) (nonempty : b.pending ≠ []) :
    Realizes (acceptText count) (rtspReadText b count s)
      (rtspFraming.pull rbufSize b.pending s) := by
  induction b, s using rtspReadText.induct count with
  | case1 b s i found textlen long =>
      obtain ⟨line, bound⟩ := nextUnit_line text found
      rw [rtspReadText, found]
      dsimp only
      rw [if_pos long]
      apply realizes_refused wf line
      rw [acceptText, List.length_take_of_le (by rwa [b.length_pending]), if_pos long]
  | case2 b s i found textlen fits =>
      obtain ⟨line, bound⟩ := nextUnit_line text found
      rw [rtspReadText, found]
      dsimp only
      rw [if_neg fits]
      apply realizes_unit wf bound line
      rw [acceptText, Mem.length_slice, if_neg fits]
  | case3 b s found full =>
      rw [rtspReadText, found]
      dsimp only
      rw [if_pos full]
      exact realizes_full wf (nextUnit_no_line text found) full
  | case4 b s found room s' ended =>
      have realizes : Realizes (acceptText count) _ _ :=
        realizes_ended wf (nextUnit_no_line text found) room ended
      rw [rtspReadText, found]
      dsimp only
      rw [if_neg room]
      split
      · rename_i s'' h
        obtain rfl : s'' = s' := by simpa [ended] using h.symm
        exact realizes
      · rename_i h
        simp [ended] at h
  | case5 b s found room b' s' more ih =>
      obtain ⟨same, wf', pending⟩ := pull_refill wf (nextUnit_no_line text found) room more
      rw [rtspReadText, found, same]
      dsimp only
      rw [if_neg room]
      split
      · rename_i h
        simp [more] at h
      · rename_i b'' s'' h
        rw [more] at h
        cases h
        apply ih wf'
        · rwa [pending, isFrame_append nonempty]
        · rw [pending]
          exact List.append_ne_nil_of_left_ne_nil nonempty _

theorem reqlength_eq (b : ReadBuffer) (four : 4 ≤ b.pending.length) :
    b.reqlength = frameLength b.pending := by
  rw [b.length_pending] at four
  simp only [ReadBuffer.reqlength, frameLength, ReadBuffer.pending, List.getD_eq_getElem?_getD,
    Mem.getElem?_slice]
  rw [if_pos (by omega), if_pos (by omega)]
  rfl

/-- What the comparison at `again` decides, be the length field stale or not. -/
theorem nextUnit_frame {b : ReadBuffer} (frame : IsFrame b.pending) :
    nextUnit b.pending =
      if 4 + b.reqlength ≤ b.rbuftail - b.rbufhead then some (b.pending.take (4 + b.reqlength))
      else none := by
  rw [nextUnit, if_pos frame]
  by_cases four : 4 ≤ b.pending.length
  · rw [reqlength_eq b four, ← b.length_pending]
    simp only [four, true_and]
  · rw [if_neg (fun h => four h.1), if_neg (by rw [← b.length_pending]; omega)]

theorem isFrame_refill {b b' : ReadBuffer} {chunk : Bytes} (frame : IsFrame b.pending)
    (pending : b'.pending = b.pending ++ chunk) : IsFrame b'.pending := by
  have nonempty : b.pending ≠ [] := by
    intro empty
    simp [IsFrame, empty] at frame
  rwa [pending, isFrame_append nonempty]

theorem rtspReadBinaryAgain_realizes (b : ReadBuffer) (s : Socket UInt8) (wf : b.Wf)
    (frame : IsFrame b.pending) :
    Realizes acceptBinary (rtspReadBinaryAgain b s) (rtspFraming.pull rbufSize b.pending s) := by
  induction b, s using rtspReadBinaryAgain.induct with
  | case1 b s whole =>
      have unit := nextUnit_frame frame
      rw [if_pos whole] at unit
      rw [rtspReadBinaryAgain, if_pos whole]
      exact realizes_unit wf whole unit rfl
  | case2 b s partial' full =>
      have absent := nextUnit_frame frame
      rw [if_neg partial'] at absent
      rw [rtspReadBinaryAgain, if_neg partial', if_pos full]
      exact realizes_full wf absent full
  | case3 b s partial' room s' ended =>
      have absent := nextUnit_frame frame
      rw [if_neg partial'] at absent
      have realizes : Realizes acceptBinary _ _ := realizes_ended wf absent room ended
      rw [rtspReadBinaryAgain, if_neg partial', if_neg room]
      split
      · rename_i s'' h
        obtain rfl : s'' = s' := by simpa [ended] using h.symm
        exact realizes
      · rename_i h
        simp [ended] at h
  | case4 b s partial' room b' s' more ih =>
      have absent := nextUnit_frame frame
      rw [if_neg partial'] at absent
      obtain ⟨same, wf', pending⟩ := pull_refill wf absent room more
      rw [rtspReadBinaryAgain, if_neg partial', if_neg room, same]
      split
      · rename_i h
        simp [more] at h
      · rename_i b'' s'' h
        rw [more] at h
        cases h
        exact ih wf' (isFrame_refill frame pending)

theorem rtspReadBinary_realizes (b : ReadBuffer) (count : Nat) (s : Socket UInt8) (wf : b.Wf)
    (frame : IsFrame b.pending) :
    Realizes acceptBinary (rtspReadBinary b count s) (rtspFraming.pull rbufSize b.pending s) := by
  unfold rtspReadBinary
  split_ifs with few
  · have absent : nextUnit b.pending = none := by
      rw [nextUnit_frame frame, if_neg (by omega)]
    have room : b.rbuftail - b.rbufhead ≠ b.rbufsize := by
      rw [wf.size, rbufSize]
      omega
    split
    · rename_i s' ended
      exact realizes_ended wf absent room ended
    · rename_i b' s' more
      obtain ⟨same, wf', pending⟩ := pull_refill wf absent room more
      rw [same]
      exact rtspReadBinaryAgain_realizes b' s' wf' (isFrame_refill frame pending)
  · exact rtspReadBinaryAgain_realizes b s wf frame

/-! ## The dispatch -/

def accepts (count : Nat) : Acceptance := fun u =>
  if IsFrame u then acceptBinary u else acceptText count u

theorem Realizes.congr {accept accept' : Acceptance} {o : Outcome}
    {pulled : Option (Bytes × Bytes) × Socket UInt8} (realizes : Realizes accept o pulled)
    (same : ∀ {u rest}, pulled.1 = some (u, rest) → accept' u = accept u) :
    Realizes accept' o pulled where
  sock := realizes.sock
  wf := realizes.wf
  ended := realizes.ended
  refused unit none' := realizes.refused unit ((same unit).symm.trans none')
  accepted unit some' := realizes.accepted unit ((same unit).symm.trans some')

theorem isFrame_pull {p u rest : Bytes} {s : Socket UInt8} (nonempty : p ≠ [])
    (le : p.length ≤ rbufSize) (h : (rtspFraming.pull rbufSize p s).1 = some (u, rest)) :
    IsFrame u ↔ IsFrame p := by
  have unit := pull_unit le h
  obtain ⟨q, joined⟩ := (rtspFraming.next_prefix unit).trans (List.take_prefix rbufSize _)
  rw [← isFrame_append (rtspFraming.next_ne_nil unit) q, joined, isFrame_append nonempty]

theorem isFrame_pending {b : ReadBuffer} (nonempty : b.rbuftail ≠ b.rbufhead) (wf : b.Wf) :
    IsFrame b.pending ↔ b.rbuffer b.rbufhead = dollar := by
  have := wf.head_le
  obtain ⟨n, length⟩ : ∃ n, b.rbuftail - b.rbufhead = n + 1 :=
    ⟨b.rbuftail - b.rbufhead - 1, by omega⟩
  rw [IsFrame, ReadBuffer.pending, length, Mem.slice_succ, List.head?_cons, Option.some_inj]

theorem pending_ne_nil {b : ReadBuffer} (nonempty : b.rbuftail ≠ b.rbufhead) (wf : b.Wf) :
    b.pending ≠ [] := by
  have := wf.head_le
  rw [← List.length_pos_iff, b.length_pending]
  omega

theorem dispatch_realizes (b : ReadBuffer) (count : Nat) (s : Socket UInt8) (wf : b.Wf)
    (nonempty : b.rbuftail ≠ b.rbufhead) :
    Realizes (accepts count)
      (if b.rbuffer b.rbufhead ≠ dollar then rtspReadText b count s else rtspReadBinary b count s)
      (rtspFraming.pull rbufSize b.pending s) := by
  have kind := isFrame_pending nonempty wf
  have nonempty := pending_ne_nil nonempty wf
  split_ifs with text
  · have text : ¬ IsFrame b.pending := mt kind.mp text
    refine (rtspReadText_realizes b count s wf text nonempty).congr fun unit => ?_
    rw [accepts, if_neg (mt (isFrame_pull nonempty wf.pending_le unit).mp text)]
  · have frame : IsFrame b.pending := kind.mpr (not_not.mp text)
    refine (rtspReadBinary_realizes b count s wf frame).congr fun unit => ?_
    rw [accepts, if_pos ((isFrame_pull nonempty wf.pending_le unit).mpr frame)]

theorem getnextAllocated_realizes (b : ReadBuffer) (count : Nat) (s : Socket UInt8) (wf : b.Wf) :
    Realizes (accepts count) (getnextAllocated b count s)
      (rtspFraming.pull rbufSize b.pending s) := by
  unfold getnextAllocated
  dsimp only
  by_cases empty : b.rbuftail = b.rbufhead
  · rw [if_pos empty]
    have front := wf.empty empty.symm
    have nothing : b.pending = [] := by
      rw [← List.length_eq_zero_iff, b.length_pending]
      omega
    have pulled : rtspFraming.pull rbufSize b.pending s = _ :=
      pull_of_none (nothing ▸ next_nil)
    rw [pulled, if_neg (by rw [nothing]; decide)]
    split
    · rename_i s' ended
      obtain ⟨unread, rfl⟩ := readInternal_none wf front ended
      rw [if_pos unread]
      exact realizes_refuse wf
    · rename_i b' s' more
      obtain ⟨something, rfl, wf', pending⟩ := readInternal_some wf front more
      have arrived : b'.rbuftail ≠ b'.rbufhead := by
        intro same
        have length := congrArg List.length pending
        have positive := List.length_pos_iff.mpr something
        rw [b'.length_pending, List.length_append] at length
        omega
      rw [if_neg something, ← pending]
      exact dispatch_realizes b' count _ wf' arrived
  · rw [if_neg empty]
    exact dispatch_realizes b count s wf empty

def buffered (ctx : Option ReadBuffer) : Bytes := ctx.elim [] ReadBuffer.pending

def Intact (ctx : Option ReadBuffer) : Prop := ∀ b ∈ ctx, b.Wf

theorem intact_none : Intact none := fun _ member => nomatch member

theorem Intact.length_buffered {ctx : Option ReadBuffer} (intact : Intact ctx) :
    (buffered ctx).length ≤ rbufSize := by
  cases ctx with
  | none => exact Nat.zero_le _
  | some b => exact (intact b rfl).pending_le

theorem rtspGetnext_realizes (stale : Mem UInt8) {ctx : Option ReadBuffer} (intact : Intact ctx)
    (count : Nat) (s : Socket UInt8) :
    Realizes (accepts count) (rtspGetnext (some stale) ctx count s)
      (rtspFraming.pull rbufSize (buffered ctx) s) := by
  cases ctx with
  | some b => exact getnextAllocated_realizes b count s (intact b rfl)
  | none =>
      have wf : ReadBuffer.Wf ⟨stale, 0, 0, rbufSize⟩ :=
        ⟨Nat.le_refl _, Nat.zero_le _, rfl, fun _ => rfl⟩
      exact getnextAllocated_realizes _ count s wf

end GamingAnywhere.Rtsp
