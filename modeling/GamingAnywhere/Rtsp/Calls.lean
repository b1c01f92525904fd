import GamingAnywhere.Rtsp.Segmentation

namespace GamingAnywhere.Rtsp
open Lib Framing

/-! ## One call -/

section
variable (stale : Mem UInt8) (count : Nat) {ctx : Option ReadBuffer} {s : Socket UInt8}

def window (ctx : Option ReadBuffer) (s : Socket UInt8) : Bytes :=
  (buffered ctx ++ s.unread).take rbufSize

theorem rtspGetnext_intact (intact : Intact ctx) :
    Intact (rtspGetnext (some stale) ctx count s).rbuf := by
  obtain ⟨b, kept, wf⟩ := (rtspGetnext_realizes stale intact count s).wf
  intro b' member
  rw [kept] at member
  cases member
  exact wf

theorem rtspGetnext_roomy (intact : Intact ctx) (roomy : s.Roomy) :
    (rtspGetnext (some stale) ctx count s).sock.Roomy := by
  rw [(rtspGetnext_realizes stale intact count s).sock]
  exact pull_roomy intact.length_buffered roomy

theorem rtspGetnext_none (intact : Intact ctx) (absent : nextUnit (window ctx s) = none) :
    (rtspGetnext (some stale) ctx count s).ret = -1 ∧
      (rtspGetnext (some stale) ctx count s).stored = [] :=
  (rtspGetnext_realizes stale intact count s).ended (pull_none intact.length_buffered absent)

theorem rtspGetnext_refused (intact : Intact ctx) {u : Bytes}
    (unit : nextUnit (window ctx s) = some u) (refused : accepts count u = none) :
    (rtspGetnext (some stale) ctx count s).ret = -1 ∧
      (rtspGetnext (some stale) ctx count s).stored = [] := by
  obtain ⟨rest, s', pulled, -⟩ := pull_some (F := rtspFraming) intact.length_buffered unit
  exact (rtspGetnext_realizes stale intact count s).refused (congrArg Prod.fst pulled) refused

theorem rtspGetnext_accepted (intact : Intact ctx) {u bytes : Bytes}
    (unit : nextUnit (window ctx s) = some u) (accepted : accepts count u = some bytes) :
    (rtspGetnext (some stale) ctx count s).ret = u.length ∧
      (rtspGetnext (some stale) ctx count s).stored = bytes ∧
      u ++ (buffered (rtspGetnext (some stale) ctx count s).rbuf ++
        (rtspGetnext (some stale) ctx count s).sock.unread) = buffered ctx ++ s.unread := by
  obtain ⟨rest, s', pulled, -, kept⟩ := pull_some (F := rtspFraming) intact.length_buffered unit
  have realizes := rtspGetnext_realizes stale intact count s
  obtain ⟨ret, stored, b, rbuf, -, pending⟩ :=
    realizes.accepted (congrArg Prod.fst pulled) accepted
  refine ⟨ret, stored, ?_⟩
  rw [rbuf, realizes.sock, pulled, buffered, Option.elim_some, pending, kept]

end

/-! ## Lines and frames that fit -/

inductive Sent : Bytes → Prop
  | line {text : Bytes} : newline ∉ text → text.head? ≠ some dollar → text.length + 1 ≤ 8191 →
      Sent (text ++ [newline])
  | frame {channel hi lo : UInt8} {body : Bytes} : body.length = be16 hi lo →
      4 + body.length ≤ 8192 → Sent (dollar :: channel :: hi :: lo :: body)

def handed (u : Bytes) : Int × Bytes := (u.length, if IsFrame u then u else u ++ [0])

def Outcome.result (o : Outcome) : Int × Bytes := (o.ret, o.stored)

theorem isUnit_iff {u : Bytes} : rtspFraming.IsUnit u ↔ nextUnit u = some u := Iff.rfl

theorem isUnit_frame {channel hi lo : UInt8} {body : Bytes} (length : body.length = be16 hi lo) :
    rtspFraming.IsUnit (dollar :: channel :: hi :: lo :: body) := by
  have frame : IsFrame (dollar :: channel :: hi :: lo :: body) := rfl
  have announced : frameLength (dollar :: channel :: hi :: lo :: body) = body.length := length.symm
  have whole : (dollar :: channel :: hi :: lo :: body).length = 4 + body.length := by
    simp only [List.length_cons]
    omega
  rw [isUnit_iff, nextUnit, if_pos frame, announced, whole, if_pos ⟨by omega, Nat.le_refl _⟩,
    List.take_of_length_le (Nat.le_of_eq whole)]

theorem Sent.length_le {u : Bytes} (sent : Sent u) : u.length ≤ rbufSize := by
  cases sent with
  | line _ _ bound =>
      rw [List.length_append, List.length_singleton, rbufSize]
      omega
  | frame _ bound =>
      simp only [List.length_cons, rbufSize]
      omega

theorem Sent.isUnit {u : Bytes} (sent : Sent u) : rtspFraming.IsUnit u := by
  cases sent with
  | @line text fresh start _ =>
      have text' : ¬ IsFrame (text ++ [newline]) := by
        cases text with
        | nil => decide
        | cons x text => exact start
      have position : (text ++ [newline]).idxOf newline = text.length := by
        rw [List.idxOf_append_of_notMem fresh, List.idxOf_cons_self, Nat.add_zero]
      rw [isUnit_iff, nextUnit, if_neg text', if_pos (by simp), position, List.take_of_length_le (by simp)]
  | frame length _ => exact isUnit_frame length

theorem Sent.accepts {u : Bytes} (sent : Sent u) : accepts bufSize u = some (handed u).2 := by
  unfold Rtsp.accepts handed
  dsimp only
  split_ifs with frame
  · rfl
  · cases sent with
    | line _ _ bound =>
        rw [acceptText, if_neg]
        rw [List.length_append, List.length_singleton]
        have : countMinusOne bufSize = 8191 := rfl
        omega
    | frame _ _ => exact absurd rfl frame

theorem getnexts_units (stale : Mem UInt8) {units : List Bytes} (valid : ∀ u ∈ units, Sent u)
    (n : Nat) {ctx : Option ReadBuffer} (intact : Intact ctx) {s : Socket UInt8}
    (joined : buffered ctx ++ s.unread = units.flatten) :
    (getnexts (some stale) bufSize n ctx s).map Outcome.result =
      (units.map handed ++ [(-1, [])]).take n := by
  induction n generalizing units ctx s with
  | zero => rfl
  | succ n ih =>
      rw [getnexts]
      cases units with
      | nil =>
          have absent : nextUnit (window ctx s) = none := by
            rw [window, joined]
            exact next_nil (F := rtspFraming)
          obtain ⟨ret, stored⟩ := rtspGetnext_none stale bufSize intact absent
          rw [if_pos (by rw [ret]; decide), List.map_cons, Outcome.result, ret, stored]
          simp
      | cons u units =>
          have sent := valid u (by simp)
          have arrived : u <+: window ctx s := by
            rw [window, joined, List.flatten_cons]
            exact List.prefix_take_iff.mpr ⟨List.prefix_append _ _, sent.length_le⟩
          have unit : nextUnit (window ctx s) = some u :=
            next_of_isPrefix (F := rtspFraming) sent.isUnit arrived
          obtain ⟨ret, stored, kept⟩ := rtspGetnext_accepted stale bufSize intact unit sent.accepts
          rw [joined, List.flatten_cons, List.append_cancel_left_eq] at kept
          rw [if_neg (by omega), List.map_cons, ih (fun v member => valid v (by simp [member]))
            (rtspGetnext_intact stale bufSize intact) kept, Outcome.result, ret, stored]
          rfl

theorem getnexts_roomy (stale : Mem UInt8) {count n : Nat} {ctx : Option ReadBuffer}
    (intact : Intact ctx) {s : Socket UInt8} (roomy : s.Roomy) :
    ∀ o ∈ getnexts (some stale) count n ctx s, o.sock.Roomy ∧ Intact o.rbuf := by
  induction n generalizing ctx s with
  | zero => exact nofun
  | succ n ih =>
      have roomy' := rtspGetnext_roomy stale count intact roomy
      have intact' := rtspGetnext_intact stale count (s := s) intact
      intro o member
      rw [getnexts] at member
      rcases List.mem_cons.mp member with rfl | member
      · exact ⟨roomy', intact'⟩
      · split_ifs at member
        · cases member
        · exact ih intact' roomy' o member

theorem rtspGetnext_hands_out_units (stale : Mem UInt8) (units : List Bytes)
    (valid : ∀ u ∈ units, Sent u) (cuts : List Nat) (n : Nat) :
    (getnexts (some stale) bufSize n none ⟨units.flatten, cuts, []⟩).map Outcome.result =
        (units.map handed ++ [(-1, [])]).take n ∧
      ∀ o ∈ getnexts (some stale) bufSize n none ⟨units.flatten, cuts, []⟩,
        o.sock.Roomy ∧ ∀ b ∈ o.rbuf, b.rbufhead = b.rbuftail → b.rbufhead = 0 ∧ b.rbuftail = 0 := by
  refine ⟨getnexts_units stale valid n intact_none rfl, fun o member => ?_⟩
  obtain ⟨roomy, intact⟩ := getnexts_roomy stale intact_none (by exact nofun) o member
  refine ⟨roomy, fun b kept empty => ?_⟩
  have front := (intact b kept).empty empty
  exact ⟨front, empty ▸ front⟩

def greeting : List Bytes :=
  [[79, 75, 10], [dollar, 1, 0, 2, 10, 36], [10]]

theorem greeting_sent : ∀ u ∈ greeting, Sent u := by
  have first : Sent ([79, 75] ++ [newline]) := .line (by decide) (by decide) (by decide)
  have second : Sent (dollar :: 1 :: 0 :: 2 :: [10, 36]) := .frame rfl (by decide)
  have third : Sent ([] ++ [newline]) := .line (by decide) (by decide) (by decide)
  intro u member
  simp only [greeting, List.mem_cons, List.not_mem_nil, or_false] at member
  rcases member with rfl | rfl | rfl
  exacts [first, second, third]

theorem greeting_handed_out :
    (getnexts (some fun _ => 255) bufSize 9 none
      ⟨[79, 75, 10, 36, 1, 0, 2, 10, 36, 10], [1, 4, 2, 3], []⟩).map Outcome.result =
      [(3, [79, 75, 10, 0]), (6, [36, 1, 0, 2, 10, 36]), (1, [10, 0]), (-1, [])] :=
  (rtspGetnext_hands_out_units (fun _ => 255) greeting greeting_sent [1, 4, 2, 3] 9).1

/-! ## The caller's buffer -/

def storedLength (u : Bytes) : Nat := if IsFrame u then u.length else u.length + 1

def Fits (count : Nat) (u : Bytes) : Prop := storedLength u ≤ count

def examined (count : Nat) : Nat → Bytes → List Bytes
  | 0, _ => []
  | n + 1, p =>
      match nextUnit (p.take rbufSize) with
      | none => []
      | some u =>
          u :: if ¬ IsFrame u ∧ countMinusOne count < u.length then []
            else examined count n (p.drop u.length)

def Bounded (count : Nat) (calls : List Outcome) (units : List Bytes) : Prop :=
  (∀ o ∈ calls, o.stored.length ≤ count) ∧
    ∀ pair ∈ calls.zip units, ¬ Fits count pair.2 → pair.1.ret = -1

/-- The units that do no harm: `rtsp_read_text` has a bound, though not for an empty buffer. -/
def Harmless (count : Nat) (u : Bytes) : Prop := if IsFrame u then u.length ≤ count else 0 < count

theorem accepts_eq_none_iff {count : Nat} {u : Bytes} :
    accepts count u = none ↔ ¬ IsFrame u ∧ countMinusOne count < u.length := by
  rw [accepts, acceptText, acceptBinary]
  split_ifs <;> simp_all

theorem length_of_accepts {count : Nat} {u bytes : Bytes} (accepted : accepts count u = some bytes) :
    bytes.length = storedLength u := by
  rw [accepts, acceptText, acceptBinary] at accepted
  rw [storedLength]
  split_ifs at accepted ⊢ with frame long
  · cases accepted
    rfl
  · cases accepted
    simp

theorem harmless_of_refused {count : Nat} {u : Bytes} (bound : u.length ≤ rbufSize)
    (refused : accepts count u = none) : Harmless count u ∧ ¬ Fits count u := by
  obtain ⟨text, long⟩ := accepts_eq_none_iff.mp refused
  rw [countMinusOne] at long
  rw [Harmless, if_neg text, Fits, storedLength, if_neg text]
  have small : rbufSize < sizeMax := by decide
  split_ifs at long with empty <;> omega

theorem harmless_iff_fits {count : Nat} {u bytes : Bytes} (accepted : accepts count u = some bytes) :
    Harmless count u ↔ Fits count u := by
  have allowed : ¬ (¬ IsFrame u ∧ countMinusOne count < u.length) := by
    rw [← accepts_eq_none_iff, accepted]
    nofun
  rw [Harmless, Fits, storedLength]
  by_cases frame : IsFrame u
  · rw [if_pos frame, if_pos frame]
  · have short : ¬ countMinusOne count < u.length := fun long => allowed ⟨frame, long⟩
    rw [if_neg frame, if_neg frame]
    rw [countMinusOne] at short
    split_ifs at short <;> omega

theorem bounded_cons {count : Nat} {o : Outcome} {calls : List Outcome} {u : Bytes}
    {units : List Bytes} :
    Bounded count (o :: calls) (u :: units) ↔
      (o.stored.length ≤ count ∧ (¬ Fits count u → o.ret = -1)) ∧ Bounded count calls units := by
  simp only [Bounded, List.zip_cons_cons, List.forall_mem_cons]
  constructor
  · rintro ⟨⟨first, rest⟩, ret, refused⟩
    exact ⟨⟨first, ret⟩, rest, refused⟩
  · rintro ⟨⟨first, ret⟩, rest, refused⟩
    exact ⟨⟨first, rest⟩, ret, refused⟩

theorem bounded_nil {count : Nat} : Bounded count [] [] := ⟨nofun, nofun⟩

theorem getnexts_bounded (stale : Mem UInt8) (count n : Nat) {ctx : Option ReadBuffer}
    (intact : Intact ctx) (s : Socket UInt8) :
    Bounded count (getnexts (some stale) count n ctx s)
        (examined count n (buffered ctx ++ s.unread)) ↔
      ∀ u ∈ examined count n (buffered ctx ++ s.unread), Harmless count u := by
  induction n generalizing ctx s with
  | zero => simp [getnexts, examined, bounded_nil]
  | succ n ih =>
      rw [getnexts, examined]
      cases unit : nextUnit ((buffered ctx ++ s.unread).take rbufSize) with
      | none =>
          obtain ⟨ret, stored⟩ := rtspGetnext_none stale count intact unit
          simp [ret, stored, Bounded]
      | some u =>
          have bound : u.length ≤ rbufSize := by
            have taken := (length_next (F := rtspFraming) unit).2
            rw [List.length_take] at taken
            omega
          dsimp only
          rw [bounded_cons, List.forall_mem_cons]
          cases accepted : accepts count u with
          | none =>
              obtain ⟨harmless, long⟩ := harmless_of_refused bound accepted
              obtain ⟨ret, stored⟩ := rtspGetnext_refused stale count intact unit accepted
              rw [if_pos (by rw [ret]; decide), if_pos (accepts_eq_none_iff.mp accepted), ret, stored]
              simp [harmless, bounded_nil]
          | some bytes =>
              have allowed := mt accepts_eq_none_iff.mpr (by rw [accepted]; nofun)
              obtain ⟨ret, stored, kept⟩ := rtspGetnext_accepted stale count intact unit accepted
              rw [if_neg (by rw [ret]; omega), if_neg allowed, ← kept, List.drop_left,
                ih (rtspGetnext_intact stale count intact), harmless_iff_fits accepted, stored,
                length_of_accepts accepted, ret]
              refine and_congr_left fun _ => ⟨fun h => h.1, fun fits => ⟨fits, fun h => absurd fits h⟩⟩

theorem rtspGetnext_bounded_iff (stale : Mem UInt8) (count n : Nat) (stream : Bytes)
    (cuts : List Nat) :
    Bounded count (getnexts (some stale) count n none ⟨stream, cuts, []⟩) (examined count n stream) ↔
      ∀ u ∈ examined count n stream, if IsFrame u then u.length ≤ count else 0 < count :=
  getnexts_bounded stale count n intact_none ⟨stream, cuts, []⟩

def largeFrame (body : Bytes) : Bytes := dollar :: 0 :: 0x20 :: 0x00 :: body

theorem largeFrame_stored (stale : Mem UInt8) {body : Bytes} (length : body.length = 8192) :
    (rtspGetnext (some stale) none bufSize ⟨largeFrame body, [], []⟩).stored = largeFrame body := by
  have whole : (largeFrame body).length ≤ rbufSize := by
    rw [largeFrame, List.length_cons, List.length_cons, List.length_cons, List.length_cons, length]
    decide
  have unit : nextUnit (window none ⟨largeFrame body, [], []⟩) = some (largeFrame body) := by
    change nextUnit ((largeFrame body).take rbufSize) = _
    rw [List.take_of_length_le whole]
    exact isUnit_frame (length.trans (by decide))
  exact (rtspGetnext_accepted stale bufSize intact_none unit (if_pos rfl)).2.1

theorem largeFrame_not_bounded :
    ¬ ∀ (stale : Mem UInt8) (n : Nat) (stream : Bytes) (cuts : List Nat),
      Bounded bufSize (getnexts (some stale) bufSize n none ⟨stream, cuts, []⟩)
        (examined bufSize n stream) := by
  intro bounded
  have length : (List.replicate 8192 (0 : UInt8)).length = 8192 := List.length_replicate
  have within := (bounded (fun _ => 0) 1 (largeFrame (List.replicate 8192 0)) []).1 _
    List.mem_cons_self
  rw [largeFrame_stored _ length, largeFrame, List.length_cons, List.length_cons, List.length_cons,
    List.length_cons, length] at within
  exact absurd within (by decide)

end GamingAnywhere.Rtsp
