import GamingAnywhere.Control.Parsing

/-!
# Reassembly of control messages

`tcpAgain` delivers the whole messages among the buffered bytes (`tcpAgain_out`). What it leaves
behind is right for the next `recv` only at offset 0: after a `recv` that both completes a message
and ends inside a later one, `bufhead` points behind the bytes that were moved to the front, while
the next chunk is appended to those bytes.
-/

namespace GamingAnywhere.Control
open Lib Framing

def Arrived (p : Bytes) : Prop := ∃ (ms : List CtrlMsg) (q : Bytes), p ++ q = stream ms

theorem stream_units (ms : List CtrlMsg) : ∀ u ∈ ms.map CtrlMsg.bytes, ctrlFraming.IsUnit u := by
  intro u member
  obtain ⟨m, -, rfl⟩ := List.mem_map.mp member
  exact m.isUnit

/-! ## One round of `tcp_again` -/

theorem two_le_announced {p : Bytes} (arrived : Arrived p) (two : 2 ≤ p.length) :
    2 ≤ announced p := by
  obtain ⟨ms, q, joined⟩ := arrived
  rcases p with _ | ⟨hi, _ | ⟨lo, p⟩⟩
  · simp at two
  · simp at two
  · cases ms with
    | nil => simp [stream] at joined
    | cons m ms =>
        have sized := m.sized
        have least := m.two_le
        obtain ⟨hi', lo', body, bytes⟩ : ∃ hi' lo' body, m.bytes = hi' :: lo' :: body := by
          rcases bytes : m.bytes with _ | ⟨hi', _ | ⟨lo', body⟩⟩
          · simp [bytes] at least
          · simp [bytes] at least
          · exact ⟨_, _, _, rfl⟩
        simp only [stream, List.map_cons, List.flatten_cons, bytes, List.cons_append,
          List.cons.injEq] at joined
        rw [bytes] at sized least
        obtain ⟨rfl, rfl, -⟩ := joined
        change be16 hi lo = _ at sized
        change 2 ≤ be16 hi lo
        omega

theorem Arrived.next_eq {p : Bytes} (arrived : Arrived p) : segmentFraming.next p = ctrlFraming.next p := by
  rcases p with _ | ⟨hi, _ | ⟨lo, p⟩⟩
  · rfl
  · rfl
  · have two : 2 ≤ (hi :: lo :: p).length := Nat.le_add_left _ _
    have least := two_le_announced arrived two
    have same : (2 ≤ (hi :: lo :: p).length ∧ announced (hi :: lo :: p) ≠ 0 ∧
          announced (hi :: lo :: p) ≤ (hi :: lo :: p).length) ↔
        2 ≤ announced (hi :: lo :: p) ∧ announced (hi :: lo :: p) ≤ (hi :: lo :: p).length := by
      omega
    exact if_congr same rfl rfl

theorem Arrived.drop {p u : Bytes} (arrived : Arrived p) (found : ctrlFraming.next p = some u) :
    Arrived (p.drop u.length) := by
  obtain ⟨ms, q, joined⟩ := arrived
  have unit := next_of_isPrefix found ⟨q, joined⟩
  cases ms with
  | nil => simp [stream, next_nil] at unit
  | cons m ms =>
      have first : ctrlFraming.next (stream (m :: ms)) = some m.bytes := by
        rw [stream, List.map_cons, List.flatten_cons]
        exact ctrlFraming.next_append _ m.isUnit
      obtain rfl : m.bytes = u := Option.some.inj (first.symm.trans unit)
      refine ⟨ms, q, ?_⟩
      rw [← next_append_drop found, List.append_assoc, stream, List.map_cons, List.flatten_cons,
        List.append_cancel_left_eq] at joined
      exact joined

theorem Arrived.split_eq {p : Bytes} (arrived : Arrived p) :
    segmentFraming.split p = ctrlFraming.split p := by
  induction p using split.induct ctrlFraming with
  | case1 p none => rw [split_of_none none, split_of_none (arrived.next_eq.trans none)]
  | case2 p u found ih =>
      rw [split_of_some found, split_of_some (arrived.next_eq.trans found), ih (arrived.drop found)]

theorem arrived_rest {p q : Bytes} {ms : List CtrlMsg} (joined : p ++ q = stream ms) :
    ∃ left : List CtrlMsg, left.length + (ctrlFraming.split p).1.length = ms.length ∧
      (ctrlFraming.split p).2 ++ q = stream left := by
  obtain ⟨left, parts, rest⟩ := split_of_isPrefix (stream_units ms) joined
  obtain ⟨_, left', -, -, rfl⟩ := List.map_eq_append_iff.mp parts
  have count := congrArg List.length parts
  rw [List.length_map, List.length_append, List.length_map] at count
  exact ⟨left', by omega, rest⟩

structure Drained (r r' : Receiver) (cut : List Bytes × Bytes) : Prop where
  buflen : r'.buflen = cut.2.length
  kept : cut.1 = [] → r'.bufhead = r.bufhead ∧ (r.bufhead = 0 → r'.pending = cut.2)
  emptied : cut.1 ≠ [] → cut.2 = [] → r'.bufhead = 0
  displaced : cut.1 ≠ [] → cut.2 ≠ [] → r'.bufhead = r.bufhead + cut.1.flatten.length
  frame : ∀ i, r.buflen ≤ i → r'.buf i = r.buf i

theorem tcpAgain_drained (r : Receiver) (arrived : Arrived r.pending) :
    (tcpAgain r).2 = (ctrlFraming.split r.pending).1.map deliver ∧
      Drained r (tcpAgain r).1 (ctrlFraming.split r.pending) := by
  obtain ⟨delivered, round⟩ := tcpAgain_round r
  rw [arrived.split_eq] at delivered round
  -- a length of zero is not among messages
  have resumes : Resumes r (tcpAgain r).1 (ctrlFraming.split r.pending) := round.resumes
  have left : Arrived (ctrlFraming.split r.pending).2 := by
    obtain ⟨ms, q, joined⟩ := arrived
    obtain ⟨left, -, rest⟩ := arrived_rest joined
    exact ⟨left, q, rest⟩
  refine ⟨delivered, round.buflen, fun nothing => ?_, fun some' none => ?_, fun some' rest => ?_,
    round.frame⟩
  · cases resumes with
    | emptied some' _ _ => exact absurd nothing some'
    | behind _ head front =>
        rw [nothing] at head
        refine ⟨head, fun first => front ?_⟩
        rw [head, first]
        rfl
    | restarted two zero _ _ =>
        have := two_le_announced left two
        omega
  · cases resumes with
    | emptied _ _ front => exact front
    | behind left _ _ =>
        have filled : r.buflen ≠ 0 := by
          intro empty
          have pending : r.pending = [] := by rw [Receiver.pending, empty, Mem.slice_zero]
          rw [pending, split_of_none next_nil] at some'
          exact some' rfl
        exact absurd none (left filled)
    | restarted _ _ front _ => exact front
  · cases resumes with
    | emptied _ none _ => exact absurd none rest
    | behind _ head _ => exact head
    | restarted two zero _ _ =>
        have := two_le_announced left two
        omega

theorem tcpAgain_head (r : Receiver) {d : Delivery} {ds : List Delivery}
    (out : (tcpAgain r).2 = d :: ds) : d.msg = r.buf.slice r.bufhead d.msglen := by
  rw [tcpAgain] at out
  split_ifs at out
  · obtain ⟨rfl, -⟩ := List.cons.inj out
    rfl
  · obtain ⟨rfl, -⟩ := List.cons.inj out
    rfl

/-! ## Whole runs -/

/-- No result of `recv` both completes a message and ends inside a later one. -/
def CleanSplit (pending : Bytes) : List Bytes → Prop
  | [] => True
  | chunk :: chunks =>
      let cut := ctrlFraming.split (pending ++ chunk)
      (cut.1 = [] ∨ cut.2 = []) ∧ CleanSplit cut.2 chunks

instance decidableCleanSplit : ∀ (pending : Bytes) (chunks : List Bytes),
    Decidable (CleanSplit pending chunks)
  | _, [] => isTrue trivial
  | pending, chunk :: chunks =>
      have := decidableCleanSplit (ctrlFraming.split (pending ++ chunk)).2 chunks
      inferInstanceAs (Decidable (_ ∧ _))

theorem CleanSplit.endsWhole {pending : Bytes} {chunks : List Bytes} {ms : List CtrlMsg}
    (clean : CleanSplit pending chunks) (joined : pending ++ chunks.flatten = stream ms) :
    EndsWhole pending chunks := by
  induction chunks generalizing pending ms with
  | nil => trivial
  | cons chunk chunks ih =>
      rw [List.flatten_cons, ← List.append_assoc] at joined
      have arrived : Arrived (pending ++ chunk) := ⟨ms, _, joined⟩
      obtain ⟨left, -, rest⟩ := arrived_rest joined
      obtain ⟨now, later⟩ := clean
      rw [EndsWhole, arrived.split_eq]
      exact ⟨now, ih later rest⟩

theorem serve_clean (r : Receiver) (chunks : List Bytes) (ms : List CtrlMsg) (front : r.bufhead = 0)
    (cut : ctrlFraming.next r.pending = none)
    (joined : r.pending ++ chunks.flatten = stream ms) (clean : CleanSplit r.pending chunks) :
    (serve r chunks).2 = (ctrlFraming.split (r.pending ++ chunks.flatten)).1.map deliver := by
  have begun : Arrived r.pending := ⟨ms, _, joined⟩
  have arrived : Arrived (r.pending ++ chunks.flatten) := ⟨ms, [], by rw [List.append_nil, joined]⟩
  rw [← arrived.split_eq]
  exact serve_endsWhole r chunks front (begun.next_eq.trans cut) (clean.endsWhole joined)

theorem clean_of_length_le_one {pending : Bytes} {chunks : List Bytes} {ms : List CtrlMsg}
    (one : ms.length ≤ 1) (joined : pending ++ chunks.flatten = stream ms) :
    CleanSplit pending chunks := by
  induction chunks generalizing pending ms with
  | nil => trivial
  | cons chunk chunks ih =>
      rw [List.flatten_cons, ← List.append_assoc] at joined
      obtain ⟨left, count, rest⟩ := arrived_rest joined
      refine ⟨?_, ih (by omega) rest⟩
      by_cases nothing : (ctrlFraming.split (pending ++ chunk)).1 = []
      · exact Or.inl nothing
      · -- the one message is complete, so nothing is left of the stream
        have positive := List.length_pos_iff.mpr nothing
        obtain rfl : left = [] := List.length_eq_zero_iff.mp (by omega)
        exact Or.inr (List.append_eq_nil_iff.mp rest).1

theorem round_unfinished (buf : Mem UInt8) (init : List CtrlMsg) (m : CtrlMsg) (front : Bytes) (z : UInt8)
    (bytes : m.bytes = front ++ [z]) :
    (tcpAgain (tcpReadmore (.start buf) (stream init ++ front))).2 = init.map CtrlMsg.delivery ∧
      Drained (tcpReadmore (.start buf) (stream init ++ front))
        (tcpAgain (tcpReadmore (.start buf) (stream init ++ front))).1
        (init.map CtrlMsg.bytes, front) := by
  have partial' : ctrlFraming.split front = ([], front) := by
    refine split_of_none (m.isUnit.next_of_lt ⟨[z], bytes.symm⟩ ?_)
    rw [bytes, List.length_append, List.length_singleton]
    omega
  have cut : ctrlFraming.split (stream init ++ front) = (init.map CtrlMsg.bytes, front) := by
    rw [split_append, stream, split_units (stream_units init), List.nil_append, partial',
      List.append_nil]
  have pending : (tcpReadmore (.start buf) (stream init ++ front)).pending = stream init ++ front :=
    pending_tcpReadmore _ _ rfl
  have drained := tcpAgain_drained (tcpReadmore (.start buf) (stream init ++ front)) (by
    refine ⟨init ++ [m], [z], ?_⟩
    rw [pending, List.append_assoc, ← bytes]
    simp [stream])
  rw [pending, cut, List.map_map] at drained
  exact drained

/-- All but the last byte of two or more messages in one chunk: the last byte is then stored behind
the front of the last message, and not behind what has arrived of it. -/
theorem serve_torn (init : List CtrlMsg) (m : CtrlMsg) (front : Bytes) (z : UInt8)
    (some' : init ≠ []) (bytes : m.bytes = front ++ [z]) :
    (serve (.start fun _ => z + 1) [stream init ++ front, [z]]).2 ≠
      (init ++ [m]).map CtrlMsg.delivery := by
  have least := m.two_le
  rw [bytes, List.length_append, List.length_singleton] at least
  obtain ⟨delivered, drained⟩ := round_unfinished (fun _ => z + 1) init m front z bytes
  let r := tcpReadmore (.start fun _ => z + 1) (stream init ++ front)
  have kept : (tcpAgain r).1.buflen = front.length := drained.buflen
  have behind : 0 < (stream init).length := by
    obtain ⟨first, others, rfl⟩ := List.exists_cons_of_ne_nil some'
    have := first.two_le
    simp only [stream, List.map_cons, List.flatten_cons, List.length_append]
    omega
  have head : (tcpAgain r).1.bufhead = (stream init).length := by
    have displaced := drained.displaced (by simpa using some') (by rintro rfl; simp at least)
    simpa [r, tcpReadmore, Receiver.start, stream] using displaced
  -- the second `recv` does not reach the cell in which the last byte is looked for
  let r' := tcpReadmore (tcpAgain r).1 [z]
  have stale : r'.buf ((stream init).length + front.length) = z + 1 := by
    have received : r.buflen = (stream init).length + front.length := by
      simp [r, tcpReadmore, Receiver.start]
    have second := Mem.store_of_outside (tcpAgain r).1.buf
      (show _ ∨ (tcpAgain r).1.buflen + [z].length ≤ (stream init).length + front.length from
        Or.inr (by rw [kept, List.length_singleton]; omega))
    have first := drained.frame _ (Nat.le_of_eq received)
    have before := Mem.store_of_outside (fun _ => z + 1)
      (show _ ∨ 0 + (stream init ++ front).length ≤ (stream init).length + front.length from
        Or.inr (by rw [List.length_append]; omega))
    exact second.trans (first.trans before)
  intro same
  have last : (tcpAgain r').2 = [m.delivery] := by
    have parts : (tcpAgain r).2 ++ ((tcpAgain r').2 ++ []) = (init ++ [m]).map CtrlMsg.delivery := same
    rw [delivered, List.map_append, List.append_nil] at parts
    exact List.append_cancel_left parts
  have msg : m.bytes = r'.buf.slice r'.bufhead m.bytes.length := tcpAgain_head r' last
  have byte := congrArg (·[front.length]?) msg
  have found : r'.bufhead = (stream init).length := head
  rw [bytes] at byte
  simp only [List.length_append, List.length_singleton, List.getElem?_append_right (Nat.le_refl _),
    Nat.sub_self, List.getElem?_cons_zero, Mem.getElem?_slice, found, stale,
    if_pos (Nat.lt_succ_self _), Option.some.injEq] at byte
  have value := congrArg UInt8.toNat byte
  have bound := z.toNat_lt
  rw [UInt8.toNat_add] at value
  simp at value
  omega

/-! ## What the loop guarantees -/

def Reassembled (ms : List CtrlMsg) (buf : Mem UInt8) (chunks : List Bytes) : Prop :=
  Receivable (.start buf) chunks → chunks.flatten = stream ms →
    (serve (.start buf) chunks).2 = ms.map CtrlMsg.delivery

theorem reassembled_of_clean (ms : List CtrlMsg) (buf : Mem UInt8) (chunks : List Bytes)
    (clean : CleanSplit [] chunks) : Reassembled ms buf chunks := by
  intro _ joined
  have delivered := serve_clean (.start buf) chunks ms rfl next_nil joined clean
  have all : ctrlFraming.split (stream ms) = (ms.map CtrlMsg.bytes, []) :=
    split_units (stream_units ms)
  change _ = (ctrlFraming.split ([] ++ chunks.flatten)).1.map deliver at delivered
  rw [delivered, List.nil_append, joined, all, List.map_map]
  rfl

theorem exists_torn {ms : List CtrlMsg} (two : 2 ≤ ms.length) (fits : (stream ms).length ≤ bufSize) :
    ∃ buf chunks, ¬ Reassembled ms buf chunks := by
  obtain rfl | ⟨init, m, rfl⟩ := ms.eq_nil_or_concat'
  · simp at two
  obtain empty | ⟨front, z, bytes⟩ := m.bytes.eq_nil_or_concat'
  · have := m.two_le
    simp [empty] at this
  have some' : init ≠ [] := by
    rintro rfl
    simp at two
  have joined : stream (init ++ [m]) = stream init ++ front ++ [z] := by
    simp [stream, bytes]
  rw [joined, List.length_append, List.length_append, List.length_singleton] at fits
  refine ⟨fun _ => z + 1, [stream init ++ front, [z]], fun reassembled => ?_⟩
  refine serve_torn init m front z some' bytes (reassembled ⟨?_, ?_, ?_, ?_, trivial⟩ ?_)
  · intro empty
    have least := m.two_le
    rw [bytes, (List.append_eq_nil_iff.mp empty).2] at least
    simp at least
  · rw [List.length_append]
    exact Nat.le_of_lt fits
  · exact List.cons_ne_nil _ _
  · have kept := (round_unfinished (fun _ => z + 1) init m front z bytes).2.buflen
    change _ = front.length at kept
    rw [kept, List.length_singleton]
    omega
  · rw [joined]
    simp

theorem ctrlServerThread_reassembles (ms : List CtrlMsg) :
    (∀ (buf : Mem UInt8) (chunks : List Bytes), CleanSplit [] chunks → Reassembled ms buf chunks) ∧
      ((stream ms).length ≤ bufSize →
        ((∀ buf chunks, Reassembled ms buf chunks) ↔
          ∀ buf chunks, Receivable (.start buf) chunks → chunks.flatten = stream ms →
            CleanSplit [] chunks)) := by
  refine ⟨reassembled_of_clean ms, fun fits => ⟨fun reassembled buf chunks _ joined => ?_, ?_⟩⟩
  · rcases Nat.lt_or_ge 1 ms.length with two | one
    · obtain ⟨buf', chunks', torn⟩ := exists_torn two fits
      exact absurd (reassembled buf' chunks') torn
    · exact clean_of_length_le_one one joined
  · intro clean buf chunks receivable joined
    exact reassembled_of_clean ms buf chunks (clean buf chunks receivable joined) receivable joined

/-- A first message and the length of a second one in one `recv`, the rest of it in the next. -/
def tornMessages : List CtrlMsg :=
  [⟨[0, 4, 1, 2], rfl, by decide, by decide⟩, ⟨[0, 4, 3, 5], rfl, by decide, by decide⟩]

theorem tornMessages_not_reassembled :
    ¬ Reassembled tornMessages (fun _ => 0) [[0, 4, 1, 2, 0, 4], [3, 5]] := by
  intro reassembled
  have out : (serve (.start fun _ => 0) [[0, 4, 1, 2, 0, 4], [3, 5]]).2 =
      [⟨[0, 4, 1, 2], 4⟩, ⟨[0, 4, 0, 0], 4⟩] := by
    decide +kernel
  rw [reassembled (by decide +kernel) rfl] at out
  exact absurd out (by decide)

theorem tornMessages_reassembled :
    (serve (.start fun _ => 0) [[0, 4, 1, 2], [0, 4], [3, 5]]).2 =
      tornMessages.map CtrlMsg.delivery :=
  (ctrlServerThread_reassembles tornMessages).1 (fun _ => 0) [[0, 4, 1, 2], [0, 4], [3, 5]]
    (by decide +kernel) (by decide +kernel) rfl

end GamingAnywhere.Control
