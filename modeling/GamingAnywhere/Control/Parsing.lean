import GamingAnywhere.Control.Server

namespace GamingAnywhere.Control
open Lib Framing

/-- A field of zero announces nothing, and a field of one a message that its own field does not fit. -/
def segmentFraming : Framing UInt8 where
  next p :=
    if 2 ≤ p.length ∧ announced p ≠ 0 ∧ announced p ≤ p.length then some (p.take (announced p)) else none
  next_prefix := by
    intro p u found
    split at found
    · cases found
      exact List.take_prefix _ _
    · cases found
  next_ne_nil := by
    intro p u found
    split at found
    · rename_i bounds
      cases found
      intro empty
      have none := congrArg List.length empty
      rw [List.length_take, List.length_nil] at none
      omega
    · cases found
  next_append := by
    intro p u q found
    split at found
    · rename_i bounds
      cases found
      obtain ⟨hi, lo, rest, rfl⟩ : ∃ hi lo rest, p = hi :: lo :: rest := by
        rcases p with _ | ⟨hi, _ | ⟨lo, rest⟩⟩
        · simp at bounds
        · simp at bounds
        · exact ⟨hi, lo, rest, rfl⟩
      have same : announced (hi :: lo :: rest ++ q) = announced (hi :: lo :: rest) := rfl
      rw [same, if_pos, List.take_append_of_le_length bounds.2.2]
      rw [List.length_append]
      exact ⟨Nat.le_add_right_of_le bounds.1, bounds.2.1, Nat.le_add_right_of_le bounds.2.2⟩
    · cases found

def Receiver.pending (r : Receiver) : Bytes := r.buf.slice r.bufhead r.buflen

@[simp] theorem Receiver.length_pending (r : Receiver) : r.pending.length = r.buflen :=
  Mem.length_slice _ _ _

theorem Receiver.pending_ne_nil (r : Receiver) (some' : r.buflen ≠ 0) : r.pending ≠ [] := by
  rw [← r.length_pending] at some'
  exact fun none => some' (List.length_eq_zero_iff.mpr none)

def deliver (u : Bytes) : Delivery := ⟨u, u.length⟩

theorem pending_tcpReadmore (r : Receiver) (chunk : Bytes) (front : r.bufhead = 0) :
    (tcpReadmore r chunk).pending = r.pending ++ chunk := by
  have extended := r.buf.slice_store_append 0 r.buflen chunk
  rw [Nat.zero_add] at extended
  simpa only [Receiver.pending, tcpReadmore, front] using extended

theorem msglen_eq (r : Receiver) (two : 2 ≤ r.buflen) : r.msglen = announced r.pending := by
  obtain ⟨n, length⟩ := Nat.exists_eq_add_of_le two
  rw [Receiver.pending, length, Nat.add_comm, Mem.slice_succ, Mem.slice_succ]
  rfl

/-- Where the receiver goes on: behind what it has delivered, or, at a length of zero, at the front of
the buffer with as many bytes as it has left. -/
inductive Resumes (r r' : Receiver) (cut : List Bytes × Bytes) : Prop
  | emptied : cut.1 ≠ [] → cut.2 = [] → r'.bufhead = 0 → Resumes r r' cut
  | behind : (r.buflen ≠ 0 → cut.2 ≠ []) → r'.bufhead = r.bufhead + cut.1.flatten.length →
      (r'.bufhead = 0 → r'.pending = cut.2) → Resumes r r' cut
  | restarted : 2 ≤ cut.2.length → announced cut.2 = 0 → r'.bufhead = 0 → r'.buf = r.buf →
      Resumes r r' cut

structure Round (r r' : Receiver) (cut : List Bytes × Bytes) : Prop where
  buflen : r'.buflen = cut.2.length
  resumes : Resumes r r' cut
  frame : ∀ i, r.buflen ≤ i → r'.buf i = r.buf i

theorem segment_eq_none {r : Receiver}
    (stops : r.buflen < 2 ∨ r.msglen = 0 ∨ r.buflen < r.msglen) :
    segmentFraming.next r.pending = none := by
  refine if_neg ?_
  rintro ⟨two, nonzero, whole⟩
  rw [r.length_pending] at two whole
  rw [msglen_eq r two] at stops
  omega

theorem split_segment (r : Receiver) (two : 2 ≤ r.buflen) (nonzero : r.msglen ≠ 0)
    (whole : r.msglen ≤ r.buflen) :
    segmentFraming.split r.pending =
        (r.buf.slice r.bufhead r.msglen :: (segmentFraming.split (r.pending.drop r.msglen)).1,
          (segmentFraming.split (r.pending.drop r.msglen)).2) ∧
      r.pending.drop r.msglen = r.buf.slice (r.bufhead + r.msglen) (r.buflen - r.msglen) := by
  have length := msglen_eq r two
  have found : segmentFraming.next r.pending = some (r.pending.take r.msglen) := by
    rw [length] at nonzero whole ⊢
    refine if_pos ⟨?_, nonzero, ?_⟩
    · rwa [r.length_pending]
    · rwa [r.length_pending]
  have taken : r.pending.take r.msglen = r.buf.slice r.bufhead r.msglen := r.buf.take_slice _ _ _ whole
  have first := split_of_some found
  rw [taken, Mem.length_slice] at first
  exact ⟨first, r.buf.drop_slice _ _ _ whole⟩

theorem tcpAgain_round (r : Receiver) :
    (tcpAgain r).2 = (segmentFraming.split r.pending).1.map deliver ∧
      Round r (tcpAgain r).1 (segmentFraming.split r.pending) := by
  induction r using tcpAgain.induct with
  | case1 r short =>
      rw [tcpAgain, if_pos short, split_of_none (segment_eq_none (.inl short))]
      exact ⟨rfl, r.length_pending.symm, .behind r.pending_ne_nil rfl fun _ => rfl, fun _ _ => rfl⟩
  | case2 r two zero =>
      rw [tcpAgain, if_neg two, if_pos zero, split_of_none (segment_eq_none (.inr (.inl zero)))]
      refine ⟨rfl, r.length_pending.symm, .restarted ?_ ?_ rfl rfl, fun _ _ => rfl⟩
      · rw [r.length_pending]
        omega
      · rwa [← msglen_eq r (by omega)]
  | case3 r two nonzero partial' =>
      rw [tcpAgain, if_neg two, if_neg nonzero, if_pos partial',
        split_of_none (segment_eq_none (.inr (.inr partial')))]
      refine ⟨rfl, r.length_pending.symm, .behind r.pending_ne_nil rfl fun front => ?_,
        fun i above => ?_⟩
      · have moved := r.buf.slice_bcopy r.bufhead 0 r.buflen
        dsimp only at front
        simpa only [Receiver.pending, front] using moved
      · have outside : i < 0 ∨ 0 + r.buflen ≤ i := Or.inr (by omega)
        exact r.buf.bcopy_of_outside outside
  | case4 r two nonzero whole more ih =>
      obtain ⟨first, rest⟩ := split_segment r (by omega) nonzero (by omega)
      rw [rest] at first
      obtain ⟨delivered, round⟩ := ih
      rw [tcpAgain, if_neg two, if_neg nonzero, if_neg whole, if_pos more, first]
      change _ :: _ = deliver _ :: _ ∧ _
      refine ⟨?_, round.buflen, ?_, fun i above => round.frame i (by dsimp only; omega)⟩
      · rw [delivered, deliver, Mem.length_slice]
        rfl
      · cases round.resumes with
        | emptied _ none front => exact .emptied (List.cons_ne_nil _ _) none front
        | behind left head front =>
            refine .behind (fun _ => left (by dsimp only; omega)) ?_ front
            rw [head, List.flatten_cons, List.length_append, Mem.length_slice, Nat.add_assoc]
            rfl
        | restarted two zero front same => exact .restarted two zero front same
  | case5 r two nonzero whole last =>
      obtain ⟨first, rest⟩ := split_segment r (by omega) nonzero (by omega)
      have nothing : r.buflen - r.msglen = 0 := by omega
      rw [rest, nothing, Mem.slice_zero, split_of_none next_nil] at first
      rw [tcpAgain, if_neg two, if_neg nonzero, if_neg whole, if_neg last, first]
      refine ⟨?_, rfl, .emptied (List.cons_ne_nil _ _) rfl rfl, fun _ _ => rfl⟩
      simp [deliver]

/-! ## In step with the stream -/

def Receiver.InStep (r : Receiver) (rest : Bytes) : Prop := r.bufhead = 0 ∧ r.pending = rest

/-- No result of `recv` that completes a message brings anything behind it that is not completed too. -/
def EndsWhole (pending : Bytes) : List Bytes → Prop
  | [] => True
  | chunk :: chunks =>
      let cut := segmentFraming.split (pending ++ chunk)
      (cut.1 = [] ∨ cut.2 = []) ∧ EndsWhole cut.2 chunks

instance decidableEndsWhole : ∀ (pending : Bytes) (chunks : List Bytes), Decidable (EndsWhole pending chunks)
  | _, [] => isTrue trivial
  | pending, chunk :: chunks =>
      have := decidableEndsWhole (segmentFraming.split (pending ++ chunk)).2 chunks
      inferInstanceAs (Decidable (_ ∧ _))

theorem tcpAgain_inStep (r : Receiver) (front : r.bufhead = 0)
    (whole : (segmentFraming.split r.pending).1 = [] ∨ (segmentFraming.split r.pending).2 = []) :
    (tcpAgain r).1.InStep (segmentFraming.split r.pending).2 := by
  have round := (tcpAgain_round r).2
  have joined := split_flatten (F := segmentFraming) r.pending
  by_cases none : (segmentFraming.split r.pending).2 = []
  · have pending : (tcpAgain r).1.pending = [] := by
      rw [Receiver.pending, round.buflen, none]
      rfl
    refine ⟨?_, pending.trans none.symm⟩
    cases round.resumes with
    | emptied _ _ head => exact head
    | behind left moved _ =>
        have empty : r.buflen = 0 := by
          by_contra filled
          exact left filled none
        rw [Receiver.pending, empty, Mem.slice_zero, split_of_none next_nil] at moved
        exact moved.trans front
    | restarted _ _ head _ => exact head
  · have nothing := whole.resolve_right none
    rw [nothing] at joined
    cases round.resumes with
    | emptied some' _ _ => exact absurd nothing some'
    | behind _ moved pending =>
        have head : (tcpAgain r).1.bufhead = 0 := by
          rw [moved, front, nothing]
          rfl
        exact ⟨head, pending head⟩
    | restarted _ _ head same =>
        rw [List.flatten_nil, List.nil_append] at joined
        refine ⟨head, ?_⟩
        rw [Receiver.pending, head, same, round.buflen, joined, r.length_pending, ← front]
        rfl

theorem serve_endsWhole (r : Receiver) (chunks : List Bytes) (front : r.bufhead = 0)
    (cut : segmentFraming.next r.pending = none) (whole : EndsWhole r.pending chunks) :
    (serve r chunks).2 = (segmentFraming.split (r.pending ++ chunks.flatten)).1.map deliver := by
  induction chunks generalizing r with
  | nil =>
      rw [List.flatten_nil, List.append_nil, split_of_none cut]
      rfl
  | cons chunk chunks ih =>
      obtain ⟨now, later⟩ := whole
      rw [← pending_tcpReadmore r chunk front] at now later
      have delivered := (tcpAgain_round (tcpReadmore r chunk)).1
      obtain ⟨head, pending⟩ := tcpAgain_inStep (tcpReadmore r chunk) front now
      have none := split_rest (F := segmentFraming) (tcpReadmore r chunk).pending
      rw [← pending] at later none
      rw [List.flatten_cons, ← List.append_assoc, ← pending_tcpReadmore r chunk front, split_append,
        ← pending, List.map_append, ← delivered, ← ih _ head none later]
      rfl

end GamingAnywhere.Control
