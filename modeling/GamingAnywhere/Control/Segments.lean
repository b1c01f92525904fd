import GamingAnywhere.Control.Parsing

namespace GamingAnywhere.Control
open Lib Framing

/-- No two messages share a byte of the stream, and each stands in it as it was delivered. -/
def Segments (stream : Bytes) : List Delivery → Prop
  | [] => True
  | d :: ds => ∃ skipped rest, stream = skipped ++ (d.msg ++ rest) ∧ d.msglen = d.msg.length ∧ Segments rest ds

theorem Segments.sublist {stream : Bytes} {ds : List Delivery} (segments : Segments stream ds) :
    (ds.flatMap Delivery.msg).Sublist stream := by
  induction ds generalizing stream with
  | nil => exact List.nil_sublist _
  | cons d ds ih =>
      obtain ⟨skipped, rest, rfl, -, segments⟩ := segments
      rw [List.flatMap_cons]
      exact ((List.Sublist.refl _).append (ih segments)).trans (List.sublist_append_right _ _)

theorem segments_flatten (units : List Bytes) (rest : Bytes) :
    Segments (units.flatten ++ rest) (units.map deliver) := by
  induction units with
  | nil => trivial
  | cons u units ih => exact ⟨[], units.flatten ++ rest, by simp [deliver], rfl, ih⟩

theorem announced_take {p : Bytes} {n : Nat} (two : 2 ≤ n) : announced (p.take n) = announced p := by
  obtain ⟨n, rfl⟩ := Nat.exists_eq_add_of_le' two
  rcases p with _ | ⟨hi, _ | ⟨lo, p⟩⟩
  · rfl
  · rfl
  · rfl

theorem announced_ne_zero {p : Bytes} (some' : (segmentFraming.split p).1 ≠ []) : announced p ≠ 0 := by
  cases found : segmentFraming.next p with
  | none =>
      rw [split_of_none found] at some'
      exact absurd rfl some'
  | some u =>
      intro zero
      have nothing : segmentFraming.next p = none := if_neg (by simp [zero])
      rw [nothing] at found
      cases found

theorem tcpAgain_inStep_iff (r : Receiver) (front : r.bufhead = 0) :
    (tcpAgain r).1.InStep (segmentFraming.split r.pending).2 ↔
      (segmentFraming.split r.pending).1 = [] ∨ (segmentFraming.split r.pending).2 = [] := by
  refine ⟨?_, tcpAgain_inStep r front⟩
  rintro ⟨head, pending⟩
  by_contra neither
  obtain ⟨delivered, left⟩ := not_or.mp neither
  have round := (tcpAgain_round r).2
  have joined := split_flatten (F := segmentFraming) r.pending
  cases round.resumes with
  | emptied _ none _ => exact left none
  | behind _ moved _ =>
      have nothing : (segmentFraming.split r.pending).1.flatten = [] :=
        List.length_eq_zero_iff.mp (by omega)
      rw [nothing, List.nil_append] at joined
      have rest := split_rest (F := segmentFraming) r.pending
      rw [joined] at rest
      rw [split_of_none rest] at delivered
      exact delivered rfl
  | restarted two zero _ same =>
      -- the front of the buffer still holds the first message, which announced a length
      have first : (tcpAgain r).1.pending = r.pending.take (segmentFraming.split r.pending).2.length := by
        have bound := congrArg List.length joined
        rw [List.length_append, r.length_pending] at bound
        have taken := r.buf.take_slice r.bufhead r.buflen (segmentFraming.split r.pending).2.length (by omega)
        rw [Receiver.pending, head, same, round.buflen, ← front]
        exact taken.symm
      have length : announced (segmentFraming.split r.pending).2 = announced r.pending := by
        rw [← pending, first, announced_take two]
      exact announced_ne_zero delivered (length.symm.trans zero)

theorem ctrlServerThread_segments (buf : Mem UInt8) (chunks : List Bytes)
    (whole : EndsWhole [] chunks) : Segments chunks.flatten (serve (.start buf) chunks).2 := by
  have delivered := serve_endsWhole (.start buf) chunks rfl next_nil whole
  have joined := split_flatten (F := segmentFraming) chunks.flatten
  rw [delivered]
  change Segments _ ((segmentFraming.split ([] ++ chunks.flatten)).1.map deliver)
  rw [List.nil_append]
  nth_rewrite 1 [← joined]
  exact segments_flatten _ _

theorem ctrlServerThread_segments_zero :
    Segments [0, 3, 5, 0, 0, 0, 2] (serve (.start fun _ => 0) [[0], [3, 5], [0, 0], [0, 2]]).2 :=
  ctrlServerThread_segments (fun _ => 0) [[0], [3, 5], [0, 0], [0, 2]] (by decide +kernel)

/-- A message, and a field of zero in the same `recv`: the message is delivered again. -/
theorem not_ctrlServerThread_segments :
    ¬ ∀ (buf : Mem UInt8) (chunks : List Bytes), Receivable (.start buf) chunks →
      Segments chunks.flatten (serve (.start buf) chunks).2 := by
  intro segments
  have found := (segments (fun _ => 0) [[0, 2, 0, 0], [9]] (by decide +kernel)).sublist
  have out : (serve (.start fun _ => 0) [[0, 2, 0, 0], [9]]).2 = [⟨[0, 2], 2⟩, ⟨[0, 2], 2⟩] := by
    decide +kernel
  rw [out] at found
  exact absurd (found.count_le 2) (by decide)

end GamingAnywhere.Control
