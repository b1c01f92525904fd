import GamingAnywhere.Rtsp.Loop
import GamingAnywhere.Rtsp.Paths

/-!
# The Session header

What `rtspserver` does itself with a `Session: ` line. The value is copied to an array of the size of
`session_id`, however long it is, and from there to `session_id`, where `ff_rtsp_parse_line` has left
that empty. The terminator goes one behind the first free cell: that cell is zero from `bzero`, and
the one behind it can be the first one outside.
-/

namespace GamingAnywhere.Rtsp
open Lib

def sessionIdSize : Nat := 512

/-! ## The line -/

def toLower (c : UInt8) : UInt8 := if 65 ≤ c ∧ c ≤ 90 then c + 32 else c

def IsSession (buf : Bytes) : Prop := (buf.take 9).map toLower = ascii "session: "

instance (buf : Bytes) : Decidable (IsSession buf) := inferInstanceAs (Decidable (_ = _))

def cString (buf : Bytes) : Bytes := buf.takeWhile fun c => c ≠ 0

def sessionText (buf : Bytes) : Bytes := cString (buf.drop 9)

def inWord (c : UInt8) : Prop := ¬ isSpace c ∧ c ≠ 59

instance (c : UInt8) : Decidable (inWord c) := inferInstanceAs (Decidable (_ ∧ _))

/-- The header value: up to the first white space or `';'`. -/
def sessionWord (buf : Bytes) : Bytes := (sessionText buf).takeWhile fun c => inWord c

def sessionValue (buf : Bytes) : Bytes :=
  if IsSession buf then (sessionWord buf).take (sessionIdSize - 1) else []

/-! ## The two copies -/

inductive SessionArray
  | mysession
  | sessionId
  deriving DecidableEq

structure SessionWrite where
  array : SessionArray
  index : Nat
  deriving DecidableEq

def endsSession (c : UInt8) : Prop := c = 0 ∨ isSpace c ∨ c = 59

instance (c : UInt8) : Decidable (endsSession c) := inferInstanceAs (Decidable (_ ∨ _))

/-- The loop over `i`, with the turns left: `session_id`, and the index it ends with. -/
def copySession (mysession : Mem UInt8) : Nat → Nat → Mem UInt8 → Mem UInt8 × Nat
  | 0, i, sessionId => (sessionId, i)
  | n + 1, i, sessionId =>
      if endsSession (mysession i) then (sessionId, i)
      else copySession mysession n (i + 1) (Function.update sessionId i (mysession i))

/-- One header line: `session_id` before it, after `ff_rtsp_parse_line`, and after the line; what is
written to the two arrays in between. -/
structure SessionStep where
  buf : Bytes
  before : Mem UInt8
  parsed : Mem UInt8
  writes : List SessionWrite
  after : Mem UInt8

def mysessionOf (buf : Bytes) : Mem UInt8 :=
  if IsSession buf then Mem.store (fun _ => 0) 0 (sessionText buf ++ [0]) else fun _ => 0

def mysessionWrites (buf : Bytes) : List SessionWrite :=
  if IsSession buf then (List.range ((sessionText buf).length + 1)).map (⟨.mysession, ·⟩) else []

def sessionStep (ffRtspParseLine : Bytes → Mem UInt8 → Mem UInt8) (buf : Bytes)
    (sessionId : Mem UInt8) : SessionStep :=
  let mysession := mysessionOf buf
  let parsed := ffRtspParseLine buf sessionId
  if mysession 0 ≠ 0 ∧ parsed 0 = 0 then
    let copied := copySession mysession (sessionIdSize - 1) 0 parsed
    { buf := buf, before := sessionId, parsed := parsed,
      writes := mysessionWrites buf ++ (List.range copied.2).map (⟨.sessionId, ·⟩) ++
        [⟨.sessionId, copied.2 + 1⟩],
      after := Function.update copied.1 (copied.2 + 1) 0 }
  else
    { buf := buf, before := sessionId, parsed := parsed, writes := mysessionWrites buf,
      after := parsed }

def sessionLoop (ffRtspParseLine : Bytes → Mem UInt8 → Mem UInt8) :
    Mem UInt8 → List Bytes → List SessionStep
  | _, [] => []
  | sessionId, buf :: lines =>
      if blank buf then []
      else
        let step := sessionStep ffRtspParseLine buf sessionId
        step :: sessionLoop ffRtspParseLine step.after lines

/-- The lines of a request, read after `bzero(header, sizeof(*header))`. -/
def sessionHeaders (ffRtspParseLine : Bytes → Mem UInt8 → Mem UInt8) (lines : List Bytes) :
    List SessionStep := sessionLoop ffRtspParseLine (fun _ => 0) lines

/-! ## The copy loop -/

theorem copySession_eq {mysession : Mem UInt8} {v : Bytes} {i : Nat} (string : 0 ∉ v)
    (named : Names mysession i v) (n : Nat) (sessionId : Mem UInt8) :
    copySession mysession n i sessionId =
      (sessionId.store i ((v.takeWhile fun c => inWord c).take n),
        i + ((v.takeWhile fun c => inWord c).take n).length) := by
  induction n generalizing i v sessionId with
  | zero => rw [List.take_zero, Mem.store_nil, copySession, List.length_nil, Nat.add_zero]
  | succ n ih =>
      cases v with
      | nil =>
          have ends : endsSession (mysession i) := .inl (names_nil.mp named)
          rw [copySession, if_pos ends, List.takeWhile_nil, List.take_nil, Mem.store_nil,
            List.length_nil, Nat.add_zero]
      | cons x v =>
          obtain ⟨first, rest⟩ := names_cons.mp named
          have nonzero : x ≠ 0 := fun zero => string (zero ▸ List.mem_cons_self)
          by_cases goes : inWord x
          · have stays : ¬ endsSession (mysession i) := by
              rw [first]
              rintro (zero | space | semicolon)
              · exact nonzero zero
              · exact goes.1 space
              · exact goes.2 semicolon
            rw [copySession, if_neg stays, ih (List.not_mem_of_not_mem_cons string) rest,
              List.takeWhile_cons, if_pos (decide_eq_true goes), List.take_succ_cons, Mem.store_cons,
              first, List.length_cons, Nat.add_right_comm, Nat.add_assoc]
          · have ends : endsSession (mysession i) := by
              rw [first]
              by_cases space : isSpace x
              · exact .inr (.inl space)
              · exact .inr (.inr (not_not.mp fun other => goes ⟨space, other⟩))
            rw [copySession, if_pos ends, List.takeWhile_cons, if_neg (by simpa using goes), List.take_nil,
              Mem.store_nil, List.length_nil, Nat.add_zero]

theorem zero_not_mem_cString (buf : Bytes) : (0 : UInt8) ∉ cString buf := by
  intro zero
  have nonzero := List.all_eq_true.mp List.all_takeWhile 0 zero
  simp at nonzero

theorem mysession_names {buf : Bytes} (session : IsSession buf) :
    Names (mysessionOf buf) 0 (sessionText buf) := by
  rw [mysessionOf, if_pos session]
  exact names_store _ (sessionText buf) []

theorem mysession_zero_iff (buf : Bytes) :
    mysessionOf buf 0 ≠ 0 ↔ IsSession buf ∧ sessionText buf ≠ [] := by
  by_cases session : IsSession buf
  · have named := mysession_names session
    have string := zero_not_mem_cString (buf.drop 9)
    change 0 ∉ sessionText buf at string
    cases text : sessionText buf with
    | nil =>
        rw [text] at named
        simp [names_nil.mp named]
    | cons x v =>
        rw [text] at named string
        have nonzero : x ≠ 0 := fun zero => string (zero ▸ List.mem_cons_self)
        simp [(names_cons.mp named).1, session, nonzero]
  · simp [mysessionOf, session]

/-! ## One line -/

/-- The value fits `mysession`, and what is copied of it, where `session_id` is empty, leaves room for
the terminator one behind it. -/
def SessionStep.Fits (step : SessionStep) : Prop :=
  IsSession step.buf → (sessionText step.buf).length < sessionIdSize ∧
    (step.parsed 0 = 0 → (sessionWord step.buf).length < sessionIdSize - 1)

theorem index_lt_iff {array : SessionArray} {n size : Nat} :
    (∀ write ∈ (List.range n).map (SessionWrite.mk array), write.index < size) ↔ n ≤ size := by
  constructor
  · intro inside
    by_contra outside
    have last := inside ⟨array, size⟩ (List.mem_map_of_mem (List.mem_range.mpr (by omega)))
    exact Nat.lt_irrefl _ last
  · intro le write member
    obtain ⟨i, below, rfl⟩ := List.mem_map.mp member
    exact Nat.lt_of_lt_of_le (List.mem_range.mp below) le

section
variable (parse : Bytes → Mem UInt8 → Mem UInt8) (buf : Bytes) (sessionId : Mem UInt8)

@[simp] theorem sessionStep_buf : (sessionStep parse buf sessionId).buf = buf := by
  unfold sessionStep
  dsimp only
  split <;> rfl

@[simp] theorem sessionStep_before : (sessionStep parse buf sessionId).before = sessionId := by
  unfold sessionStep
  dsimp only
  split <;> rfl

theorem sessionStep_skipped (kept : ¬(mysessionOf buf 0 ≠ 0 ∧ parse buf sessionId 0 = 0)) :
    sessionStep parse buf sessionId =
      ⟨buf, sessionId, parse buf sessionId, mysessionWrites buf, parse buf sessionId⟩ :=
  if_neg kept

theorem sessionStep_copied (session : IsSession buf) (text : sessionText buf ≠ [])
    (empty : parse buf sessionId 0 = 0) :
    let word := (sessionWord buf).take (sessionIdSize - 1)
    sessionStep parse buf sessionId =
      { buf := buf, before := sessionId, parsed := parse buf sessionId,
        writes := mysessionWrites buf ++
          (List.range word.length).map (⟨.sessionId, ·⟩) ++ [⟨.sessionId, word.length + 1⟩],
        after := Function.update ((parse buf sessionId).store 0 word) (word.length + 1) 0 } := by
  have copied := copySession_eq (zero_not_mem_cString (buf.drop 9)) (mysession_names session)
    (sessionIdSize - 1) (parse buf sessionId)
  rw [Nat.zero_add] at copied
  rw [sessionStep]
  dsimp only
  rw [if_pos ⟨(mysession_zero_iff buf).mpr ⟨session, text⟩, empty⟩, copied]
  rfl

theorem sessionStep_inside_iff :
    (∀ write ∈ (sessionStep parse buf sessionId).writes, write.index < sessionIdSize) ↔
      (sessionStep parse buf sessionId).Fits := by
  by_cases session : IsSession buf
  · have first : (∀ write ∈ mysessionWrites buf, write.index < sessionIdSize) ↔
        (sessionText buf).length < sessionIdSize := by
      rw [mysessionWrites, if_pos session, index_lt_iff]
      rfl
    by_cases copies : sessionText buf ≠ [] ∧ parse buf sessionId 0 = 0
    · rw [sessionStep_copied parse buf sessionId session copies.1 copies.2, SessionStep.Fits]
      simp only [List.forall_mem_append, first, index_lt_iff, List.forall_mem_singleton, session,
        copies.2, forall_const, List.length_take]
      unfold sessionIdSize
      omega
    · have kept : ¬(mysessionOf buf 0 ≠ 0 ∧ parse buf sessionId 0 = 0) := by
        rintro ⟨nonzero, empty⟩
        exact copies ⟨((mysession_zero_iff buf).mp nonzero).2, empty⟩
      rw [sessionStep_skipped parse buf sessionId kept, SessionStep.Fits]
      simp only [first, session, forall_const]
      refine (and_iff_left ?_).symm
      intro empty
      have text : sessionText buf = [] := by
        by_contra text
        exact copies ⟨text, empty⟩
      rw [sessionWord, text]
      decide
  · have kept : ¬(mysessionOf buf 0 ≠ 0 ∧ parse buf sessionId 0 = 0) := by
      rintro ⟨nonzero, -⟩
      exact session ((mysession_zero_iff buf).mp nonzero).1
    rw [sessionStep_skipped parse buf sessionId kept, SessionStep.Fits]
    simp [mysessionWrites, session]

/-- Where `session_id` is empty it is all zero: `bzero` has made it so. -/
def Cleared (sessionId : Mem UInt8) : Prop :=
  sessionId 0 = 0 → ∀ i < sessionIdSize, sessionId i = 0

variable {parse buf sessionId}

theorem length_sessionValue_lt : (sessionValue buf).length < sessionIdSize := by
  unfold sessionValue sessionIdSize
  split
  · rw [List.length_take]
    omega
  · decide

theorem sessionValue_eq_nil (text : IsSession buf → sessionText buf = []) : sessionValue buf = [] := by
  unfold sessionValue
  split
  · rename_i session
    rw [sessionWord, text session, List.takeWhile_nil, List.take_nil]
  · rfl

theorem sessionStep_value (cleared : Cleared sessionId) (untouched : parse buf sessionId = sessionId)
    (empty : sessionId 0 = 0) :
    Names (sessionStep parse buf sessionId).after 0 (sessionValue buf) := by
  by_cases copies : IsSession buf ∧ sessionText buf ≠ []
  · obtain ⟨session, text⟩ := copies
    have parsed : parse buf sessionId 0 = 0 := by rw [untouched, empty]
    have value : sessionValue buf = (sessionWord buf).take (sessionIdSize - 1) := if_pos session
    have short : (sessionValue buf).length < sessionIdSize := length_sessionValue_lt
    rw [sessionStep_copied parse buf sessionId session text parsed, ← value, untouched]
    have behind : sessionId.store 0 (sessionValue buf) (sessionValue buf).length = 0 := by
      rw [Mem.store_of_outside _ (Or.inr (by omega))]
      exact cleared empty _ short
    calc Mem.slice _ 0 ((sessionValue buf).length + 1)
        = (sessionId.store 0 (sessionValue buf)).slice 0 ((sessionValue buf).length + 1) := by
          apply Mem.slice_congr
          intro i _ below
          exact Function.update_of_ne (by omega) ..
      _ = sessionValue buf ++ [0] := by
          rw [Mem.slice_add, Mem.slice_store_self, Nat.zero_add, Mem.slice_succ, behind, Mem.slice_zero]
  · have text (session : IsSession buf) : sessionText buf = [] := by
      by_contra text
      exact copies ⟨session, text⟩
    have kept : ¬(mysessionOf buf 0 ≠ 0 ∧ parse buf sessionId 0 = 0) := by
      rintro ⟨nonzero, -⟩
      exact copies ((mysession_zero_iff buf).mp nonzero)
    rw [sessionStep_skipped parse buf sessionId kept, sessionValue_eq_nil text, names_nil, untouched]
    exact empty

theorem sessionStep_cleared (cleared : Cleared sessionId) (untouched : parse buf sessionId = sessionId) :
    Cleared (sessionStep parse buf sessionId).after := by
  by_cases copies : mysessionOf buf 0 ≠ 0 ∧ parse buf sessionId 0 = 0
  · obtain ⟨session, text⟩ := (mysession_zero_iff buf).mp copies.1
    have empty : sessionId 0 = 0 := untouched ▸ copies.2
    have filled := sessionStep_value cleared untouched empty
    rw [sessionStep_copied parse buf sessionId session text copies.2, untouched] at filled ⊢
    dsimp only at filled ⊢
    rw [show sessionValue buf = (sessionWord buf).take (sessionIdSize - 1) from if_pos session] at filled
    cases word : (sessionWord buf).take (sessionIdSize - 1) with
    | nil =>
        intro _ i below
        rw [Mem.store_nil, Function.update_apply]
        split
        · rfl
        · exact cleared empty i below
    | cons x rest =>
        intro zero
        rw [word] at filled
        have first : x = 0 := (names_cons.mp filled).1.symm.trans zero
        have member : x ∈ sessionText buf := by
          have taken : x ∈ (sessionWord buf).take (sessionIdSize - 1) := word ▸ List.mem_cons_self
          exact (List.takeWhile_prefix _).subset (List.mem_of_mem_take taken)
        exact absurd (first ▸ member) (zero_not_mem_cString (buf.drop 9))
  · rw [sessionStep_skipped parse buf sessionId copies, untouched]
    exact cleared

end

/-! ## The lines of a request -/

variable {parse : Bytes → Mem UInt8 → Mem UInt8}

theorem sessionLoop_step {sessionId : Mem UInt8} {lines : List Bytes} {step : SessionStep}
    (member : step ∈ sessionLoop parse sessionId lines) :
    step = sessionStep parse step.buf step.before := by
  induction lines generalizing sessionId with
  | nil => cases member
  | cons buf lines ih =>
      rw [sessionLoop] at member
      split at member
      · cases member
      · obtain rfl | later := List.mem_cons.mp member
        · rw [sessionStep_buf, sessionStep_before]
        · exact ih later

theorem sessionLoop_cleared (storesNothing : ∀ buf m, parse buf m = m) {sessionId : Mem UInt8}
    (cleared : Cleared sessionId) {lines : List Bytes} {step : SessionStep}
    (member : step ∈ sessionLoop parse sessionId lines) : Cleared step.before := by
  induction lines generalizing sessionId with
  | nil => cases member
  | cons buf lines ih =>
      rw [sessionLoop] at member
      split at member
      · cases member
      · obtain rfl | later := List.mem_cons.mp member
        · rwa [sessionStep_before]
        · exact ih (sessionStep_cleared cleared (storesNothing buf _)) later

structure SessionStep.Right (parse : Bytes → Mem UInt8 → Mem UInt8) (step : SessionStep) : Prop where
  inside : ∀ write ∈ step.writes, write.index < sessionIdSize
  value : (∀ buf m, parse buf m = m) → step.before 0 = 0 →
    Names step.after 0 (sessionValue step.buf)

theorem sessionHeaders_right_iff (parse : Bytes → Mem UInt8 → Mem UInt8) (lines : List Bytes)
    (step : SessionStep) (member : step ∈ sessionHeaders parse lines) :
    step.Right parse ↔ step.Fits := by
  have result := sessionLoop_step member
  constructor
  · intro right
    rw [result, ← sessionStep_inside_iff, ← result]
    exact right.inside
  · intro fits
    rw [result, ← sessionStep_inside_iff, ← result] at fits
    refine ⟨fits, ?_⟩
    intro storesNothing empty
    have cleared := sessionLoop_cleared storesNothing (fun _ _ _ => rfl) member
    have filled := sessionStep_value cleared (storesNothing step.buf _) empty
    rwa [← result] at filled

theorem oneSession_right :
    (sessionStep (fun _ m => m) (ascii "Session: 12345678;timeout=60\r\n") fun _ => 0).Right
      fun _ m => m := by
  have member : sessionStep (fun _ m => m) (ascii "Session: 12345678;timeout=60\r\n") (fun _ => 0) ∈
      sessionHeaders (fun _ m => m) [ascii "Session: 12345678;timeout=60\r\n"] := by
    rw [sessionHeaders, sessionLoop, if_neg (by decide)]
    exact List.mem_cons_self
  rw [sessionHeaders_right_iff _ _ _ member, SessionStep.Fits, sessionStep_buf]
  intro _
  exact ⟨by decide, fun _ => by decide⟩

theorem not_sessionHeaders_right :
    ¬ ∀ (parse : Bytes → Mem UInt8 → Mem UInt8) (lines : List Bytes),
      (∀ buf ∈ lines, buf.length < bufSize) →
        ∀ step ∈ sessionHeaders parse lines, step.Right parse := by
  intro right
  let buf := ascii "Session: " ++ List.replicate 512 97 ++ ascii "\r\n"
  have member : sessionStep (fun _ m => m) buf (fun _ => 0) ∈ sessionHeaders (fun _ m => m) [buf] := by
    rw [sessionHeaders, sessionLoop, if_neg (by decide +kernel)]
    exact List.mem_cons_self
  have read : ∀ line ∈ [buf], line.length < bufSize := by decide +kernel
  have inside := (right _ _ read _ member).inside
  rw [sessionStep_inside_iff, SessionStep.Fits, sessionStep_buf] at inside
  exact absurd (inside (by decide +kernel)).1 (by decide +kernel)

end GamingAnywhere.Rtsp
