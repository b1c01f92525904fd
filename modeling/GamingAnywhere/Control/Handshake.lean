import GamingAnywhere.Control.Reassembly

/-!
# The handshake of the control connection

The first byte of the handshake counts itself, the id and a terminating zero. The server compares as
many bytes of the id as the first byte says, which is one more than there are behind it. `buf` is what
the array holds before the first `recv`, and `myctrlid` the memory from the server's id on.
-/

namespace GamingAnywhere.Control
open Lib

def ctrlMaxIdLength : Nat := 64

def ctrlhandshakeSize : Nat := 1 + ctrlMaxIdLength

def strncpy (src : Bytes) (n : Nat) : Bytes := (src ++ List.replicate n 0).take n

def ctrlClientInit (ctrlid : Bytes) : Bytes :=
  let length := UInt8.ofNat (1 + ctrlid.length + 1)
  let length := if ctrlhandshakeSize < length.toNat then UInt8.ofNat ctrlhandshakeSize else length
  (length :: strncpy ctrlid ctrlMaxIdLength).take length.toNat

/-- `memcmp(p, q, n) == 0` -/
def MemcmpEq (p : Mem UInt8) (i : Nat) (q : Mem UInt8) (j n : Nat) : Prop := p.slice i n = q.slice j n

instance (p : Mem UInt8) (i : Nat) (q : Mem UInt8) (j n : Nat) : Decidable (MemcmpEq p i q j n) :=
  inferInstanceAs (Decidable (_ = _))

def AcceptsHandshake (myctrlid buf : Mem UInt8) (buflen : Nat) : Prop :=
  ¬ buflen < (buf 0).toNat ∧ MemcmpEq myctrlid 0 buf 1 (buf 0).toNat

instance (myctrlid buf : Mem UInt8) (buflen : Nat) : Decidable (AcceptsHandshake myctrlid buf buflen) :=
  inferInstanceAs (Decidable (_ ∧ _))

/-- A connection from `accept` to the loop: the receiver that the loop starts with and the results of
`recv` that it still gets, `none` for `goto restart`. -/
def tcpAccepted (myctrlid buf : Mem UInt8) : List Bytes → Option (Receiver × List Bytes)
  | [] => none
  | chunk :: chunks =>
      let buf := buf.store 0 chunk
      if chunk = [] then none
      else if AcceptsHandshake myctrlid buf chunk.length then some (.start buf, chunks) else none

/-! ## Ids -/

def handshake (id : Bytes) : Bytes := UInt8.ofNat (id.length + 2) :: id ++ [0]

structure CtrlId (id : Bytes) : Prop where
  terminated : (0 : UInt8) ∉ id
  short : id.length ≤ 62

/-- `strdup`: the id and its terminator; nothing is known of what follows. -/
def Holds (myctrlid : Mem UInt8) (id : Bytes) : Prop :=
  myctrlid.slice 0 (id.length + 1) = id ++ [0]

section
variable {id : Bytes} {myctrlid buf : Mem UInt8} {block : Bytes}

theorem handshake_ne_nil : handshake id ≠ [] := List.cons_ne_nil _ _

theorem CtrlId.length_byte (valid : CtrlId id) : (UInt8.ofNat (id.length + 2)).toNat = id.length + 2 := by
  have := valid.short
  rw [UInt8.toNat_ofNat']
  omega

theorem ctrlClientInit_eq (valid : CtrlId id) : ctrlClientInit id = handshake id := by
  have short := valid.short
  have length := valid.length_byte
  have sum : 1 + id.length + 1 = id.length + 2 := by omega
  have fits : ¬ ctrlhandshakeSize < id.length + 2 := by
    unfold ctrlhandshakeSize ctrlMaxIdLength
    omega
  rw [ctrlClientInit, sum]
  simp only [length, if_neg fits]
  rw [handshake, strncpy, List.cons_append, List.take_succ_cons, List.take_take]
  have zeros : List.replicate ctrlMaxIdLength (0 : UInt8) = 0 :: List.replicate 63 0 := rfl
  have cut : min (id.length + 1) ctrlMaxIdLength = id.length + 1 := by
    unfold ctrlMaxIdLength
    omega
  rw [cut, zeros, List.take_length_add_append]
  rfl

theorem Holds.cell (holds : Holds myctrlid id) {i : Nat} (lt : i < id.length + 1) :
    (id ++ [0])[i]? = some (myctrlid i) := by
  rw [← holds, Mem.getElem?_slice, if_pos lt, Nat.zero_add]

theorem received (stale : Mem UInt8) {block : Bytes} {i : Nat} (lt : i < block.length) :
    block[i]? = some (stale.store 0 block i) := by
  have cell : stale.store 0 block (0 + i) = block[i] := stale.store_inside lt
  rw [Nat.zero_add] at cell
  rw [cell, List.getElem?_eq_getElem lt]

def hhLength (block : Bytes) : Nat := (block.headD 0).toNat

theorem acceptsHandshake_iff (stale : Mem UInt8) (nonempty : block ≠ []) :
    AcceptsHandshake myctrlid (stale.store 0 block) block.length ↔
      hhLength block ≤ block.length ∧
        ∀ i < hhLength block, myctrlid i = stale.store 0 block (i + 1) := by
  obtain ⟨x, rest, rfl⟩ := List.exists_cons_of_ne_nil nonempty
  have first : stale.store 0 (x :: rest) 0 = x := rfl
  rw [AcceptsHandshake, MemcmpEq, first, Mem.slice_eq_slice, Nat.not_lt]
  simp only [Nat.zero_add, Nat.add_comm 1]
  rfl

/-! ## What decides -/

/-- The answer is right whatever lies behind the received bytes and behind the server's id. -/
def Decides (id block : Bytes) : Prop :=
  ∀ myctrlid stale : Mem UInt8, Holds myctrlid id →
    (AcceptsHandshake myctrlid (stale.store 0 block) block.length ↔ handshake id <+: block)

/-- The first byte exceeds the number of bytes received, or one of the bytes that are compared, which
was received and which belongs to the id, differs. -/
def Refuted (id block : Bytes) : Prop :=
  block.length < hhLength block ∨
    ∃ i x y, i < hhLength block ∧ (id ++ [0])[i]? = some x ∧ block[i + 1]? = some y ∧ x ≠ y

theorem Refuted.refused (refuted : Refuted id block) (nonempty : block ≠ [])
    (holds : Holds myctrlid id) (stale : Mem UInt8) :
    ¬ AcceptsHandshake myctrlid (stale.store 0 block) block.length := by
  rw [acceptsHandshake_iff stale nonempty]
  rintro ⟨fits, same⟩
  rcases refuted with long | ⟨i, x, y, compared, mine, theirs, different⟩
  · omega
  · have lt := (List.getElem?_eq_some_iff.mp mine).1
    rw [List.length_append, List.length_singleton] at lt
    rw [holds.cell lt] at mine
    rw [received stale (List.getElem?_eq_some_iff.mp theirs).1] at theirs
    apply different
    rw [← Option.some.inj mine, ← Option.some.inj theirs]
    exact same i compared

theorem hhLength_of_isPrefix (valid : CtrlId id) (carried : handshake id <+: block) :
    hhLength block = id.length + 2 := by
  obtain ⟨rest, rfl⟩ := carried
  exact valid.length_byte

theorem Refuted.not_isPrefix (refuted : Refuted id block) (valid : CtrlId id) :
    ¬ handshake id <+: block := by
  intro carried
  have length := hhLength_of_isPrefix valid carried
  have size : (handshake id).length = id.length + 2 := by simp [handshake]
  rcases refuted with long | ⟨i, x, y, compared, mine, theirs, different⟩
  · have := carried.length_le
    omega
  · have lt := (List.getElem?_eq_some_iff.mp mine).1
    rw [List.length_append, List.length_singleton] at lt
    have inside : i + 1 < (handshake id).length := by omega
    have here : block[i + 1]? = (id ++ [0])[i]? := by
      obtain ⟨rest, rfl⟩ := carried
      rw [List.getElem?_append_left inside]
      rfl
    rw [mine, theirs] at here
    exact different (Option.some.inj here).symm

theorem exists_accepting (nonempty : block ≠ []) (open' : ¬ Refuted id block) :
    ∃ myctrlid stale : Mem UInt8, Holds myctrlid id ∧
      AcceptsHandshake myctrlid (stale.store 0 block) block.length := by
  let myctrlid : Mem UInt8 := fun i => (id ++ [0])[i]?.getD (block[i + 1]?.getD 0)
  let stale : Mem UInt8 := fun j => (id ++ [0])[j - 1]?.getD 0
  refine ⟨myctrlid, stale, ?_, (acceptsHandshake_iff stale nonempty).mpr ⟨?_, ?_⟩⟩
  · apply List.ext_getElem?
    intro i
    rw [Mem.getElem?_slice, Nat.zero_add]
    split_ifs with lt
    · have inside : i < (id ++ [0]).length := by simpa using lt
      simp only [myctrlid, List.getElem?_eq_getElem inside, Option.getD_some]
    · rw [List.getElem?_eq_none (by simpa using lt)]
  · exact Nat.le_of_not_lt fun long => open' (.inl long)
  · intro i compared
    by_cases arrived : i + 1 < block.length
    · have theirs := received stale arrived
      cases mine : (id ++ [0])[i]? with
      | none => simp [myctrlid, mine, theirs]
      | some x =>
          by_contra different
          refine open' (.inr ⟨i, x, _, compared, mine, theirs, fun same => different ?_⟩)
          simp [myctrlid, mine, same]
    · have behind : stale.store 0 block (i + 1) = stale (i + 1) :=
        stale.store_of_outside (by omega)
      rw [behind]
      simp [myctrlid, stale, List.getElem?_eq_none (Nat.le_of_not_lt arrived)]

theorem exists_refusing (valid : CtrlId id) (carried : handshake id <+: block) :
    ∃ myctrlid stale : Mem UInt8, Holds myctrlid id ∧
      ¬ AcceptsHandshake myctrlid (stale.store 0 block) block.length := by
  let stale : Mem UInt8 := fun _ => 0
  let next := stale.store 0 block (id.length + 2)
  let before : Mem UInt8 := fun _ => next + 1
  have length : (id ++ [0]).length = id.length + 1 := List.length_append
  have nonempty : block ≠ [] := by
    rintro rfl
    simp [handshake] at carried
  refine ⟨before.store 0 (id ++ [0]), stale, ?_, ?_⟩
  · rw [Holds, ← length]
    exact before.slice_store_self 0 (id ++ [0])
  · rw [acceptsHandshake_iff stale nonempty, hhLength_of_isPrefix valid carried]
    rintro ⟨-, same⟩
    have last := same (id.length + 1) (by omega)
    rw [before.store_of_outside (by omega)] at last
    have value := congrArg UInt8.toNat (show next + 1 = next from last)
    have bound := next.toNat_lt
    rw [UInt8.toNat_add] at value
    simp at value
    omega

theorem decides_iff (valid : CtrlId id) (nonempty : block ≠ []) :
    Decides id block ↔ Refuted id block := by
  constructor
  · intro decides
    by_contra open'
    obtain ⟨myctrlid, stale, holds, accepted⟩ := exists_accepting nonempty open'
    have carried := (decides myctrlid stale holds).mp accepted
    obtain ⟨myctrlid, stale, holds, refused⟩ := exists_refusing valid carried
    exact refused ((decides myctrlid stale holds).mpr carried)
  · intro refuted myctrlid stale holds
    exact iff_of_false (refuted.refused nonempty holds stale) (refuted.not_isPrefix valid)

end

/-! ## The handshake of a client -/

theorem exists_difference {mine theirs : Bytes} (mine' : (0 : UInt8) ∉ mine)
    (theirs' : (0 : UInt8) ∉ theirs) (other : theirs ≠ mine) :
    ∃ (i : Nat) (x y : UInt8),
      (mine ++ [0])[i]? = some x ∧ (theirs ++ [0])[i]? = some y ∧ x ≠ y := by
  induction mine generalizing theirs with
  | nil =>
      obtain ⟨y, rest, rfl⟩ := List.exists_cons_of_ne_nil other
      refine ⟨0, 0, y, rfl, rfl, ?_⟩
      rintro rfl
      exact theirs' (by simp)
  | cons x mine ih =>
      cases theirs with
      | nil =>
          refine ⟨0, x, 0, rfl, rfl, ?_⟩
          rintro rfl
          exact mine' (by simp)
      | cons y theirs =>
          by_cases same : x = y
          · subst same
            obtain ⟨i, a, b, here, there, different⟩ := @ih theirs
              (fun member => mine' (by simp [member])) (fun member => theirs' (by simp [member]))
              (fun equal => other (by rw [equal]))
            exact ⟨i + 1, a, b, here, there, different⟩
          · exact ⟨0, x, y, rfl, rfl, same⟩

section
variable {id ctrlid : Bytes}

theorem handshake_isPrefix_iff (server : CtrlId id) (client : CtrlId ctrlid) :
    handshake id <+: handshake ctrlid ↔ ctrlid = id := by
  constructor
  · intro carried
    have mine := hhLength_of_isPrefix server carried
    have theirs := hhLength_of_isPrefix client (List.prefix_refl (handshake ctrlid))
    have lengths : (handshake id).length = (handshake ctrlid).length := by
      simp only [handshake, List.length_append, List.length_cons]
      omega
    have same := carried.eq_of_length lengths
    simp only [handshake, List.cons_append, List.cons.injEq] at same
    exact (List.append_cancel_right same.2).symm
  · rintro rfl
    exact List.prefix_refl _

theorem refuted_handshake_iff (server : CtrlId id) (client : CtrlId ctrlid) :
    Refuted id (handshake ctrlid) ↔ ctrlid ≠ id := by
  constructor
  · rintro refuted rfl
    exact refuted.not_isPrefix server (List.prefix_refl _)
  · intro other
    obtain ⟨i, x, y, mine, theirs, different⟩ :=
      exists_difference server.terminated client.terminated other
    have lt := (List.getElem?_eq_some_iff.mp theirs).1
    rw [List.length_append, List.length_singleton] at lt
    refine .inr ⟨i, x, y, ?_, mine, theirs, different⟩
    rw [hhLength_of_isPrefix client (List.prefix_refl _)]
    omega

theorem ctrlHandshake_agrees (id ctrlid block : Bytes) (server : CtrlId id) (client : CtrlId ctrlid)
    (nonempty : block ≠ []) :
    (Decides id block ↔ Refuted id block) ∧
      ((∀ myctrlid stale : Mem UInt8, Holds myctrlid id →
          (AcceptsHandshake myctrlid (stale.store 0 (ctrlClientInit ctrlid))
            (ctrlClientInit ctrlid).length ↔ ctrlid = id)) ↔ ctrlid ≠ id) := by
  refine ⟨decides_iff server nonempty, ?_⟩
  rw [ctrlClientInit_eq client, ← refuted_handshake_iff server client,
    ← decides_iff server handshake_ne_nil]
  simp only [Decides, handshake_isPrefix_iff server client]

end

theorem ctrlId_one (x : UInt8) (nonzero : x ≠ 0) : CtrlId [x] :=
  ⟨by simpa using nonzero.symm, Nat.le_add_left 1 61⟩

theorem ctrlHandshake_agrees_other :
    Decides [71] [3, 65, 0] ∧ ctrlClientInit [65] = [3, 65, 0] :=
  ⟨(ctrlHandshake_agrees [71] [65] [3, 65, 0] (ctrlId_one 71 (by decide)) (ctrlId_one 65 (by decide))
    (List.cons_ne_nil _ _)).1.mpr (.inr ⟨0, 71, 65, by decide, rfl, rfl, by decide⟩), by decide⟩

/-- A length of 0 compares nothing. -/
theorem not_ctrlHandshake_agrees :
    ¬ ∀ id block : Bytes, CtrlId id → block ≠ [] → Decides id block := by
  intro decides
  have refuted := (decides_iff (ctrlId_one 71 (by decide)) (List.cons_ne_nil 0 [])).mp
    (decides [71] [0] (ctrlId_one 71 (by decide)) (List.cons_ne_nil _ _))
  rcases refuted with long | ⟨i, x, y, compared, -⟩
  · exact absurd long (by decide)
  · exact absurd compared (Nat.not_lt_zero i)

/-! ## Handshake and messages in one stream -/

def Joins (myctrlid buf : Mem UInt8) (chunks : List Bytes) (ms : List CtrlMsg) : Prop :=
  ∃ r rest, tcpAccepted myctrlid buf chunks = some (r, rest) ∧ r.bufhead = 0 ∧
    r.pending ++ rest.flatten = stream ms

theorem acceptsHandshake_handshake {id : Bytes} (valid : CtrlId id) {myctrlid : Mem UInt8}
    (holds : Holds myctrlid id) (buf : Mem UInt8) :
    AcceptsHandshake myctrlid (buf.store 0 (handshake id)) (handshake id).length ↔
      buf (id.length + 2) = myctrlid (id.length + 1) := by
  have length : (handshake id).length = id.length + 2 := by simp [handshake]
  have behind : buf.store 0 (handshake id) (id.length + 2) = buf (id.length + 2) :=
    buf.store_of_outside (by omega)
  have inside (i : Nat) (lt : i < id.length + 1) :
      myctrlid i = buf.store 0 (handshake id) (i + 1) := by
    have theirs : (handshake id)[i + 1]? = some (buf.store 0 (handshake id) (i + 1)) :=
      received buf (by omega)
    exact Option.some.inj ((holds.cell lt).symm.trans theirs)
  rw [acceptsHandshake_iff buf handshake_ne_nil,
    hhLength_of_isPrefix valid (List.prefix_refl _), length]
  constructor
  · rintro ⟨-, same⟩
    rw [← behind]
    exact (same (id.length + 1) (by omega)).symm
  · intro same
    refine ⟨Nat.le_refl _, fun i compared => ?_⟩
    by_cases last : i = id.length + 1
    · rw [last, behind, same]
    · exact inside i (by omega)

theorem tcpAccepted_joins_iff (id : Bytes) (valid : CtrlId id) (ms : List CtrlMsg)
    (myctrlid buf : Mem UInt8) (holds : Holds myctrlid id) (chunks : List Bytes)
    (joined : chunks.flatten = handshake id ++ stream ms) :
    Joins myctrlid buf chunks ms ↔
      chunks.head? = some (handshake id) ∧ buf (id.length + 2) = myctrlid (id.length + 1) := by
  cases chunks with
  | nil => cases joined
  | cons chunk chunks =>
      have accepted := acceptsHandshake_handshake valid holds buf
      rw [List.flatten_cons] at joined
      constructor
      · rintro ⟨r, rest, taken, -, parsed⟩
        simp only [tcpAccepted] at taken
        split_ifs at taken with closed accepts
        obtain ⟨rfl, rfl⟩ := Prod.mk.inj (Option.some.inj taken)
        have later : chunks.flatten = stream ms := parsed
        rw [later] at joined
        obtain rfl := List.append_cancel_right joined
        exact ⟨rfl, accepted.mp accepts⟩
      · rintro ⟨first, same⟩
        obtain rfl : chunk = handshake id := Option.some.inj first
        have later := List.append_cancel_left joined
        refine ⟨.start (buf.store 0 (handshake id)), chunks, ?_, rfl, later⟩
        simp only [tcpAccepted]
        rw [if_neg handshake_ne_nil, if_pos (accepted.mpr same)]

theorem tcpAccepted_joins_alone :
    Joins (fun i => ([71, 0] : Bytes).getD i 0) (fun _ => 0) [[3, 71, 0], [0, 4, 1], [2]]
      [⟨[0, 4, 1, 2], rfl, by decide, by decide⟩] :=
  (tcpAccepted_joins_iff [71] (ctrlId_one 71 (by decide))
    [⟨[0, 4, 1, 2], rfl, by decide, by decide⟩] (fun i => ([71, 0] : Bytes).getD i 0) (fun _ => 0) rfl
    [[3, 71, 0], [0, 4, 1], [2]] (by decide)).mpr (by decide)

theorem not_tcpAccepted_joins :
    ¬ ∀ (id : Bytes) (ms : List CtrlMsg) (myctrlid buf : Mem UInt8) (chunks : List Bytes),
      CtrlId id → Holds myctrlid id → [] ∉ chunks → chunks.flatten = handshake id ++ stream ms →
      Joins myctrlid buf chunks ms := by
  intro joins
  obtain ⟨r, rest, taken, -⟩ := joins [71] [] (fun i => ([71, 0] : Bytes).getD i 0) (fun _ => 0)
    [[3], [71, 0]] (ctrlId_one 71 (by decide)) rfl (by decide) (by decide)
  have refused : tcpAccepted (fun i => ([71, 0] : Bytes).getD i 0) (fun _ => 0) [[3], [71, 0]] = none := rfl
  rw [refused] at taken
  cases taken

end GamingAnywhere.Control
