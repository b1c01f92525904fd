import GamingAnywhere.Lib.Bytes
import GamingAnywhere.Lib.Memory
import GamingAnywhere.Lib.Transition

namespace GamingAnywhere.Client
open Lib

structure Timeval where
  tvSec : Int
  tvUsec : Int
  deriving DecidableEq

def privateBufferSize : Nat := 1048576

structure DecoderBuffer where
  privbuflen : Nat
  privbuf : Option (Mem UInt8)
  lastpts : Timeval

structure Passed where
  buffer : Bytes
  pts : Timeval

/-- What `play_video` does: the buffer after it, its calls, and whether it warns of an overflow. -/
structure Played where
  pdb : DecoderBuffer
  passed : List Passed
  overflow : Bool

namespace DecoderBuffer

def zero : DecoderBuffer := ⟨0, none, ⟨0, 0⟩⟩

def held (pdb : DecoderBuffer) : Bytes := pdb.privbuf.elim [] fun m => m.slice 0 pdb.privbuflen

def passed (pdb : DecoderBuffer) : Passed := ⟨pdb.held, pdb.lastpts⟩

def emptied (pdb : DecoderBuffer) : DecoderBuffer := { pdb with privbuflen := 0 }

def advance (pdb : DecoderBuffer) (pts : Timeval) : DecoderBuffer × List Passed :=
  if pts = pdb.lastpts then (pdb, [])
  else (pdb.emptied, if 0 < pdb.privbuflen then [pdb.passed] else [])

def add (pdb : DecoderBuffer) (buffer : Bytes) (pts : Timeval) : DecoderBuffer where
  privbuflen := (pdb.privbuflen + buffer.length) % 4294967296
  privbuf := pdb.privbuf.map fun m => m.store pdb.privbuflen buffer
  lastpts := pts

def fill (pdb : DecoderBuffer) (buffer : Bytes) (pts : Timeval) (marker : Bool) : Played :=
  if (pdb.privbuflen + buffer.length) % 4294967296 ≤ privateBufferSize then
    let pdb := pdb.add buffer pts
    if marker = true ∧ 0 < pdb.privbuflen then ⟨pdb.emptied, [pdb.passed], false⟩
    else ⟨pdb, [], false⟩
  else ⟨pdb.emptied, [pdb.passed], true⟩

end DecoderBuffer

/-- `memory` is what `malloc` has for the first call; without any, the program exits. -/
def playVideo (pdb : DecoderBuffer) (memory : Option (Mem UInt8)) (buffer : Option Bytes) (pts : Timeval)
    (marker : Bool) : Option Played :=
  (pdb.privbuf <|> memory).map fun privbuf =>
    let pdb := { pdb with privbuf := some privbuf }
    match buffer with
    | none | some [] => ⟨pdb, [], false⟩
    | some buffer =>
        let advanced := pdb.advance pts
        let filled := advanced.1.fill buffer pts marker
        { filled with passed := advanced.2 ++ filled.passed }

/-! ## Calls for fragments -/

structure Fragment where
  bytes : Bytes
  pts : Timeval
  marker : Bool
  nonempty : bytes ≠ []
  short : bytes.length ≤ 262148

structure PlayVideo where
  channel : Nat
  fragment : Fragment
  memory : Option (Mem UInt8)
  passed : List Passed
  overflow : Bool

def playing : System (Nat → DecoderBuffer) PlayVideo where
  Init db := db = fun _ => .zero
  Step db l db' := ∃ played, playVideo (db l.channel) l.memory (some l.fragment.bytes) l.fragment.pts
      l.fragment.marker = some played ∧
    l.passed = played.passed ∧ l.overflow = played.overflow ∧
    db' = Function.update db l.channel played.pdb

def PlayVideo.received (c : Nat) (l : PlayVideo) : List Fragment :=
  if l.channel = c then [l.fragment] else []

def PlayVideo.passedOn (c : Nat) (l : PlayVideo) : List Passed := if l.channel = c then l.passed else []

def IsRun (received : List Fragment) (p : Passed) : Prop :=
  ∃ group, group <:+: received ∧ group ≠ [] ∧ p.buffer = group.flatMap Fragment.bytes ∧
    ∀ f ∈ group, f.pts = p.pts

structure Lossless (calls : List PlayVideo) (db : Nat → DecoderBuffer) : Prop where
  bytes : ∀ c, (calls.flatMap (PlayVideo.passedOn c)).flatMap Passed.buffer ++ (db c).held =
    (calls.flatMap (PlayVideo.received c)).flatMap Fragment.bytes
  runs : ∀ c, ∀ p ∈ calls.flatMap (PlayVideo.passedOn c), IsRun (calls.flatMap (PlayVideo.received c)) p

def DecoderBuffer.Full (pdb : DecoderBuffer) (f : Fragment) : Prop :=
  f.pts = pdb.lastpts ∧ privateBufferSize < pdb.privbuflen + f.bytes.length

/-! ## One call -/

namespace DecoderBuffer
variable {pdb : DecoderBuffer} {f : Fragment} {received : List Fragment} {pts : Timeval}

structure Valid (pdb : DecoderBuffer) : Prop where
  within : pdb.privbuflen ≤ privateBufferSize
  allocated : pdb.privbuf.isSome ∨ pdb.privbuflen = 0

def Holds (pdb : DecoderBuffer) (received : List Fragment) : Prop :=
  ∃ group, group <:+ received ∧ pdb.held = group.flatMap Fragment.bytes ∧ ∀ f ∈ group, f.pts = pdb.lastpts

theorem valid_zero : zero.Valid := ⟨Nat.zero_le _, Or.inr rfl⟩

theorem Valid.emptied (_ : pdb.Valid) : pdb.emptied.Valid := ⟨Nat.zero_le _, Or.inr rfl⟩

theorem held_emptied (pdb : DecoderBuffer) : pdb.emptied.held = [] := by
  unfold emptied held
  cases pdb.privbuf <;> rfl

theorem Valid.length_held (valid : pdb.Valid) : pdb.held.length = pdb.privbuflen := by
  unfold held
  cases memory : pdb.privbuf with
  | none =>
      rcases valid.allocated with allocated | empty
      · rw [memory] at allocated
        cases allocated
      · exact empty.symm
  | some m => exact m.length_slice 0 pdb.privbuflen

theorem holds_emptied (pdb : DecoderBuffer) (received : List Fragment) : pdb.emptied.Holds received :=
  ⟨[], List.nil_suffix, pdb.held_emptied, nofun⟩

theorem Holds.isRun (holds : pdb.Holds received) (valid : pdb.Valid) (some_held : 0 < pdb.privbuflen) :
    IsRun received pdb.passed := by
  obtain ⟨group, suffix, bytes, times⟩ := holds
  refine ⟨group, suffix.isInfix, ?_, bytes, times⟩
  rintro rfl
  have length := valid.length_held
  rw [bytes] at length
  exact absurd length (Nat.ne_of_lt some_held)

theorem advance_spec (valid : pdb.Valid) (pts : Timeval) :
    (pdb.advance pts).1.Valid ∧ (pdb.advance pts).1.privbuf = pdb.privbuf ∧
      pdb.held = (pdb.advance pts).2.flatMap Passed.buffer ++ (pdb.advance pts).1.held ∧
      ((pdb.advance pts).1 = pdb ∧ pts = pdb.lastpts ∨
        (pdb.advance pts).1 = pdb.emptied ∧ pts ≠ pdb.lastpts) := by
  unfold advance
  split_ifs with same some_held
  · exact ⟨valid, rfl, rfl, Or.inl ⟨rfl, same⟩⟩
  · refine ⟨valid.emptied, rfl, ?_, Or.inr ⟨rfl, same⟩⟩
    rw [held_emptied, List.append_nil, List.flatMap_singleton]
    rfl
  · have nothing := valid.length_held
    rw [Nat.eq_zero_of_not_pos some_held] at nothing
    refine ⟨valid.emptied, rfl, ?_, Or.inr ⟨rfl, same⟩⟩
    rw [held_emptied, List.eq_nil_of_length_eq_zero nothing]
    rfl

theorem held_add {buffer : Bytes} (allocated : pdb.privbuf.isSome)
    (fits : pdb.privbuflen + buffer.length ≤ privateBufferSize) (pts : Timeval) :
    (pdb.add buffer pts).held = pdb.held ++ buffer := by
  have total : (pdb.privbuflen + buffer.length) % 4294967296 = pdb.privbuflen + buffer.length :=
    Nat.mod_eq_of_lt (Nat.lt_of_le_of_lt fits (by decide))
  obtain ⟨m, memory⟩ := Option.isSome_iff_exists.mp allocated
  have appended := m.slice_store_append 0 pdb.privbuflen buffer
  rw [Nat.zero_add] at appended
  rw [held, held, add, memory, total]
  exact appended

theorem valid_add {buffer : Bytes} (allocated : pdb.privbuf.isSome)
    (fits : pdb.privbuflen + buffer.length ≤ privateBufferSize) (pts : Timeval) :
    (pdb.add buffer pts).Valid := by
  refine ⟨Nat.le_trans (Nat.mod_le _ _) fits, Or.inl ?_⟩
  rw [add, Option.isSome_map]
  exact allocated

theorem holds_add (holds : pdb.Holds received) (allocated : pdb.privbuf.isSome)
    (fits : pdb.privbuflen + f.bytes.length ≤ privateBufferSize)
    (time : f.pts = pdb.lastpts ∨ pdb.held = []) : (pdb.add f.bytes f.pts).Holds (received ++ [f]) := by
  have bytes := held_add allocated fits f.pts
  rcases time with same | empty
  · obtain ⟨group, ⟨earlier, rfl⟩, held, times⟩ := holds
    refine ⟨group ++ [f], ⟨earlier, by rw [List.append_assoc]⟩, ?_, ?_⟩
    · rw [bytes, held, List.flatMap_append, List.flatMap_singleton]
    · intro g member
      rcases List.mem_append.mp member with old | new
      · exact (times g old).trans same.symm
      · rw [List.mem_singleton.mp new]
        rfl
  · refine ⟨[f], List.suffix_append received [f], ?_, ?_⟩
    · rw [bytes, empty, List.nil_append, List.flatMap_singleton]
    · intro g member
      rw [List.mem_singleton.mp member]
      rfl

theorem fill_of_le {marker : Bool} (fits : pdb.privbuflen + f.bytes.length ≤ privateBufferSize) :
    pdb.fill f.bytes pts marker =
      if marker = true ∧ 0 < (pdb.add f.bytes pts).privbuflen then
        ⟨(pdb.add f.bytes pts).emptied, [(pdb.add f.bytes pts).passed], false⟩
      else ⟨pdb.add f.bytes pts, [], false⟩ := by
  have total : (pdb.privbuflen + f.bytes.length) % 4294967296 ≤ privateBufferSize :=
    Nat.le_trans (Nat.mod_le _ _) fits
  rw [fill, if_pos total]

theorem fill_of_lt {marker : Bool} (valid : pdb.Valid)
    (full : privateBufferSize < pdb.privbuflen + f.bytes.length) :
    pdb.fill f.bytes pts marker = ⟨pdb.emptied, [pdb.passed], true⟩ := by
  have total : (pdb.privbuflen + f.bytes.length) % 4294967296 = pdb.privbuflen + f.bytes.length := by
    have within := valid.within
    have short := f.short
    rw [privateBufferSize] at within
    omega
  rw [fill, total, if_neg (Nat.not_le.mpr full)]

theorem fill_spec (valid : pdb.Valid) (allocated : pdb.privbuf.isSome) (f : Fragment) :
    (pdb.fill f.bytes f.pts f.marker).pdb.Valid ∧
      ((pdb.fill f.bytes f.pts f.marker).overflow = true ↔
        privateBufferSize < pdb.privbuflen + f.bytes.length) ∧
      pdb.held ++ (if (pdb.fill f.bytes f.pts f.marker).overflow = true then [] else f.bytes) =
        (pdb.fill f.bytes f.pts f.marker).passed.flatMap Passed.buffer ++
          (pdb.fill f.bytes f.pts f.marker).pdb.held := by
  rcases Nat.lt_or_ge privateBufferSize (pdb.privbuflen + f.bytes.length) with full | fits
  · rw [fill_of_lt valid full, if_pos rfl, held_emptied, List.flatMap_singleton]
    exact ⟨valid.emptied, iff_of_true rfl full, rfl⟩
  · have filled := valid_add allocated fits f.pts
    have bytes := held_add allocated fits f.pts
    rw [fill_of_le fits]
    by_cases passed : f.marker = true ∧ 0 < (pdb.add f.bytes f.pts).privbuflen
    · rw [if_pos passed, if_neg Bool.false_ne_true, held_emptied, List.flatMap_singleton, List.append_nil]
      exact ⟨filled.emptied, iff_of_false Bool.false_ne_true (Nat.not_lt.mpr fits), bytes.symm⟩
    · rw [if_neg passed, if_neg Bool.false_ne_true]
      exact ⟨filled, iff_of_false Bool.false_ne_true (Nat.not_lt.mpr fits), bytes.symm⟩

theorem isRun_append {p : Passed} (run : IsRun received p) (more : List Fragment) :
    IsRun (received ++ more) p := by
  obtain ⟨group, infix', rest⟩ := run
  exact ⟨group, infix'.trans (List.prefix_append received more).isInfix, rest⟩

theorem fill_runs (valid : pdb.Valid) (allocated : pdb.privbuf.isSome) (holds : pdb.Holds received)
    (time : f.pts = pdb.lastpts ∨ pdb.held = []) :
    (pdb.fill f.bytes f.pts f.marker).pdb.Holds (received ++ [f]) ∧
      ∀ p ∈ (pdb.fill f.bytes f.pts f.marker).passed, IsRun (received ++ [f]) p := by
  rcases Nat.lt_or_ge privateBufferSize (pdb.privbuflen + f.bytes.length) with full | fits
  · have some_held : 0 < pdb.privbuflen := by
      have short := f.short
      rw [privateBufferSize] at full
      omega
    rw [fill_of_lt valid full]
    refine ⟨pdb.holds_emptied _, ?_⟩
    intro p member
    rw [List.mem_singleton.mp member]
    exact isRun_append (holds.isRun valid some_held) [f]
  · have added := holds_add holds allocated fits time
    rw [fill_of_le fits]
    split_ifs with passed
    · refine ⟨holds_emptied _ _, ?_⟩
      intro p member
      rw [List.mem_singleton.mp member]
      exact added.isRun (valid_add allocated fits f.pts) passed.2
    · exact ⟨added, nofun⟩

end DecoderBuffer

section
variable {pdb : DecoderBuffer} {memory : Option (Mem UInt8)} {f : Fragment} {played : Played}
variable {received : List Fragment}

open DecoderBuffer

theorem playVideo_fragment (played_f : playVideo pdb memory (some f.bytes) f.pts f.marker = some played) :
    ∃ privbuf, (pdb.privbuf <|> memory) = some privbuf ∧
      played.pdb = ((advance { pdb with privbuf := some privbuf } f.pts).1.fill f.bytes f.pts f.marker).pdb ∧
      played.passed = (advance { pdb with privbuf := some privbuf } f.pts).2 ++
        ((advance { pdb with privbuf := some privbuf } f.pts).1.fill f.bytes f.pts f.marker).passed ∧
      played.overflow =
        ((advance { pdb with privbuf := some privbuf } f.pts).1.fill f.bytes f.pts f.marker).overflow := by
  obtain ⟨privbuf, found, rfl⟩ := Option.map_eq_some_iff.mp played_f
  refine ⟨privbuf, found, ?_⟩
  cases bytes : f.bytes with
  | nil => exact absurd bytes f.nonempty
  | cons b rest => exact ⟨rfl, rfl, rfl⟩

theorem held_allocated {privbuf : Mem UInt8} (valid : pdb.Valid)
    (found : (pdb.privbuf <|> memory) = some privbuf) :
    Valid { pdb with privbuf := some privbuf } ∧ held { pdb with privbuf := some privbuf } = pdb.held := by
  refine ⟨⟨valid.within, Or.inl rfl⟩, ?_⟩
  cases already : pdb.privbuf with
  | some m =>
      rw [already] at found
      obtain rfl := Option.some.inj found
      simp only [held, already, Option.elim_some]
  | none =>
      have empty := valid.allocated.resolve_left (by rw [already]; exact Bool.false_ne_true)
      simp only [held, already, Option.elim_some, Option.elim_none, empty, Mem.slice_zero]

theorem playVideo_spec (valid : pdb.Valid)
    (played_f : playVideo pdb memory (some f.bytes) f.pts f.marker = some played) :
    played.pdb.Valid ∧ (played.overflow = true ↔ pdb.Full f) ∧
      pdb.held ++ (if played.overflow = true then [] else f.bytes) =
        played.passed.flatMap Passed.buffer ++ played.pdb.held := by
  obtain ⟨privbuf, found, pdb_eq, passed_eq, overflow_eq⟩ := playVideo_fragment played_f
  obtain ⟨start, same⟩ := held_allocated valid found
  obtain ⟨advanced, allocated, bytes, time⟩ := advance_spec start f.pts
  obtain ⟨filled, full, kept⟩ := fill_spec advanced (by rw [allocated]; rfl) f
  rw [pdb_eq, passed_eq, overflow_eq]
  refine ⟨filled, full.trans ?_, ?_⟩
  · rcases time with ⟨unchanged, now⟩ | ⟨emptied, other⟩
    · rw [unchanged]
      exact (and_iff_right now).symm
    · have short := f.short
      rw [emptied]
      refine iff_of_false ?_ fun full => other full.1
      rw [privateBufferSize]
      change ¬ 1048576 < 0 + f.bytes.length
      omega
  · rw [← same, bytes, List.append_assoc, kept, List.flatMap_append, List.append_assoc]

theorem playVideo_runs (valid : pdb.Valid) (holds : pdb.Holds received)
    (played_f : playVideo pdb memory (some f.bytes) f.pts f.marker = some played) :
    played.pdb.Holds (received ++ [f]) ∧ ∀ p ∈ played.passed, IsRun (received ++ [f]) p := by
  obtain ⟨privbuf, found, pdb_eq, passed_eq, -⟩ := playVideo_fragment played_f
  obtain ⟨start, same⟩ := held_allocated valid found
  have holds' : Holds { pdb with privbuf := some privbuf } received := by
    obtain ⟨group, suffix, bytes, times⟩ := holds
    exact ⟨group, suffix, same.trans bytes, times⟩
  rw [pdb_eq, passed_eq]
  unfold advance
  split_ifs with now some_held
  · exact fill_runs start rfl holds' (Or.inl now)
  · obtain ⟨after, runs⟩ := fill_runs (f := f) start.emptied rfl (holds_emptied _ received)
      (Or.inr (held_emptied _))
    refine ⟨after, ?_⟩
    intro p member
    rcases List.mem_append.mp member with first | second
    · rw [List.mem_singleton.mp first]
      exact isRun_append (holds'.isRun start some_held) [f]
    · exact runs p second
  · exact fill_runs start.emptied rfl (holds_emptied _ received) (Or.inr (held_emptied _))

end

/-! ## Runs -/

section
variable {db db' : Nat → DecoderBuffer} {calls : List PlayVideo} {l : PlayVideo}

def Valid (db : Nat → DecoderBuffer) : Prop := ∀ c, (db c).Valid

theorem valid_step (valid : Valid db) (step : playing.Step db l db') : Valid db' := by
  obtain ⟨played, played_f, -, -, rfl⟩ := step
  intro c
  rw [Function.update_apply]
  split_ifs
  · exact (playVideo_spec (valid l.channel) played_f).1
  · exact valid c

def PlayVideo.kept (c : Nat) (l : PlayVideo) : Bytes :=
  if l.channel = c then if l.overflow = true then [] else l.fragment.bytes else []

theorem PlayVideo.kept_prefix (c : Nat) (l : PlayVideo) :
    l.kept c <+: (l.received c).flatMap Fragment.bytes := by
  unfold kept received
  split_ifs
  · exact List.nil_prefix
  · simp only [List.flatMap_singleton, List.prefix_refl]
  · exact List.prefix_refl []

theorem step_balance (valid : Valid db) (step : playing.Step db l db') (c : Nat) :
    (db c).held ++ l.kept c = (l.passedOn c).flatMap Passed.buffer ++ (db' c).held := by
  obtain ⟨played, played_f, passed, overflow, rfl⟩ := step
  rw [PlayVideo.kept, PlayVideo.passedOn, Function.update_apply]
  by_cases here : l.channel = c
  · have balance := (playVideo_spec (valid l.channel) played_f).2.2
    rw [if_pos here, if_pos here, if_pos here.symm, overflow, passed]
    exact here ▸ balance
  · rw [if_neg here, if_neg here, if_neg (Ne.symm here), List.append_nil]
    rfl

theorem run_balance (run : playing.Run (fun _ => .zero) calls db) (c : Nat) :
    calls.flatMap (PlayVideo.kept c) =
      (calls.flatMap (PlayVideo.passedOn c)).flatMap Passed.buffer ++ (db c).held := by
  have all := run.balance (I := Valid) (fun db => (db c).held) (fun _ _ _ => valid_step)
    (fun _ _ _ valid step => step_balance valid step c) fun _ => DecoderBuffer.valid_zero
  rw [List.flatMap_assoc]
  exact all

theorem step_runs {c : Nat} {received : List Fragment} (valid : Valid db) (holds : (db c).Holds received)
    (step : playing.Step db l db') :
    (db' c).Holds (received ++ l.received c) ∧ ∀ p ∈ l.passedOn c, IsRun (received ++ l.received c) p := by
  obtain ⟨played, played_f, passed, -, rfl⟩ := step
  rw [PlayVideo.received, PlayVideo.passedOn, Function.update_apply]
  by_cases here : l.channel = c
  · rw [if_pos here, if_pos here, if_pos here.symm, passed]
    subst here
    exact playVideo_runs (valid l.channel) holds played_f
  · rw [if_neg here, if_neg here, if_neg (Ne.symm here), List.append_nil]
    exact ⟨holds, nofun⟩

theorem run_runs {c : Nat} {received : List Fragment} (run : playing.Run db calls db') (valid : Valid db)
    (holds : (db c).Holds received) :
    ∀ p ∈ calls.flatMap (PlayVideo.passedOn c),
      IsRun (received ++ calls.flatMap (PlayVideo.received c)) p := by
  induction run generalizing received with
  | nil => exact nofun
  | cons taken _ ih =>
      obtain ⟨after, runs⟩ := step_runs valid holds taken
      intro p member
      rw [List.flatMap_cons, ← List.append_assoc]
      rcases List.mem_append.mp member with here | later
      · exact DecoderBuffer.isRun_append (runs p here) _
      · exact ih (valid_step valid taken) after p later

def Fits (db : Nat → DecoderBuffer) (l : PlayVideo) (_ : Nat → DecoderBuffer) : Prop :=
  ¬ (db l.channel).Full l.fragment

theorem fits_iff (valid : Valid db) (step : playing.Step db l db') : Fits db l db' ↔ l.overflow = false := by
  obtain ⟨played, played_f, -, overflow, -⟩ := step
  rw [Fits, ← (playVideo_spec (valid l.channel) played_f).2.1, overflow, Bool.not_eq_true]

theorem run_fits_iff (run : playing.Run db calls db') (valid : Valid db) :
    (playing.restrict Fits).Run db calls db' ↔ ∀ l ∈ calls, l.overflow = false :=
  run.restrict_iff_forall (P := fun l => l.overflow = false)
    (fun _ _ _ valid step => valid_step valid step) (fun _ _ _ valid step => fits_iff valid step) valid

theorem kept_eq_iff (c : Nat) (l : PlayVideo) :
    l.kept c = (l.received c).flatMap Fragment.bytes ↔ (l.channel = c → l.overflow = false) := by
  unfold PlayVideo.kept PlayVideo.received
  by_cases here : l.channel = c
  · rw [if_pos here, if_pos here, List.flatMap_singleton]
    cases l.overflow with
    | false => exact iff_of_true rfl fun _ => rfl
    | true => exact iff_of_false (fun same => l.fragment.nonempty same.symm) fun all => absurd (all here) nofun
  · rw [if_neg here, if_neg here]
    exact iff_of_true rfl fun there => absurd there here

theorem lossless_iff_forall (run : playing.Run (fun _ => .zero) calls db) :
    Lossless calls db ↔ ∀ l ∈ calls, l.overflow = false := by
  have valid : Valid fun _ => .zero := fun _ => DecoderBuffer.valid_zero
  have bytes (c : Nat) :
      (calls.flatMap (PlayVideo.passedOn c)).flatMap Passed.buffer ++ (db c).held =
          (calls.flatMap (PlayVideo.received c)).flatMap Fragment.bytes ↔
        ∀ l ∈ calls, l.channel = c → l.overflow = false := by
    rw [← run_balance run c, List.flatMap_assoc, flatMap_eq_iff (PlayVideo.kept_prefix c)]
    exact forall₂_congr fun l _ => kept_eq_iff c l
  constructor
  · intro lossless l member
    exact (bytes l.channel).mp (lossless.bytes l.channel) l member rfl
  · intro none_lost
    refine ⟨fun c => (bytes c).mpr fun l member _ => none_lost l member, fun c => ?_⟩
    have holds : (DecoderBuffer.zero).Holds [] := ⟨[], List.nil_suffix, rfl, nofun⟩
    have runs := run_runs (c := c) run valid holds
    rwa [List.nil_append] at runs

theorem playVideo_lossless_iff (run : playing.Run (fun _ => .zero) calls db) :
    Lossless calls db ↔ (playing.restrict Fits).Run (fun _ => .zero) calls db := by
  have valid : Valid fun _ => .zero := fun _ => DecoderBuffer.valid_zero
  rw [run_fits_iff run valid, lossless_iff_forall run]

/-! ## A full buffer -/

theorem exists_step (db : Nat → DecoderBuffer) (c : Nat) (f : Fragment) :
    ∃ played, playVideo (db c) (some fun _ => 0) (some f.bytes) f.pts f.marker = some played ∧
      playing.Step db ⟨c, f, some fun _ => 0, played.passed, played.overflow⟩
        (Function.update db c played.pdb) := by
  obtain ⟨privbuf, found⟩ : ∃ privbuf, ((db c).privbuf <|> some fun _ => 0) = some privbuf := by
    cases (db c).privbuf with
    | none => exact ⟨_, rfl⟩
    | some m => exact ⟨m, rfl⟩
  obtain ⟨played, played_f⟩ : ∃ played, playVideo (db c) (some fun _ => 0) (some f.bytes) f.pts f.marker =
      some played := by
    rw [playVideo, found]
    exact ⟨_, rfl⟩
  exact ⟨played, played_f, played, played_f, rfl, rfl, rfl⟩

theorem playVideo_hold {pdb : DecoderBuffer} {memory : Option (Mem UInt8)} {f : Fragment} {played : Played}
    (fits : pdb.privbuflen + f.bytes.length ≤ privateBufferSize) (now : f.pts = pdb.lastpts)
    (unmarked : f.marker = false)
    (played_f : playVideo pdb memory (some f.bytes) f.pts f.marker = some played) :
    played.pdb.privbuflen = pdb.privbuflen + f.bytes.length ∧ f.pts = played.pdb.lastpts := by
  obtain ⟨privbuf, -, pdb_eq, -⟩ := playVideo_fragment played_f
  have same : (DecoderBuffer.advance { pdb with privbuf := some privbuf } f.pts).1 =
      { pdb with privbuf := some privbuf } := by rw [DecoderBuffer.advance, if_pos now]
  have total : (pdb.privbuflen + f.bytes.length) % 4294967296 = pdb.privbuflen + f.bytes.length :=
    Nat.mod_eq_of_lt (Nat.lt_of_le_of_lt fits (by decide))
  have fits' : DecoderBuffer.privbuflen { pdb with privbuf := some privbuf } + f.bytes.length ≤
      privateBufferSize := fits
  rw [pdb_eq, same, DecoderBuffer.fill_of_le fits', if_neg fun both => absurd (both.1.symm.trans unmarked) nofun]
  exact ⟨total, rfl⟩

theorem exists_overflow {c : Nat} {f : Fragment} (unmarked : f.marker = false) (n : Nat) (valid : Valid db)
    (now : f.pts = (db c).lastpts) (many : privateBufferSize < (db c).privbuflen + n * f.bytes.length) :
    ∃ calls db', playing.Run db calls db' ∧ ∃ l ∈ calls, l.overflow = true := by
  induction n generalizing db with
  | zero =>
      have within := (valid c).within
      omega
  | succ n ih =>
      obtain ⟨played, played_f, step⟩ := exists_step db c f
      rcases Nat.lt_or_ge privateBufferSize ((db c).privbuflen + f.bytes.length) with full | fits
      · have overflow := (playVideo_spec (valid c) played_f).2.1.mpr ⟨now, full⟩
        exact ⟨_, _, .cons step (.nil _), _, List.mem_cons_self, overflow⟩
      · obtain ⟨length, after⟩ := playVideo_hold fits now unmarked played_f
        have here : Function.update db c played.pdb c = played.pdb := Function.update_self ..
        have more : privateBufferSize < (Function.update db c played.pdb c).privbuflen + n * f.bytes.length := by
          rw [Nat.succ_mul] at many
          rw [here, length]
          omega
        obtain ⟨calls, db', run, l, member, overflow⟩ := ih (valid_step valid step) (by rw [here]; exact after) more
        exact ⟨_, db', .cons step run, l, List.mem_cons_of_mem _ member, overflow⟩

theorem playVideo_lossless_three : ∃ calls db, playing.Run (fun _ => .zero) calls db ∧
    calls.flatMap (PlayVideo.passedOn 0) = [⟨[7, 8], ⟨1, 0⟩⟩] ∧ Lossless calls db := by
  have short : 1 ≤ 262148 := by decide
  let fragment (byte : UInt8) (tvSec : Int) (marker : Bool) : Fragment :=
    ⟨[byte], ⟨tvSec, 0⟩, marker, List.cons_ne_nil _ _, short⟩
  let calls : List PlayVideo := [⟨0, fragment 7 1 false, some fun _ => 0, [], false⟩,
    ⟨0, fragment 8 1 true, none, [⟨[7, 8], ⟨1, 0⟩⟩], false⟩, ⟨0, fragment 9 2 false, none, [], false⟩]
  obtain ⟨db, run⟩ : ∃ db, playing.Run (fun _ => .zero) calls db :=
    ⟨_, .cons ⟨_, rfl, rfl, rfl, rfl⟩ (.cons ⟨_, rfl, rfl, rfl, rfl⟩ (.cons ⟨_, rfl, rfl, rfl, rfl⟩ (.nil _)))⟩
  have fits : (playing.restrict Fits).Run (fun _ => .zero) calls db :=
    (run_fits_iff run fun _ => DecoderBuffer.valid_zero).mpr (by simp [calls])
  exact ⟨calls, db, run, rfl, (playVideo_lossless_iff run).mpr fits⟩

/-- Four fragments of 262148 bytes and of one time. -/
theorem not_playVideo_lossless :
    ¬ ∀ calls db, playing.Run (fun _ => .zero) calls db → Lossless calls db := by
  intro lossless
  have length : (List.replicate 262148 (0 : UInt8)).length = 262148 := List.length_replicate
  have nonempty : List.replicate 262148 (0 : UInt8) ≠ [] :=
    List.ne_nil_of_length_pos (by rw [length]; decide)
  have valid : Valid fun _ => .zero := fun _ => DecoderBuffer.valid_zero
  obtain ⟨calls, db, run, l, member, overflow⟩ := exists_overflow (c := 0)
    (f := ⟨List.replicate 262148 0, ⟨0, 0⟩, false, nonempty, Nat.le_of_eq length⟩) rfl 4 valid rfl
    (by rw [length]; decide)
  rw [(lossless_iff_forall run).mp (lossless calls db run) l member] at overflow
  cases overflow

end

end GamingAnywhere.Client
