import GamingAnywhere.Lib.Bytes
import GamingAnywhere.Lib.Memory

namespace GamingAnywhere.Pipeline
open Lib

structure Block where
  size : Nat
  cells : Mem UInt8

structure Privdata where
  privdata : Option Block
  privdataSize : Int

/-- It returns `privdata`, as it is then. -/
def allocPrivdata (malloc : Option (Mem UInt8)) (size : Nat) (s : Privdata) : Privdata :=
  if s.privdata = none ∨ s.privdataSize < size then
    match malloc with
    | some cells => ⟨some ⟨size, cells⟩, size⟩
    | none => ⟨none, 0⟩
  else s

/-- What it returns, the number of bytes it writes to `privdata`, and the state after it. -/
def setPrivdata (ptr : Bytes) (s : Privdata) : Option Block × Nat × Privdata :=
  if ptr.length ≤ s.privdataSize then
    let privdata := s.privdata.map fun block => { block with cells := block.cells.store 0 ptr }
    (privdata, ptr.length, { s with privdata := privdata })
  else (none, 0, s)

def getPrivdataSize (s : Privdata) : Int := s.privdataSize

/-- What the constructor makes of memory in which the field holds `garbage`. -/
def newPrivdata (garbage : Int) (malloc : Option (Mem UInt8)) (_privdataSize : Int) : Privdata :=
  let s : Privdata := ⟨none, garbage⟩
  -- It is the parameter that is set to 0, and then compared with it.
  let privdataSize : Int := 0
  if 0 < privdataSize then allocPrivdata malloc privdataSize.toNat s else s

inductive PrivdataCall
  | alloc (malloc : Option (Mem UInt8)) (size : Nat)
  | set (ptr : Bytes)

def PrivdataCall.run (s : Privdata) : PrivdataCall → Privdata
  | alloc malloc size => allocPrivdata malloc size s
  | set ptr => (setPrivdata ptr s).2.2

def Privdata.blockSize (s : Privdata) : Nat := (s.privdata.map Block.size).getD 0

def Privdata.Sized (s : Privdata) : Prop := s.privdataSize = s.blockSize

variable {s : Privdata}

theorem Privdata.Sized.alloc (sized : s.privdata = none ∨ s.Sized) (malloc : Option (Mem UInt8))
    (size : Nat) : (allocPrivdata malloc size s).Sized := by
  unfold allocPrivdata
  split
  · cases malloc with
    | none => rfl
    | some cells => rfl
  · next keeps =>
      rw [not_or] at keeps
      exact sized.resolve_left keeps.1

theorem setPrivdata_blockSize (ptr : Bytes) (s : Privdata) :
    (setPrivdata ptr s).2.2.blockSize = s.blockSize ∧
      (setPrivdata ptr s).2.2.privdataSize = s.privdataSize := by
  unfold setPrivdata
  split
  · refine ⟨?_, rfl⟩
    unfold Privdata.blockSize
    cases s.privdata with
    | none => rfl
    | some block => rfl
  · exact ⟨rfl, rfl⟩

theorem Privdata.Sized.set (sized : s.Sized) (ptr : Bytes) : (setPrivdata ptr s).2.2.Sized := by
  obtain ⟨block, size⟩ := setPrivdata_blockSize ptr s
  rw [Privdata.Sized, block, size]
  exact sized

theorem Privdata.Sized.call (sized : s.Sized) (call : PrivdataCall) : (call.run s).Sized := by
  cases call with
  | alloc malloc size => exact Privdata.Sized.alloc (.inr sized) malloc size
  | set ptr => exact sized.set ptr

theorem Privdata.Sized.calls (sized : s.Sized) (calls : List PrivdataCall) :
    (calls.foldl PrivdataCall.run s).Sized := by
  induction calls generalizing s with
  | nil => exact sized
  | cons call calls ih => exact ih (sized.call call)

structure Privdata.Right (s : Privdata) : Prop where
  size : getPrivdataSize s = s.blockSize
  inside : ∀ ptr, (setPrivdata ptr s).2.1 ≤ s.blockSize
  refused : ∀ ptr : Bytes, s.blockSize < ptr.length → setPrivdata ptr s = (none, 0, s)

theorem Privdata.right_iff : s.Right ↔ s.Sized := by
  constructor
  · exact fun right => right.size
  · intro sized
    rw [Privdata.Sized] at sized
    refine ⟨sized, ?_, ?_⟩
    · intro ptr
      unfold setPrivdata
      split
      · dsimp only
        omega
      · exact Nat.zero_le _
    · intro ptr long
      rw [setPrivdata, if_neg (by omega)]

structure PrivdataRight (garbage k : Int) : Prop where
  constructed : 0 < k → ∀ cells, ∃ block, (newPrivdata garbage (some cells) k).privdata = some block ∧
    (block.size : Int) = k
  always : ∀ malloc (calls : List PrivdataCall),
    (calls.foldl PrivdataCall.run (newPrivdata garbage malloc k)).Right

theorem privdataRight_iff (garbage k : Int) : PrivdataRight garbage k ↔ garbage = 0 ∧ k ≤ 0 := by
  constructor
  · intro right
    have start : getPrivdataSize (newPrivdata garbage none k) = 0 := (right.always none []).size
    refine ⟨start, Int.not_lt.mp fun positive => ?_⟩
    obtain ⟨block, made, -⟩ := right.constructed positive fun _ => 0
    cases made
  · rintro ⟨rfl, refuses⟩
    refine ⟨fun positive => absurd refuses (Int.not_le.mpr positive), fun malloc calls => ?_⟩
    have start : (newPrivdata 0 malloc k).Sized := rfl
    exact Privdata.right_iff.mpr (start.calls calls)

/-- In memory that held 8, two bytes are written to no block at all. -/
theorem not_privdataRight : ¬ ∀ garbage k : Int, PrivdataRight garbage k := by
  intro right
  have inside := ((right 8 0).always none []).inside [1, 2]
  exact absurd inside (by decide)

end GamingAnywhere.Pipeline
