import GamingAnywhere.Lib.Bytes

namespace GamingAnywhere.Video
open Lib

inductive VsourceType
  | rgba
  | yuv420p
  deriving DecidableEq

abbrev maxStride : Nat := 4

/-- A block of memory is known by its address. -/
structure VsourceFrame where
  imgpts : Int
  imgtype : VsourceType
  linesize : Fin maxStride → Int
  stride : Int
  imgbufsize : Int
  imgbuf : Option Nat
  imgbufInternal : Option Nat
  alignment : Nat

def VsourceFrame.zero : VsourceFrame := ⟨0, .rgba, fun _ => 0, 0, 0, none, none, 0⟩

/-- The address and the alignment, `none` where `malloc` returns NULL. -/
def gaMalloc (malloc : Int → Option Nat) (size : Int) : Option (Nat × Nat) :=
  (malloc (int32 (size + 16))).map fun ptr => (ptr, 16 - ptr % 16)

/-- Whether the frame is returned, and what it holds then; `none` where the size that `bzero` gets is
negative, so that it runs past every block. -/
def vsourceFrameInit (malloc : Int → Option Nat) (_width height stride : Int) :
    Option (Bool × VsourceFrame) :=
  let frame := { VsourceFrame.zero with linesize := fun _ => stride, stride := stride,
                                        imgbufsize := int32 (height * stride) }
  match gaMalloc malloc frame.imgbufsize with
  | none => some (false, frame)
  | some (ptr, alignment) =>
      if frame.imgbufsize < 0 then none
      else some (true, { frame with imgbuf := some (ptr + alignment),
                                    imgbufInternal := some ptr, alignment := alignment })

/-- The addresses it passes to `free`. -/
def vsourceFrameRelease : Option VsourceFrame → List Nat
  | none => []
  | some frame => frame.imgbuf.toList

structure VsourceFrame.Placed (frame : VsourceFrame) (block : Nat) : Prop where
  aligned : ∀ imgbuf, frame.imgbuf = some imgbuf → 16 ∣ imgbuf
  inside : ∃ imgbuf, frame.imgbuf = some imgbuf ∧ block ≤ imgbuf ∧
    (imgbuf : Int) + frame.imgbufsize ≤ block + (frame.imgbufsize + 16)

def FrameRight (block : Nat) (width height stride : Int) : Prop :=
  ∃ frame, vsourceFrameInit (fun _ => some block) width height stride = some (true, frame) ∧
    frame.Placed block ∧ vsourceFrameRelease (some frame) = [block]

theorem alignment_pos (ptr : Nat) : 0 < 16 - ptr % 16 := by omega

theorem aligned_add (ptr : Nat) : 16 ∣ ptr + (16 - ptr % 16) := by omega

theorem vsourceFrameInit_placed {malloc : Int → Option Nat} {width height stride : Int}
    {result : VsourceFrame} (made : vsourceFrameInit malloc width height stride = some (true, result)) :
    ∃ block, malloc (int32 (result.imgbufsize + 16)) = some block ∧ result.Placed block ∧
      result.imgbufsize = int32 (height * stride) ∧ result.stride = stride ∧
      result.imgbuf = some (block + result.alignment) ∧ result.alignment = 16 - block % 16 := by
  unfold vsourceFrameInit gaMalloc at made
  cases obtained : malloc (int32 (int32 (height * stride) + 16)) with
  | none => simp [obtained] at made
  | some block =>
      simp only [obtained, Option.map_some] at made
      split at made
      · contradiction
      · simp only [Option.some.injEq, Prod.mk.injEq, true_and] at made
        subst made
        refine ⟨block, obtained, ⟨?_, block + (16 - block % 16), rfl, by omega, ?_⟩, rfl, rfl, rfl, rfl⟩
        · intro imgbuf same
          obtain rfl := Option.some.inj same
          exact aligned_add block
        · dsimp only
          omega

theorem vsourceFrameInit_refused {malloc : Int → Option Nat} (width : Int) {height stride : Int}
    (refused : malloc (int32 (int32 (height * stride) + 16)) = none) :
    ∃ frame, vsourceFrameInit malloc width height stride = some (false, frame) := by
  simp only [vsourceFrameInit, gaMalloc, refused, Option.map_none]
  exact ⟨_, rfl⟩

theorem vsourceFrameInit_obtained {malloc : Int → Option Nat} (width : Int) {height stride : Int}
    (obtained : malloc (int32 (int32 (height * stride) + 16)) ≠ none) :
    (∃ frame, vsourceFrameInit malloc width height stride = some (true, frame)) ↔
      0 ≤ int32 (height * stride) := by
  obtain ⟨block, got⟩ := Option.ne_none_iff_exists'.mp obtained
  simp only [vsourceFrameInit, gaMalloc, got, Option.map_some]
  split
  · next negative => exact iff_of_false nofun (Int.not_le.mpr negative)
  · next positive => exact iff_of_true ⟨_, rfl⟩ (Int.not_lt.mp positive)

theorem vsourceFrameInit_fault {malloc : Int → Option Nat} (width : Int) {height stride : Int}
    (obtained : malloc (int32 (int32 (height * stride) + 16)) ≠ none)
    (negative : int32 (height * stride) < 0) : vsourceFrameInit malloc width height stride = none := by
  obtain ⟨block, got⟩ := Option.ne_none_iff_exists'.mp obtained
  simp only [vsourceFrameInit, gaMalloc, got, Option.map_some]
  exact if_pos negative

theorem frameRight_never (block : Nat) (width height stride : Int)
    (fits : height * stride + 16 < 2147483648) :
    ¬ FrameRight block width height stride ∧
    (0 ≤ height * stride → ∃ frame,
      vsourceFrameInit (fun _ => some block) width height stride = some (true, frame) ∧
      frame.imgbufsize = height * stride ∧ frame.Placed block ∧
      vsourceFrameRelease (some frame) = [block + frame.alignment] ∧ 0 < frame.alignment) := by
  constructor
  · rintro ⟨frame, made, -, freed⟩
    obtain ⟨obtained, same, -, -, -, imgbuf, alignment⟩ := vsourceFrameInit_placed made
    obtain rfl := Option.some.inj same
    rw [vsourceFrameRelease, imgbuf, alignment] at freed
    have kept : block + (16 - block % 16) = block := by simpa using freed
    have := alignment_pos block
    omega
  · intro positive
    have exact' : int32 (height * stride) = height * stride := int32_of_lt (by omega) (by omega)
    have nonnegative : 0 ≤ int32 (height * stride) := by rwa [exact']
    have found : ∃ frame,
        vsourceFrameInit (fun _ => some block) width height stride = some (true, frame) :=
      (vsourceFrameInit_obtained width (Option.some_ne_none block)).mpr nonnegative
    obtain ⟨frame, made⟩ := found
    obtain ⟨obtained, same, placed, size, -, imgbuf, alignment⟩ := vsourceFrameInit_placed made
    obtain rfl := Option.some.inj same
    refine ⟨frame, made, size.trans exact', placed, ?_, ?_⟩
    · rw [vsourceFrameRelease, imgbuf]
      rfl
    · rw [alignment]
      exact alignment_pos block

theorem frameRight_never_two_rows : ¬ FrameRight 4096 2 2 8 :=
  (frameRight_never 4096 2 2 8 (by decide)).1

/-- The block at 4096 is freed as 4112. -/
theorem not_frameRight : ¬ ∀ (block : Nat) (width height stride : Int), 0 ≤ height * stride →
    height * stride + 16 < 2147483648 → FrameRight block width height stride := by
  intro right
  obtain ⟨frame, made, -, freed⟩ := right 4096 2 2 8 (by decide) (by decide)
  have built : vsourceFrameInit (fun _ => some 4096) 2 2 8 =
      some (true, ⟨0, .rgba, fun _ => 8, 8, 16, some 4112, some 4096, 16⟩) := rfl
  rw [built] at made
  cases made
  exact absurd freed (by decide)

end GamingAnywhere.Video
