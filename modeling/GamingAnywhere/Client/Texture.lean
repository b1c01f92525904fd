import GamingAnywhere.Lib.Bytes
import GamingAnywhere.Lib.Raster
import Mathlib.Tactic.Linarith
import Mathlib.Tactic.Ring

namespace GamingAnywhere.Client
open Lib Raster

/-- The planes as `avpicture_alloc` lays them out for YUV420P, the lines of each one behind the other. -/
structure AvPicture where
  data : Fin 3 → Int → UInt8

def lumaBytes (width height : Int) : Nat := sizeT (int32 (width * height))

def chromaBytes (width height : Int) : Nat := sizeT ((int32 (width * height)).tdiv 4)

def uOffset (pitch height : Int) : Int := (int32 (int32 (pitch * height) * 5)).shiftRight 2

def vOffset (pitch height : Int) : Int := int32 (pitch * height)

/-- `vframe` is what the pipe has loaded, and `pitch` that of the texture if it could be locked. -/
def renderImage (width height : Int) (vframe : Option AvPicture) (pitch : Option Int) (pixels : Int → UInt8) :
    Int → UInt8 :=
  match vframe, pitch with
  | some vframe, some pitch =>
      let pixels := copy (vframe.data 0) 0 (lumaBytes width height) pixels 0
      let pixels := copy (vframe.data 1) 0 (chromaBytes width height) pixels (uOffset pitch height)
      copy (vframe.data 2) 0 (chromaBytes width height) pixels (vOffset pitch height)
  | _, _ => pixels

def HoldsPlane (pixels : Int → UInt8) (start pitch : Int) (plane : Int → UInt8) (w h : Int) : Prop :=
  ∀ x y, 0 ≤ x → x < w → 0 ≤ y → y < h → pixels (start + (y * pitch + x)) = plane (y * w + x)

structure HoldsFrame (width height pitch : Int) (vframe : AvPicture) (pixels : Int → UInt8) : Prop where
  y : HoldsPlane pixels 0 pitch (vframe.data 0) width height
  v : HoldsPlane pixels (pitch * height) (pitch / 2) (vframe.data 2) (width / 2) (height / 2)
  u : HoldsPlane pixels (pitch * height + pitch / 2 * (height / 2)) (pitch / 2) (vframe.data 1) (width / 2)
    (height / 2)

def Renders (width height pitch : Int) : Prop :=
  ∀ vframe pixels,
    HoldsFrame width height pitch vframe (renderImage width height (some vframe) (some pitch) pixels)

section
variable {width height pitch i : Int} {vframe : AvPicture} {pixels : Int → UInt8}

theorem renderImage_at :
    renderImage width height (some vframe) (some pitch) pixels i =
      if vOffset pitch height ≤ i ∧ i < vOffset pitch height + chromaBytes width height then
        vframe.data 2 (i - vOffset pitch height)
      else if uOffset pitch height ≤ i ∧ i < uOffset pitch height + chromaBytes width height then
        vframe.data 1 (i - uOffset pitch height)
      else if 0 ≤ i ∧ i < lumaBytes width height then vframe.data 0 i
      else pixels i := by
  simp only [renderImage, copy, Int.zero_add, Int.sub_zero]

def onlyPlane (n : Fin 3) (plane : Int → UInt8) : AvPicture := ⟨fun k => if k = n then plane else fun _ => 0⟩

theorem luma_of_ne_zero {plane : Int → UInt8}
    (seen : renderImage width height (some (onlyPlane 0 plane)) (some pitch) (fun _ => 0) i ≠ 0) :
    plane i ≠ 0 := by
  rw [renderImage_at] at seen
  split_ifs at seen with v u y
  · exact absurd rfl seen
  · exact absurd rfl seen
  · exact seen
  · exact absurd rfl seen

theorem u_of_ne_zero {plane : Int → UInt8}
    (seen : renderImage width height (some (onlyPlane 1 plane)) (some pitch) (fun _ => 0) i ≠ 0) :
    plane (i - uOffset pitch height) ≠ 0 := by
  rw [renderImage_at] at seen
  split_ifs at seen with v u y
  · exact absurd rfl seen
  · exact seen
  · exact absurd rfl seen
  · exact absurd rfl seen

theorem Renders.pitch_eq (renders : Renders width height pitch) (columns : 0 < width) (rows : 1 < height) :
    pitch = width := by
  have second := (renders (onlyPlane 0 fun i => if i = width then 1 else 0) fun _ => 0).y 0 1 (Int.le_refl 0)
    columns (by decide) rows
  have ones : (onlyPlane 0 fun i => if i = width then 1 else 0).data 0 (1 * width + 0) = 1 := by
    rw [Int.one_mul, Int.add_zero]
    exact if_pos rfl
  rw [ones] at second
  have lit := luma_of_ne_zero (by rw [second]; decide)
  by_contra apart
  exact lit (if_neg (by omega))

theorem uOffset_eq {m : Int} (samples : width * height = 4 * m) :
    ∃ k, int32 (20 * m) = 20 * m - 4294967296 * k ∧ uOffset width height = 5 * m - 1073741824 * k := by
  obtain ⟨k, kept⟩ := exists_int32_eq (20 * m)
  have fives : int32 (int32 (width * height) * 5) = 4 * (5 * m - 1073741824 * k) := by
    have twenty : 4 * m * 5 = 20 * m := by ring
    rw [int32_int32_mul, samples, twenty, kept]
    ring
  refine ⟨k, kept, ?_⟩
  rw [uOffset, fives]
  calc (4 * (5 * m - 1073741824 * k)).shiftRight 2
    _ = 4 * (5 * m - 1073741824 * k) / 4 := Int.shiftRight_eq_div_pow _ 2
    _ = 5 * m - 1073741824 * k := Int.mul_ediv_cancel_left _ (by decide)

theorem Renders.u_lt {a b : Int} (renders : Renders (2 * a) (2 * b) (2 * a)) (columns : 0 < a) (rows : 0 < b) :
    20 * (a * b) < 2147483648 := by
  have samples : 2 * a * (2 * b) = 4 * (a * b) := by ring
  obtain ⟨k, kept, offset⟩ := uOffset_eq samples
  have first := (renders (onlyPlane 1 fun i => if i = 0 then 1 else 0) fun _ => 0).u 0 0 (Int.le_refl 0)
    (by omega) (Int.le_refl 0) (by omega)
  have lit := u_of_ne_zero (by
    rw [first, Int.zero_mul, Int.zero_add]
    exact (by decide : (1 : UInt8) ≠ 0))
  have start : 2 * a * (2 * b) + 2 * a / 2 * (2 * b / 2) + (0 * (2 * a / 2) + 0) = 5 * (a * b) := by
    rw [Int.mul_ediv_cancel_left a (by decide), Int.mul_ediv_cancel_left b (by decide)]
    ring
  have zero : 2 * a * (2 * b) + 2 * a / 2 * (2 * b / 2) + (0 * (2 * a / 2) + 0) - uOffset (2 * a) (2 * b) = 0 := by
    by_contra apart
    exact lit (if_neg apart)
  rw [start, offset] at zero
  have below := int32_lt (20 * (a * b))
  omega

theorem sample_lt {x y w h : Int} (left : 0 ≤ x) (right : x < w) (top : 0 ≤ y) (bottom : y < h) :
    0 ≤ y * w + x ∧ y * w + x < w * h := by
  constructor
  · have := Int.mul_nonneg top (Int.le_of_lt (Int.lt_of_le_of_lt left right))
    omega
  · have : (y + 1) * w ≤ h * w := Int.mul_le_mul_of_nonneg_right bottom (by omega)
    rw [Int.add_mul, Int.one_mul, Int.mul_comm h] at this
    omega

theorem renders_packed {a b : Int} (columns : 0 < a) (rows : 0 < b) (small : 20 * (a * b) < 2147483648) :
    Renders (2 * a) (2 * b) (2 * a) := by
  have samples : 2 * a * (2 * b) = 4 * (a * b) := by ring
  have positive : 0 < a * b := Int.mul_pos columns rows
  have kept : int32 (2 * a * (2 * b)) = 4 * (a * b) := by rw [samples, int32_of_lt (by omega) (by omega)]
  have luma : (lumaBytes (2 * a) (2 * b) : Int) = 4 * (a * b) := by
    rw [lumaBytes, kept, sizeT]
    omega
  have chroma : (chromaBytes (2 * a) (2 * b) : Int) = a * b := by
    rw [chromaBytes, kept, Int.mul_tdiv_cancel_left _ (by decide), sizeT]
    omega
  have v : vOffset (2 * a) (2 * b) = 4 * (a * b) := kept
  have u : uOffset (2 * a) (2 * b) = 5 * (a * b) := by
    obtain ⟨k, twenty, offset⟩ := uOffset_eq samples
    rw [int32_of_lt (by omega) small] at twenty
    omega
  intro vframe pixels
  constructor
  · intro x y left right top bottom
    obtain ⟨low, high⟩ := sample_lt left right top bottom
    rw [samples] at high
    rw [Int.zero_add, renderImage_at, v, u, chroma, luma, if_neg (by omega), if_neg (by omega),
      if_pos ⟨low, high⟩]
  · intro x y left right top bottom
    obtain ⟨low, high⟩ := sample_lt left right top bottom
    rw [Int.mul_ediv_cancel_left a (by decide)] at low high ⊢
    rw [Int.mul_ediv_cancel_left b (by decide)] at high
    rw [samples, renderImage_at, v, chroma, if_pos (by omega), add_sub_cancel_left]
  · intro x y left right top bottom
    obtain ⟨low, high⟩ := sample_lt left right top bottom
    rw [Int.mul_ediv_cancel_left a (by decide)] at low high ⊢
    rw [Int.mul_ediv_cancel_left b (by decide)] at high ⊢
    have start : 4 * (a * b) + a * b = 5 * (a * b) := by ring
    rw [samples, start, renderImage_at, v, u, chroma, if_neg (by omega), if_pos (by omega),
      add_sub_cancel_left]

end

/-- The pitch is in the offsets of the planes, but not between the lines of a plane. -/
theorem renderImage_pitch_iff {width height pitch : Int} (positive : 0 < width ∧ 0 < height)
    (even : 2 ∣ width ∧ 2 ∣ height) (wide : width ≤ pitch) :
    Renders width height pitch ↔ pitch = width ∧ 5 * width * height < 2147483648 := by
  obtain ⟨⟨a, rfl⟩, b, rfl⟩ := even
  have bytes : 5 * (2 * a) * (2 * b) = 20 * (a * b) := by ring
  rw [bytes]
  constructor
  · intro renders
    obtain rfl := renders.pitch_eq positive.1 (by omega)
    exact ⟨rfl, renders.u_lt (by omega) (by omega)⟩
  · rintro ⟨rfl, small⟩
    exact renders_packed (by omega) (by omega) small

theorem renderImage_pitch_packed : Renders 4 2 4 :=
  (renderImage_pitch_iff ⟨by decide, by decide⟩ ⟨by decide, by decide⟩ (Int.le_refl 4)).mpr
    ⟨rfl, by decide⟩

theorem not_renderImage_pitch : ¬ ∀ width height pitch : Int, 0 < width ∧ 0 < height →
    2 ∣ width ∧ 2 ∣ height → width ≤ pitch → Renders width height pitch := by
  intro renders
  have padded := renders 2 2 4 ⟨by decide, by decide⟩ ⟨by decide, by decide⟩ (by decide)
  have second := (padded ⟨fun _ _ => 1⟩ fun _ => 0).y 0 1 (by decide) (by decide) (by decide) (by decide)
  exact absurd second (by decide)

end GamingAnywhere.Client
