import GamingAnywhere.Video.Frame
import Mathlib.Algebra.Group.Int.Even
import Mathlib.Data.Fin.VecNotation
import Mathlib.Tactic.Positivity.Basic
import Mathlib.Tactic.Linarith
import Mathlib.Tactic.Ring

namespace GamingAnywhere.Video
open Lib

def filterOffset (iwidth iheight : Int) : Fin 3 → Int :=
  ![0, int32 (iheight * iwidth), int32 (iheight * iwidth) + int32 (iheight * iwidth) / 4]

def filterFrame (iwidth : Int) (src dst : VsourceFrame) : VsourceFrame :=
  let dst := { dst with imgpts := src.imgpts, imgtype := .yuv420p }
  match src.imgtype with
  | .rgba => { dst with linesize := ![iwidth, iwidth / 2, iwidth / 2, 0] }
  | .yuv420p =>
      { dst with linesize := ![src.linesize 0, src.linesize 1, src.linesize 2, dst.linesize 3] }

def pictureRows (iheight : Int) : Fin 3 → Int := ![iheight, (iheight + 1) / 2, (iheight + 1) / 2]

/-- The linesizes that `avpicture_fill` leaves in `pic_in`. -/
def pictureLinesize (iwidth : Int) : Fin maxStride → Int := ![iwidth, (iwidth + 1) / 2, (iwidth + 1) / 2, 0]

def pictureOffset (iwidth iheight : Int) : Fin 3 → Int :=
  ![0, iwidth * iheight, iwidth * iheight + (iwidth + 1) / 2 * ((iheight + 1) / 2)]

def picInSize (iwidth iheight : Int) : Int :=
  iwidth * iheight + 2 * ((iwidth + 1) / 2 * ((iheight + 1) / 2))

/-- The comparison that `vencoder_threadproc` makes before it copies a frame. -/
def linesizesMatch (picture frame : Fin maxStride → Int) : Bool :=
  picture 0 = frame 0 && picture 1 = frame 1 && picture 2 = frame 2

/-- The end of a plane at `offset`: of the last row, only the samples count. -/
def planeEnd (iwidth iheight : Int) (offset : Fin 3 → Int) (linesize : Fin maxStride → Int) (i : Fin 3) :
    Int :=
  offset i + linesize i.castSucc * (pictureRows iheight i - 1) + pictureLinesize iwidth i.castSucc

structure LayoutsAgree (iwidth iheight : Int) (frame : VsourceFrame) : Prop where
  offset : ∀ i, filterOffset iwidth iheight i = pictureOffset iwidth iheight i
  linesize : ∀ i : Fin 3, frame.linesize i.castSucc = pictureLinesize iwidth i.castSucc
  apart : ∀ i : Fin 2, planeEnd iwidth iheight (filterOffset iwidth iheight) frame.linesize i.castSucc ≤
    filterOffset iwidth iheight i.succ
  copied : ∀ i, planeEnd iwidth iheight (filterOffset iwidth iheight) frame.linesize i ≤
    picInSize iwidth iheight
  inside : picInSize iwidth iheight ≤ frame.imgbufsize
  accepted : linesizesMatch (pictureLinesize iwidth) frame.linesize = true

section
variable {iwidth iheight : Int} {src dst : VsourceFrame}

theorem filterFrame_rgba (rgba : src.imgtype = .rgba) :
    (filterFrame iwidth src dst).linesize = ![iwidth, iwidth / 2, iwidth / 2, 0] ∧
      (filterFrame iwidth src dst).imgbufsize = dst.imgbufsize := by
  simp only [filterFrame, rgba]
  exact ⟨trivial, trivial⟩

theorem half_even (m : Int) : (m + m + 1) / 2 = m := by omega

theorem LayoutsAgree.even {frame : VsourceFrame} (agree : LayoutsAgree iwidth iheight frame)
    (width : 1 ≤ iwidth) (linesize : frame.linesize = ![iwidth, iwidth / 2, iwidth / 2, 0]) :
    Even iwidth ∧ Even iheight := by
  have chroma := agree.linesize 1
  rw [linesize] at chroma
  have halves : iwidth / 2 = (iwidth + 1) / 2 := chroma
  obtain ⟨m, rfl⟩ : ∃ m, iwidth = m + m := ⟨iwidth / 2, by omega⟩
  have first : int32 (iheight * (m + m)) = (m + m) * iheight := agree.offset 1
  have second : int32 (iheight * (m + m)) + int32 (iheight * (m + m)) / 4 =
      (m + m) * iheight + (m + m + 1) / 2 * ((iheight + 1) / 2) := agree.offset 2
  rw [first, half_even] at second
  refine ⟨⟨m, rfl⟩, ?_⟩
  rcases Int.even_or_odd iheight with even | ⟨k, rfl⟩
  · exact even
  · -- The third plane of the filter begins half a chroma row too early.
    have rows : (2 * k + 1 + 1) / 2 = k + 1 := by omega
    have product : (m + m) * (2 * k + 1) = 4 * (m * k) + 2 * m := by ring
    have behind : m * (k + 1) = m * k + m := by ring
    rw [rows, product, behind] at second
    omega

section
variable {m k : Int}

theorem product_even (m k : Int) : (m + m) * (k + k) = 4 * (m * k) := by ring

theorem pictureLinesize_even (m : Int) : pictureLinesize (m + m) = ![m + m, m, m, 0] := by
  rw [pictureLinesize, half_even]

theorem picInSize_even (m k : Int) : picInSize (m + m) (k + k) = 6 * (m * k) := by
  rw [picInSize, half_even, half_even, product_even]
  ring

theorem pictureOffset_even (m k : Int) :
    pictureOffset (m + m) (k + k) = ![0, 4 * (m * k), 4 * (m * k) + m * k] := by
  rw [pictureOffset, half_even, half_even, product_even]

theorem filterOffset_even (positive : 0 < m * k) (fits : 4 * (m * k) < 2147483648) :
    filterOffset (m + m) (k + k) = ![0, 4 * (m * k), 4 * (m * k) + m * k] := by
  have product : (k + k) * (m + m) = 4 * (m * k) := by ring
  have same : int32 (4 * (m * k)) = 4 * (m * k) := int32_of_lt (by omega) fits
  have quarter : 4 * (m * k) / 4 = m * k := by omega
  rw [filterOffset, product, same, quarter]

theorem planeEnd_even (i : Fin 3) :
    planeEnd (m + m) (k + k) ![0, 4 * (m * k), 4 * (m * k) + m * k] ![m + m, m, m, 0] i =
      (![4 * (m * k), 5 * (m * k), 6 * (m * k)] : Fin 3 → Int) i := by
  rw [planeEnd, pictureLinesize_even, pictureRows, half_even]
  match i with
  | 0 =>
      change 0 + (m + m) * (k + k - 1) + (m + m) = 4 * (m * k)
      ring
  | 1 =>
      change 4 * (m * k) + m * (k - 1) + m = 5 * (m * k)
      ring
  | 2 =>
      change 4 * (m * k) + m * k + m * (k - 1) + m = 6 * (m * k)
      ring

end

theorem layoutsAgree_of_even {m k : Int} {frame : VsourceFrame} (width : 1 ≤ m) (height : 1 ≤ k)
    (linesize : frame.linesize = ![m + m, (m + m) / 2, (m + m) / 2, 0]) (short : frame.imgbufsize < 2147483648) :
    LayoutsAgree (m + m) (k + k) frame ↔ 6 * (m * k) ≤ frame.imgbufsize := by
  have columns : (m + m) / 2 = m := by omega
  rw [columns] at linesize
  constructor
  · intro agree
    rw [← picInSize_even]
    exact agree.inside
  · intro room
    have positive : 0 < m * k := by positivity
    have offsets := filterOffset_even positive (by omega)
    refine ⟨fun i => by rw [offsets, pictureOffset_even], ?_, ?_, ?_, ?_, ?_⟩
    · intro i
      rw [linesize, pictureLinesize_even]
    · intro i
      rw [offsets, linesize, planeEnd_even]
      match i with
      | 0 => exact Int.le_refl _
      | 1 =>
          change 5 * (m * k) ≤ 4 * (m * k) + m * k
          omega
    · intro i
      rw [offsets, linesize, planeEnd_even, picInSize_even]
      match i with
      | 0 =>
          change 4 * (m * k) ≤ 6 * (m * k)
          omega
      | 1 =>
          change 5 * (m * k) ≤ 6 * (m * k)
          omega
      | 2 => exact Int.le_refl _
    · rw [picInSize_even]
      exact room
    · simp [linesizesMatch, linesize, pictureLinesize_even]

theorem layoutsAgree_iff (malloc : Int → Option Nat) (iwidth iheight istride : Int) (src dst : VsourceFrame)
    (width : 1 ≤ iwidth) (height : 1 ≤ iheight) (rgba : src.imgtype = .rgba)
    (made : vsourceFrameInit malloc iwidth iheight istride = some (true, dst)) :
    LayoutsAgree iwidth iheight (filterFrame iwidth src dst) ↔
      Even iwidth ∧ Even iheight ∧ 3 * (iwidth * iheight) ≤ 2 * dst.imgbufsize := by
  obtain ⟨linesize, size⟩ : (filterFrame iwidth src dst).linesize = ![iwidth, iwidth / 2, iwidth / 2, 0] ∧
      (filterFrame iwidth src dst).imgbufsize = dst.imgbufsize := filterFrame_rgba rgba
  have short : (filterFrame iwidth src dst).imgbufsize < 2147483648 := by
    obtain ⟨-, -, -, whole, -⟩ := vsourceFrameInit_placed made
    rw [size, whole]
    exact int32_lt _
  have room (m k : Int) : 3 * ((m + m) * (k + k)) ≤ 2 * dst.imgbufsize ↔ 6 * (m * k) ≤ dst.imgbufsize := by
    have product : (m + m) * (k + k) = 4 * (m * k) := by ring
    omega
  constructor
  · intro agree
    obtain ⟨⟨m, rfl⟩, ⟨k, rfl⟩⟩ := agree.even width linesize
    have fits := (layoutsAgree_of_even (by omega) (by omega) linesize short).mp agree
    rw [size] at fits
    exact ⟨⟨m, rfl⟩, ⟨k, rfl⟩, (room m k).mpr fits⟩
  · rintro ⟨⟨m, rfl⟩, ⟨k, rfl⟩, fits⟩
    refine (layoutsAgree_of_even (by omega) (by omega) linesize short).mpr ?_
    rw [size]
    exact (room m k).mp fits

end

theorem layoutsAgree_iff_two_rows : ∃ dst, vsourceFrameInit (fun _ => some 4096) 2 2 8 = some (true, dst) ∧
    LayoutsAgree 2 2 (filterFrame 2 dst dst) :=
  ⟨_, rfl, (layoutsAgree_iff (fun _ => some 4096) 2 2 8 _ _ (by decide) (by decide) rfl rfl).mpr
    ⟨by decide, by decide, by decide⟩⟩

/-- Three pixels in a row: the encoder quits. -/
theorem not_layoutsAgree :
    ¬ ∀ (malloc : Int → Option Nat) (iwidth iheight istride : Int) (src dst : VsourceFrame),
      1 ≤ iwidth → 1 ≤ iheight → 4 * iwidth ≤ istride → src.imgtype = .rgba →
      vsourceFrameInit malloc iwidth iheight istride = some (true, dst) →
      LayoutsAgree iwidth iheight (filterFrame iwidth src dst) := by
  intro all
  have agree := all (fun _ => some 4096) 3 2 12 .zero _ (by decide) (by decide) (by decide) rfl rfl
  exact absurd agree.accepted (by decide)

end GamingAnywhere.Video
