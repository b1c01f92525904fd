import GamingAnywhere.Lib.Bytes
import Mathlib.Tactic.Linarith
import Mathlib.Tactic.Ring

namespace GamingAnywhere.Video
open Lib

def rgbaSize : Int := 4

structure GaRect where
  left : Int
  top : Int
  right : Int
  bottom : Int
  width : Int
  height : Int
  linesize : Int
  size : Int

def gaFillrect (left top right bottom : Int) : Option GaRect :=
  let (left, right) := if left > right then (right, left) else (left, right)
  let (top, bottom) := if top > bottom then (bottom, top) else (top, bottom)
  let width := int32 (right - left + 1)
  let height := int32 (bottom - top + 1)
  if width ≤ 0 ∨ height ≤ 0 then none
  else
    some { left, top, right, bottom, width, height, linesize := int32 (width * rgbaSize)
           size := int32 (int32 (width * height) * rgbaSize) }

/-! ## `ga_crop_window` -/

structure Bounds where
  left : Int
  top : Int
  right : Int
  bottom : Int

/-- An error, no window to crop to, or the corners of one. -/
inductive Cropped
  | failed
  | whole
  | window (rect : Bounds)

/-- `multiples of 2?`: the lower edge, moved by one where the number of columns or rows is odd. -/
def evenEdge (low high : Int) : Int :=
  if (int32 (high - low + 1)).tmod 2 ≠ 0 then int32 (low - 1) else low

def cropTo (dw dh : Int) (rect : Bounds) : Cropped :=
  let left := evenEdge rect.left rect.right
  let top := evenEdge rect.top rect.bottom
  if left < 0 ∨ top < 0 ∨ rect.right ≥ dw ∨ rect.bottom ≥ dh then .failed
  else .window ⟨left, top, rect.right, rect.bottom⟩

/-! ### X11 -/

structure XAttributes where
  rx : Int
  ry : Int
  width : Int
  height : Int

/-- A window with its name, its attributes and, if `XQueryTree` lists them, its children. -/
inductive XWindow
  | mk (name : Option Bytes) (attributes : Option XAttributes) (listed : Bool) (children : List XWindow)

def XWindow.attributes : XWindow → Option XAttributes
  | mk _ attributes _ _ => attributes

mutual

def findWindowX (name : Bytes) : XWindow → Option XWindow
  | .mk wname attributes listed children =>
      if wname = some name then some (.mk wname attributes listed children)
      else if listed then findWindowsX name children
      else none

def findWindowsX (name : Bytes) : List XWindow → Option XWindow
  | [] => none
  | child :: rest =>
      match findWindowX name child with
      | some w => some w
      | none => findWindowsX name rest

end

def getClientRectX (w : XWindow) : Option Bounds :=
  w.attributes.map fun a =>
    ⟨a.rx, a.ry, int32 (a.rx + a.width - 1), int32 (a.ry + a.height - 1)⟩

structure XDisplay where
  dw : Int
  dh : Int
  root : XWindow

/-- `display` and `name` are what the configuration has of the two variables. -/
def gaCropWindowX11 (display name : Option Bytes) (xOpenDisplay : Bytes → Option XDisplay) : Cropped :=
  match display, name with
  | none, _ | _, none => .whole
  | some display, some name =>
      match xOpenDisplay display with
      | none => .failed
      | some d =>
          match (findWindowX name d.root).bind getClientRectX with
          | none => .failed
          | some rect => cropTo d.dw d.dh rect

/-! ### Windows -/

structure HWnd where
  /-- Whether `SetWindowPos` succeeds. -/
  setWindowPos : Bool
  clientRect : Option Bounds
  clientToScreen : Int × Int → Option (Int × Int)

structure WinDesktop where
  dw : Int
  dh : Int
  findWindow : Option Bytes → Option Bytes → Option HWnd

def HWnd.screenRect (hWnd : HWnd) : Option Bounds :=
  match hWnd.clientRect with
  | none => none
  | some client =>
      match hWnd.clientToScreen (client.left, client.top),
        hWnd.clientToScreen (int32 (client.right - 1), int32 (client.bottom - 1)) with
      | some lt, some rb => some ⟨lt.1, lt.2, rb.1, rb.2⟩
      | _, _ => none

def isNamed (s : Option Bytes) : Bool := s.any fun s => !s.isEmpty

def gaCropWindowWin32 (pname pclass : Option Bytes) (desktop : WinDesktop) : Cropped :=
  if isNamed pname || isNamed pclass then
    match desktop.findWindow pclass pname with
    | none => .failed
    | some hWnd =>
        if hWnd.setWindowPos then
          match hWnd.screenRect with
          | none => .failed
          | some rect => cropTo desktop.dw desktop.dh rect
        else .failed
  else .whole

/-- `ga_crop_window` returns 1 and `rect`, for a window in the corners `window` of a screen of `dw` times
`dh` pixels. -/
inductive Crops (dw dh : Int) (window rect : Bounds) : Prop
  | x11 (display name : Bytes) (xOpenDisplay : Bytes → Option XDisplay) (root : XWindow) :
      xOpenDisplay display = some ⟨dw, dh, root⟩ →
      (findWindowX name root).bind getClientRectX = some window →
      gaCropWindowX11 (some display) (some name) xOpenDisplay = .window rect → Crops dw dh window rect
  | win32 (pname pclass : Option Bytes) (desktop : WinDesktop) (hWnd : HWnd) :
      desktop.dw = dw → desktop.dh = dh → desktop.findWindow pclass pname = some hWnd →
      hWnd.screenRect = some window → gaCropWindowWin32 pname pclass desktop = .window rect →
      Crops dw dh window rect

/-! ## What comes of it -/

structure Bounds.Inside (rect : Bounds) (dw dh : Int) : Prop where
  left : 0 ≤ rect.left
  horizontal : rect.left ≤ rect.right
  right : rect.right < dw
  top : 0 ≤ rect.top
  vertical : rect.top ≤ rect.bottom
  bottom : rect.bottom < dh

structure GaRect.Sized (grect : GaRect) : Prop where
  width : 0 < grect.width
  height : 0 < grect.height
  evenWidth : 2 ∣ grect.width
  evenHeight : 2 ∣ grect.height
  linesize : grect.linesize = 4 * grect.width
  size : grect.size = grect.linesize * grect.height

structure GaRect.Covers (grect : GaRect) (rect : Bounds) : Prop where
  left : grect.left = rect.left
  top : grect.top = rect.top
  width : grect.width = rect.right - rect.left + 1
  height : grect.height = rect.bottom - rect.top + 1

section
variable {dw dh : Int} {window rect : Bounds}

theorem Crops.cropTo (crops : Crops dw dh window rect) : cropTo dw dh window = .window rect := by
  cases crops with
  | x11 display name xOpenDisplay root opened found returned =>
      simpa only [gaCropWindowX11, opened, found] using returned
  | win32 pname pclass desktop hWnd width height found corners returned =>
      rw [gaCropWindowWin32] at returned
      split_ifs at returned with named
      rw [found] at returned
      dsimp only at returned
      split_ifs at returned with positioned
      rw [corners] at returned
      dsimp only at returned
      rwa [width, height] at returned

theorem Crops.of_cropTo (cropped : Video.cropTo dw dh window = .window rect)
    (right : int32 window.right = window.right) (bottom : int32 window.bottom = window.bottom) :
    Crops dw dh window rect := by
  let root : XWindow := .mk (some []) (some ⟨window.left, window.top, window.right - window.left + 1,
    window.bottom - window.top + 1⟩) false []
  have corners : (findWindowX [] root).bind getClientRectX = some window := by
    have columns : window.left + (window.right - window.left + 1) - 1 = window.right := by ring
    have rows : window.top + (window.bottom - window.top + 1) - 1 = window.bottom := by ring
    simp only [root, findWindowX, if_true, Option.bind_some, getClientRectX, XWindow.attributes,
      Option.map_some, columns, rows, right, bottom]
  refine .x11 [] [] (fun _ => some ⟨dw, dh, root⟩) root rfl corners ?_
  simpa only [gaCropWindowX11, corners] using cropped

theorem evenEdge_spec {low high : Int} (ordered : low ≤ high) (above : -2147483648 < low)
    (below : low ≤ 2147483648) : evenEdge low high ≤ high ∧ 2 ∣ high - evenEdge low high + 1 := by
  unfold evenEdge
  split_ifs with odd
  · rw [ne_eq, ← Int.dvd_iff_tmod_eq_zero, two_dvd_int32] at odd
    rw [int32_of_lt (by omega) (by omega)]
    omega
  · rw [not_not, ← Int.dvd_iff_tmod_eq_zero, two_dvd_int32] at odd
    exact ⟨ordered, odd⟩

theorem cropTo_spec (cropped : cropTo dw dh window = .window rect) (horizontal : window.left ≤ window.right)
    (vertical : window.top ≤ window.bottom) (left : -2147483648 < window.left)
    (top : -2147483648 < window.top) (screen : dw ≤ 2147483648 ∧ dh ≤ 2147483648) :
    rect.Inside dw dh ∧ 2 ∣ rect.right - rect.left + 1 ∧ 2 ∣ rect.bottom - rect.top + 1 := by
  rw [cropTo] at cropped
  split_ifs at cropped with hidden
  obtain rfl := Cropped.window.inj cropped
  rw [not_or, not_or, not_or] at hidden
  obtain ⟨left_in, top_in, right_in, bottom_in⟩ := hidden
  obtain ⟨columns, evenWidth⟩ := evenEdge_spec horizontal left (by omega)
  obtain ⟨rows, evenHeight⟩ := evenEdge_spec vertical top (by omega)
  exact ⟨⟨Int.not_lt.mp left_in, columns, Int.not_le.mp right_in, Int.not_lt.mp top_in, rows,
    Int.not_le.mp bottom_in⟩, evenWidth, evenHeight⟩

theorem gaFillrect_spec (inside : rect.Inside dw dh) (small : 4 * dw * dh < 2147483648) :
    ∃ grect, gaFillrect rect.left rect.top rect.right rect.bottom = some grect ∧ grect.Covers rect ∧
      grect.linesize = 4 * grect.width ∧ grect.size = grect.linesize * grect.height := by
  obtain ⟨left, horizontal, right, top, vertical, bottom⟩ := inside
  have width_le : rect.right - rect.left + 1 ≤ dw := by omega
  have height_le : rect.bottom - rect.top + 1 ≤ dh := by omega
  have area : (rect.right - rect.left + 1) * (rect.bottom - rect.top + 1) ≤ dw * dh :=
    Int.mul_le_mul width_le height_le (by omega) (by omega)
  have columns : dw ≤ dw * dh := by nlinarith
  have rows : dh ≤ dw * dh := by nlinarith
  have positive : 0 < (rect.right - rect.left + 1) * (rect.bottom - rect.top + 1) :=
    Int.mul_pos (by omega) (by omega)
  have four : 4 * dw * dh = 4 * (dw * dh) := Int.mul_assoc ..
  have width : int32 (rect.right - rect.left + 1) = rect.right - rect.left + 1 :=
    int32_of_lt (by omega) (by omega)
  have height : int32 (rect.bottom - rect.top + 1) = rect.bottom - rect.top + 1 :=
    int32_of_lt (by omega) (by omega)
  have linesize : int32 ((rect.right - rect.left + 1) * rgbaSize) = 4 * (rect.right - rect.left + 1) := by
    rw [rgbaSize, int32_of_lt (by omega) (by omega), Int.mul_comm]
  have product : int32 ((rect.right - rect.left + 1) * (rect.bottom - rect.top + 1)) =
      (rect.right - rect.left + 1) * (rect.bottom - rect.top + 1) := int32_of_lt (by omega) (by omega)
  have size : int32 ((rect.right - rect.left + 1) * (rect.bottom - rect.top + 1) * rgbaSize) =
      4 * (rect.right - rect.left + 1) * (rect.bottom - rect.top + 1) := by
    rw [rgbaSize, int32_of_lt (by omega) (by omega)]
    ring
  refine ⟨⟨rect.left, rect.top, rect.right, rect.bottom, rect.right - rect.left + 1,
    rect.bottom - rect.top + 1, 4 * (rect.right - rect.left + 1),
    4 * (rect.right - rect.left + 1) * (rect.bottom - rect.top + 1)⟩, ?_, ⟨rfl, rfl, rfl, rfl⟩, rfl, rfl⟩
  rw [gaFillrect, if_neg (Int.not_lt.mpr horizontal), if_neg (Int.not_lt.mpr vertical)]
  dsimp only
  rw [width, height, if_neg (by omega), linesize, product, size]

end

end GamingAnywhere.Video
