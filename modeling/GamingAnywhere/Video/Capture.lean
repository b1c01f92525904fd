import GamingAnywhere.Lib.Raster
import GamingAnywhere.Video.Cropping

namespace GamingAnywhere.Video
open Lib Raster

structure Copied where
  buf : Int → UInt8
  reads : List (Int × Nat)

def copyRect (bits : Int → UInt8) (source pitch : Int) (grect : GaRect) (buf : Int → UInt8) : Copied where
  buf := copyRows bits (sizeT grect.linesize) pitch grect.linesize grect.height.toNat source 0 buf
  reads := rowsRead (sizeT grect.linesize) pitch grect.height.toNat source

def copyBlock (bits : Int → UInt8) (size : Int) (buf : Int → UInt8) : Copied :=
  ⟨copy bits 0 (sizeT size) buf 0, [(0, sizeT size)]⟩

/-! ## X11 -/

structure XImage where
  bytesPerLine : Int
  data : Int → UInt8

/-- `image` is as `XShmGetImage` leaves it; the program exits if that fails. -/
def gaXwinCapture (image : Option XImage) (buf : Int → UInt8) (buflen : Int) (rect : Option GaRect) :
    Option Copied :=
  image.map fun image =>
    match rect with
    | none => copyBlock image.data buflen buf
    | some rect =>
        copyRect image.data (int32 (image.bytesPerLine * rect.top) + int32 (rgbaSize * rect.left))
          image.bytesPerLine rect buf

/-! ## Direct3D -/

structure LockedRect where
  pitch : Int
  pBits : Int → UInt8

def makeBitmapInfo (w h : Int) : Int := (int32 (int32 (h * w) * 32)).tdiv 8

/-- `bottom` is that of `screenRect`; there is a `lockedRect` unless a device, a surface or the lock is
missing. -/
def gaWin32D3dCapture (frameSize bottom : Int) (lockedRect : Option LockedRect) (buf : Int → UInt8)
    (buflen : Int) (grect : Option GaRect) : Int × Copied :=
  if buflen < grect.elim frameSize GaRect.size then (-1, ⟨buf, []⟩)
  else
    match lockedRect with
    | none => (-1, ⟨buf, []⟩)
    | some locked =>
        match grect with
        | none => (frameSize, copyBlock locked.pBits (int32 (locked.pitch * bottom)) buf)
        | some grect =>
            (grect.size,
              copyRect locked.pBits (int32 (locked.pitch * grect.top) + int32 (rgbaSize * grect.left))
                locked.pitch grect buf)

/-! ## GDI -/

/-- `right` and `bottom` are those of `screenRect`; `pBits` is upside-down, if there is a bitmap. -/
def gaWin32GdiCapture (frameSize right bottom : Int) (pBits : Option (Int → UInt8)) (buf : Int → UInt8)
    (buflen : Int) (grect : Option GaRect) : Int × Copied :=
  if buflen < grect.elim frameSize GaRect.size then (-1, ⟨buf, []⟩)
  else
    match pBits with
    | none => (-1, ⟨buf, []⟩)
    | some pBits =>
        let linesize := int32 (4 * (right + 1))
        match grect with
        | none =>
            let rows := (bottom + 1).toNat
            let source := int32 (linesize * bottom)
            (frameSize, ⟨copyRows pBits (sizeT linesize) (-linesize) linesize rows source 0 buf,
              rowsRead (sizeT linesize) (-linesize) rows source⟩)
        | some grect =>
            (grect.size,
              copyRect pBits (int32 (linesize * (bottom - grect.top)) + int32 (rgbaSize * grect.left))
                (-linesize) grect buf)

/-! ## The image of a rectangle -/

structure SubImage (pixel : Int → Int → Nat → UInt8) (grect : GaRect) (buf buf' : Int → UInt8) : Prop where
  pixels : ∀ r c b : Nat, r < grect.height → c < grect.width → b < 4 →
    buf' (r * grect.linesize + (4 * c + b)) = pixel (grect.left + c) (grect.top + r) b
  frame : ∀ i, i < 0 ∨ grect.size ≤ i → buf' i = buf i

def ReadsWithin (reads : List (Int × Nat)) (bytes : Int) : Prop :=
  ∀ e ∈ reads, 0 ≤ e.1 ∧ e.1 + e.2 ≤ bytes

structure CapturesSubImage (dw dh pitch : Int) (grect : GaRect) : Prop where
  x11 : ∀ data buf, ∃ copied,
    gaXwinCapture (some ⟨pitch, data⟩) buf grect.size (some grect) = some copied ∧
    SubImage (fun x y b => data (pitch * y + (4 * x + b))) grect buf copied.buf ∧
    ReadsWithin copied.reads (pitch * dh)
  d3d : ∀ frameSize bottom pBits buf, ∃ copied,
    gaWin32D3dCapture frameSize bottom (some ⟨pitch, pBits⟩) buf grect.size (some grect) =
      (grect.size, copied) ∧
    SubImage (fun x y b => pBits (pitch * y + (4 * x + b))) grect buf copied.buf ∧
    ReadsWithin copied.reads (pitch * dh)
  gdi : ∀ frameSize pBits buf, ∃ copied,
    gaWin32GdiCapture frameSize (dw - 1) (dh - 1) (some pBits) buf grect.size (some grect) =
      (grect.size, copied) ∧
    SubImage (fun x y b => pBits (4 * dw * (dh - 1 - y) + (4 * x + b))) grect buf copied.buf ∧
    ReadsWithin copied.reads (4 * dw * dh)

section
variable {dw dh pitch : Int} {window rect : Bounds} {grect : GaRect}

theorem sizeT_of_nonneg {n : Int} (low : 0 ≤ n) (high : n < 2147483648) : (sizeT n : Int) = n := by
  rw [sizeT]
  omega

theorem copyRect_subImage {pixel : Int → Int → Nat → UInt8} {bits buf : Int → UInt8} {source : Int}
    (sized : grect.Sized) (small : grect.linesize < 2147483648)
    (rows : ∀ r c b : Nat, bits (source + r * pitch + (4 * c + b : Nat)) =
      pixel (grect.left + c) (grect.top + r) b) :
    SubImage pixel grect buf (copyRect bits source pitch grect buf).buf := by
  obtain ⟨width, height, -, -, linesize, size⟩ := sized
  have count : (sizeT grect.linesize : Int) = grect.linesize := sizeT_of_nonneg (by omega) small
  have total : 0 + (grect.height.toNat : Int) * grect.linesize = grect.size := by
    rw [Int.toNat_of_nonneg (by omega), size]
    ring
  constructor
  · intro r c b row column byte
    have position : (r * grect.linesize + (4 * c + b) : Int) = 0 + r * grect.linesize + (4 * c + b : Nat) := by
      push_cast
      ring
    rw [position, copyRect]
    dsimp only
    rw [copyRows_inside (Int.le_of_eq count) (by omega) (by omega), rows]
  · intro i outside
    rw [copyRect]
    exact copyRows_outside (Int.le_of_eq count) (by rwa [total])

theorem row_within {q : Int} (inside : rect.Inside dw dh) (low : 0 ≤ q) (high : q < dh)
    (wide : 4 * dw ≤ pitch) :
    0 ≤ pitch * q + 4 * rect.left ∧
      pitch * q + 4 * rect.left + 4 * (rect.right - rect.left + 1) ≤ pitch * dh := by
  obtain ⟨left, horizontal, right, -, -, -⟩ := inside
  have before : 0 ≤ pitch * q := Int.mul_nonneg (by omega) low
  have behind : pitch * (q + 1) ≤ pitch * dh := Int.mul_le_mul_of_nonneg_left high (by omega)
  rw [Int.mul_add, Int.mul_one] at behind
  omega

theorem copyRect_readsWithin {bits buf : Int → UInt8} {source bytes : Int} (sized : grect.Sized)
    (small : grect.linesize < 2147483648)
    (rows : ∀ r : Nat, r < grect.height →
      0 ≤ source + r * pitch ∧ source + r * pitch + grect.linesize ≤ bytes) :
    ReadsWithin (copyRect bits source pitch grect buf).reads bytes := by
  intro e member
  obtain ⟨r, lt, rfl⟩ := mem_rowsRead member
  have width := sized.width
  have count : (sizeT grect.linesize : Int) = grect.linesize :=
    sizeT_of_nonneg (by rw [sized.linesize]; omega) small
  have row := rows r (by omega)
  rwa [← count] at row

theorem copyRect_lines (bits buf : Int → UInt8) (line : Int → Int) {step : Int} (inside : rect.Inside dw dh)
    (covers : grect.Covers rect) (sized : grect.Sized) (columns : 4 * dw < 2147483648) (wide : 4 * dw ≤ pitch)
    (steps : ∀ r : Nat, pitch * line grect.top + r * step = pitch * line (grect.top + r))
    (lines : ∀ y, 0 ≤ y → y < dh → 0 ≤ line y ∧ line y < dh) :
    SubImage (fun x y b => bits (pitch * line y + (4 * x + b))) grect buf
        (copyRect bits (pitch * line grect.top + 4 * grect.left) step grect buf).buf ∧
      ReadsWithin (copyRect bits (pitch * line grect.top + 4 * grect.left) step grect buf).reads
        (pitch * dh) := by
  obtain ⟨left, top, width, height⟩ := covers
  have small : grect.linesize < 2147483648 := by
    have := inside.left
    have := inside.right
    rw [sized.linesize, width]
    omega
  have start (r : Nat) : pitch * line grect.top + 4 * grect.left + r * step =
      pitch * line (grect.top + r) + 4 * grect.left := by
    rw [← steps r]
    ring
  constructor
  · refine copyRect_subImage sized small fun r c b => congrArg bits ?_
    rw [start]
    push_cast
    ring
  · refine copyRect_readsWithin sized small fun r row => ?_
    have low := inside.top
    have high := inside.bottom
    obtain ⟨first, last⟩ := lines (grect.top + r) (by omega) (by omega)
    rw [start, sized.linesize, width, left]
    exact row_within inside first last wide

theorem capturesSubImage_of_covers (inside : rect.Inside dw dh) (covers : grect.Covers rect)
    (sized : grect.Sized) (small : 4 * dw * dh < 2147483648) (wide : 4 * dw ≤ pitch)
    (offset : pitch * rect.top < 2147483648) : CapturesSubImage dw dh pitch grect := by
  have ⟨left_in, horizontal, right_in, top_in, vertical, bottom_in⟩ := inside
  have columns : 4 * dw ≤ 4 * dw * dh := by nlinarith
  have top := covers.top
  have topOffset : int32 (pitch * grect.top) = pitch * grect.top := by
    have nonneg : 0 ≤ pitch * rect.top := Int.mul_nonneg (by omega) top_in
    rw [top, int32_of_lt (by omega) offset]
  have leftOffset : int32 (rgbaSize * grect.left) = 4 * grect.left := by
    rw [rgbaSize, covers.left, int32_of_lt (by omega) (by omega)]
  have upright (bits buf : Int → UInt8) :=
    copyRect_lines bits buf (fun y => y) inside covers sized (by omega) wide (fun r => by ring)
      fun y low high => ⟨low, high⟩
  constructor
  · intro data buf
    refine ⟨_, rfl, ?_⟩
    dsimp only
    rw [topOffset, leftOffset]
    exact upright data buf
  · intro frameSize bottom pBits buf
    refine ⟨copyRect pBits (pitch * grect.top + 4 * grect.left) pitch grect buf, ?_, upright pBits buf⟩
    rw [gaWin32D3dCapture, Option.elim, if_neg (Int.lt_irrefl grect.size)]
    dsimp only
    rw [topOffset, leftOffset]
  · intro frameSize pBits buf
    have linesize : int32 (4 * (dw - 1 + 1)) = 4 * dw := by
      rw [Int.sub_add_cancel, int32_of_lt (by omega) (by omega)]
    have lastOffset : int32 (4 * dw * (dh - 1 - grect.top)) = 4 * dw * (dh - 1 - grect.top) := by
      have nonneg : 0 ≤ 4 * dw * (dh - 1 - grect.top) := Int.mul_nonneg (by omega) (by omega)
      have le : 4 * dw * (dh - 1 - grect.top) ≤ 4 * dw * dh :=
        Int.mul_le_mul_of_nonneg_left (by omega) (by omega)
      exact int32_of_lt (by omega) (by omega)
    refine ⟨copyRect pBits (4 * dw * (dh - 1 - grect.top) + 4 * grect.left) (-(4 * dw)) grect buf, ?_, ?_⟩
    · rw [gaWin32GdiCapture, Option.elim, if_neg (Int.lt_irrefl grect.size)]
      dsimp only
      rw [linesize, lastOffset, leftOffset]
    · exact copyRect_lines pBits buf (fun y => dh - 1 - y) inside covers sized (by omega)
        (Int.le_refl (4 * dw)) (fun r => by ring) fun y low high => ⟨by omega, by omega⟩

theorem cropWindow_captures (crops : Crops dw dh window rect) (screen : 0 < dw ∧ 0 < dh)
    (horizontal : window.left ≤ window.right) (vertical : window.top ≤ window.bottom)
    (corner : -2147483648 < window.left ∧ -2147483648 < window.top)
    (small : 4 * dw * dh < 2147483648) (wide : 4 * dw ≤ pitch) (offset : pitch * rect.top < 2147483648) :
    rect.Inside dw dh ∧ ∃ grect, gaFillrect rect.left rect.top rect.right rect.bottom = some grect ∧
      grect.Sized ∧ CapturesSubImage dw dh pitch grect := by
  have columns : 4 * dw ≤ 4 * dw * dh := by nlinarith
  have rows : 4 * dh ≤ 4 * dw * dh := by nlinarith
  obtain ⟨inside, evenWidth, evenHeight⟩ := cropTo_spec crops.cropTo horizontal vertical corner.1 corner.2
    ⟨by omega, by omega⟩
  obtain ⟨grect, filled, covers, linesize, size⟩ := gaFillrect_spec inside small
  have width := covers.width
  have height := covers.height
  have columns_le := inside.horizontal
  have rows_le := inside.vertical
  have sized : grect.Sized :=
    ⟨by omega, by omega, by rwa [width], by rwa [height], linesize, size⟩
  exact ⟨inside, grect, filled, sized, capturesSubImage_of_covers inside covers sized small wide offset⟩

end

theorem cropWindow_captures_moved : (⟨0, 1, 5, 4⟩ : Bounds).Inside 8 6 ∧ ∃ grect,
    gaFillrect 0 1 5 4 = some grect ∧ grect.Sized ∧ CapturesSubImage 8 6 32 grect := by
  have crops : Crops 8 6 ⟨1, 1, 5, 4⟩ ⟨0, 1, 5, 4⟩ := .of_cropTo rfl rfl rfl
  exact cropWindow_captures crops ⟨by decide, by decide⟩ (by decide) (by decide) ⟨by decide, by decide⟩
    (by decide) (by decide) (by decide)

/-- In lines of 2^30 bytes, the third one is out of the reach of an `int`; and an odd number of columns from
the least `int` on moves the left edge to the greatest. -/
theorem not_cropWindow_captures :
    (¬ ∀ (dw dh pitch : Int) (window rect : Bounds),
      Crops dw dh window rect → 0 < dw ∧ 0 < dh → window.left ≤ window.right → window.top ≤ window.bottom →
      -2147483648 < window.left ∧ -2147483648 < window.top → 4 * dw * dh < 2147483648 → 4 * dw ≤ pitch →
      pitch < 2147483648 →
      rect.Inside dw dh ∧ ∃ grect, gaFillrect rect.left rect.top rect.right rect.bottom = some grect ∧
        grect.Sized ∧ CapturesSubImage dw dh pitch grect) ∧
    ¬ ∀ (dw dh : Int) (window rect : Bounds),
      Crops dw dh window rect → 0 < dw ∧ 0 < dh → window.left ≤ window.right → window.top ≤ window.bottom →
      -2147483648 ≤ window.left ∧ -2147483648 ≤ window.top → 4 * dw * dh < 2147483648 →
      rect.Inside dw dh := by
  constructor
  · intro captures
    have crops : Crops 2 4 ⟨0, 2, 1, 3⟩ ⟨0, 2, 1, 3⟩ := .of_cropTo rfl rfl rfl
    obtain ⟨-, grect, filled, -, captured⟩ := captures 2 4 1073741824 ⟨0, 2, 1, 3⟩ ⟨0, 2, 1, 3⟩ crops
      ⟨by decide, by decide⟩ (by decide) (by decide) ⟨by decide, by decide⟩ (by decide) (by decide) (by decide)
    obtain rfl : (⟨0, 2, 1, 3, 2, 2, 8, 16⟩ : GaRect) = grect := Option.some.inj filled
    obtain ⟨copied, returned, -, within⟩ := captured.x11 (fun _ => 0) (fun _ => 0)
    obtain rfl := Option.some.inj returned
    have first := (within (-2147483648, 8) (by decide)).1
    exact absurd first (by decide)
  · intro inside
    have crops : Crops 4 2 ⟨-2147483648, 0, -2147483646, 1⟩ ⟨2147483647, 0, -2147483646, 1⟩ :=
      .of_cropTo rfl rfl rfl
    have within := inside 4 2 _ _ crops ⟨by decide, by decide⟩ (by decide) (by decide)
      ⟨by decide, by decide⟩ (by decide)
    exact absurd within.horizontal (by decide)

/-! ## The whole screen -/

structure CapturesFrame (w h pitch : Int) (bits buf : Int → UInt8) (buflen : Int) : Prop where
  frame : ∀ i, i < 0 ∨ makeBitmapInfo w h ≤ i →
    (gaWin32D3dCapture (makeBitmapInfo w h) h (some ⟨pitch, bits⟩) buf buflen none).2.buf i = buf i
  cropped : ∃ grect, gaFillrect 0 0 (w - 1) (h - 1) = some grect ∧
    (gaWin32D3dCapture (makeBitmapInfo w h) h (some ⟨pitch, bits⟩) buf buflen none).2.buf =
      (gaWin32D3dCapture (makeBitmapInfo w h) h (some ⟨pitch, bits⟩) buf buflen (some grect)).2.buf

section
variable {w h pitch : Int}

theorem gaFillrect_whole (width : 0 < w ∧ 4 * w < 2147483648) (height : 0 < h ∧ h < 2147483648) :
    gaFillrect 0 0 (w - 1) (h - 1) =
      some ⟨0, 0, w - 1, h - 1, w, h, 4 * w, int32 (int32 (w * h) * rgbaSize)⟩ := by
  have columns : int32 (w - 1 - 0 + 1) = w := by
    rw [int32_of_lt (by omega) (by omega)]
    ring
  have rows : int32 (h - 1 - 0 + 1) = h := by
    rw [int32_of_lt (by omega) (by omega)]
    ring
  have line : int32 (w * rgbaSize) = 4 * w := by
    rw [rgbaSize, int32_of_lt (by omega) (by omega), Int.mul_comm]
  rw [gaFillrect, if_neg (by omega), if_neg (by omega)]
  dsimp only
  rw [columns, rows, if_neg (by omega), line]

variable {bits buf : Int → UInt8} {buflen : Int}

theorem d3dCapture_full (room : makeBitmapInfo w h ≤ buflen) :
    (gaWin32D3dCapture (makeBitmapInfo w h) h (some ⟨pitch, bits⟩) buf buflen none).2.buf =
      copy bits 0 (sizeT (int32 (pitch * h))) buf 0 := by
  rw [gaWin32D3dCapture, Option.elim, if_neg (Int.not_lt.mpr room)]
  rfl

theorem d3dCapture_whole {right bottom size : Int} (width : 0 < w ∧ 4 * w < 2147483648) (room : size ≤ buflen) :
    (gaWin32D3dCapture (makeBitmapInfo w h) h (some ⟨pitch, bits⟩) buf buflen
        (some ⟨0, 0, right, bottom, w, h, 4 * w, size⟩)).2.buf =
      copyRows bits (4 * w).toNat pitch (4 * w).toNat h.toNat 0 0 buf := by
  have count : sizeT (4 * w) = (4 * w).toNat := by
    rw [sizeT]
    omega
  have line : ((4 * w).toNat : Int) = 4 * w := Int.toNat_of_nonneg (by omega)
  have top : int32 (pitch * 0) = 0 := by rw [Int.mul_zero, int32_of_lt (by decide) (by decide)]
  have left : int32 (rgbaSize * 0) = 0 := rfl
  rw [gaWin32D3dCapture, Option.elim, if_neg (Int.not_lt.mpr room)]
  dsimp only [copyRect]
  rw [top, left, count, line, Int.add_zero]

theorem makeBitmapInfo_lt (w h : Int) : makeBitmapInfo w h < 268435456 := by
  have below := int32_lt (int32 (h * w) * 32)
  rw [makeBitmapInfo, Int.tdiv_eq_ediv]
  split_ifs with exact
  · omega
  · rw [show Int.sign 8 = 1 from rfl]
    omega

theorem makeBitmapInfo_eq (positive : 0 < w * h) (small : 32 * (w * h) < 2147483648) :
    makeBitmapInfo w h = 4 * (w * h) := by
  have commuted : h * w = w * h := Int.mul_comm ..
  rw [makeBitmapInfo, commuted, int32_int32_mul, int32_of_lt (by omega) (by omega),
    Int.tdiv_eq_ediv_of_nonneg (by omega)]
  omega

theorem capturesFrame_iff (width : 0 < w ∧ 4 * w < 2147483648) (height : 0 < h ∧ h < 2147483648)
    (room : makeBitmapInfo w h ≤ buflen) (size : int32 (int32 (w * h) * rgbaSize) ≤ buflen) :
    CapturesFrame w h pitch bits buf buflen ↔
      (∀ i, i < 0 ∨ makeBitmapInfo w h ≤ i → copy bits 0 (sizeT (int32 (pitch * h))) buf 0 i = buf i) ∧
      copy bits 0 (sizeT (int32 (pitch * h))) buf 0 =
        copyRows bits (4 * w).toNat pitch (4 * w).toNat h.toNat 0 0 buf := by
  have filled := gaFillrect_whole width height
  constructor
  · rintro ⟨frame, grect, isWhole, cropped⟩
    rw [filled] at isWhole
    obtain rfl := Option.some.inj isWhole
    rw [d3dCapture_full room] at frame cropped
    rw [d3dCapture_whole width size] at cropped
    exact ⟨frame, cropped⟩
  · rintro ⟨frame, cropped⟩
    refine ⟨?_, _, filled, ?_⟩
    · rw [d3dCapture_full room]
      exact frame
    · rw [d3dCapture_full room, d3dCapture_whole width size]
      exact cropped

/-- The pitch is only left out of account where there is no second row. -/
theorem d3dCapture_whole_iff (screen : 0 < w ∧ 0 < h ∧ h < 2147483648) (wide : 4 * w ≤ pitch)
    (counted : pitch < 2147483648) :
    (∀ bits buf buflen, makeBitmapInfo w h ≤ buflen → buflen < 2147483648 →
      CapturesFrame w h pitch bits buf buflen) ↔ pitch = 4 * w ∧ 32 * w * h < 2147483648 := by
  obtain ⟨columns, rows, height⟩ := screen
  have width : 0 < w ∧ 4 * w < 2147483648 := ⟨columns, by omega⟩
  have line : ((4 * w).toNat : Int) = 4 * w := Int.toNat_of_nonneg (by omega)
  have lines : (h.toNat : Int) = h := Int.toNat_of_nonneg (by omega)
  have area : 0 < w * h := Int.mul_pos columns rows
  have bytes : ((h.toNat * (4 * w).toNat : Nat) : Int) = 4 * (w * h) := by
    push_cast
    rw [line, lines]
    ring
  have bits_eq : 32 * w * h = 32 * (w * h) := Int.mul_assoc ..
  have distinct : (0 : UInt8) ≠ 1 := by decide
  constructor
  · intro captures
    have below := makeBitmapInfo_lt w h
    have largest : int32 (int32 (w * h) * rgbaSize) ≤ 2147483647 := Int.le_of_lt_add_one (int32_lt _)
    have copied (bits buf : Int → UInt8) := (capturesFrame_iff width ⟨rows, height⟩ (by omega) largest).mp
      (captures bits buf 2147483647 (by omega) (by decide))
    obtain ⟨total, follows⟩ := (copy_eq_copyRows_iff distinct (by omega) (by omega)).mp
      fun bits buf => (copied bits buf).2
    have within : 4 * (w * h) ≤ makeBitmapInfo w h := by
      by_contra beyond
      have last := (copied (fun _ => 1) fun _ => 0).1 (4 * (w * h) - 1) (Or.inr (by omega))
      rw [copy_inside (by omega) (by omega)] at last
      exact distinct last.symm
    refine ⟨?_, by omega⟩
    by_cases single : h = 1
    · rw [← total, single, Int.mul_one, Int.mul_one, int32_of_lt (by omega) counted,
        sizeT_of_nonneg (by omega) counted] at bytes
      exact bytes
    · rw [follows (by omega), line]
  · rintro ⟨rfl, small⟩ bits buf buflen room -
    have frame : makeBitmapInfo w h = 4 * (w * h) := makeBitmapInfo_eq area (by omega)
    have size : int32 (int32 (w * h) * rgbaSize) = 4 * (w * h) := by
      rw [int32_int32_mul, rgbaSize, int32_of_lt (by omega) (by omega)]
      ring
    have pixels : 4 * w * h = 4 * (w * h) := Int.mul_assoc ..
    have block : (sizeT (int32 (4 * w * h)) : Int) = 4 * (w * h) := by
      rw [pixels, int32_of_lt (by omega) (by omega), sizeT_of_nonneg (by omega) (by omega)]
    refine (capturesFrame_iff width ⟨rows, height⟩ room (by omega)).mpr ⟨?_, ?_⟩
    · intro i outside
      exact copy_outside (by omega)
    · exact (copy_eq_copyRows_iff distinct (by omega) (by omega)).mpr ⟨by omega, fun _ => line.symm⟩ bits buf

end

theorem d3dCapture_whole_packed : CapturesFrame 2 2 8 (fun i => UInt8.ofNat i.toNat) (fun _ => 0) 16 := by
  exact (d3dCapture_whole_iff ⟨by decide, by decide, by decide⟩ (by decide) (by decide)).mpr
    ⟨by decide, by decide⟩ _ _ 16 (by decide) (by decide)

theorem not_d3dCapture_whole : ¬ ∀ (w h pitch : Int) (bits buf : Int → UInt8) (buflen : Int),
    0 < w ∧ 0 < h ∧ h < 2147483648 → 4 * w ≤ pitch → pitch < 2147483648 →
    makeBitmapInfo w h ≤ buflen → buflen < 2147483648 → CapturesFrame w h pitch bits buf buflen := by
  intro captures
  have behind := (captures 2 2 16 (fun _ => 1) (fun _ => 0) 16 ⟨by decide, by decide, by decide⟩ (by decide)
    (by decide) (by decide) (by decide)).frame 16 (by decide)
  exact absurd behind (by decide)

end GamingAnywhere.Video
