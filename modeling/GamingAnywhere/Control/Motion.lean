import Mathlib.Algebra.Ring.Int.Defs
import Mathlib.Data.List.Forall2
import GamingAnywhere.Control.Replay

namespace GamingAnywhere.Control
open Lib

def short (x : UInt16) : Int := x.toInt16.toInt

theorem short_ofInt {n : Int} (low : -32768 ≤ n) (high : n < 32768) : short (.ofInt n) = n := by
  have bits : (UInt16.ofInt n).toBitVec = .ofInt 16 n := by
    apply BitVec.eq_of_toNat_eq
    have below : n % 65536 < 65536 := Int.emod_lt_of_pos n (by decide)
    simp [UInt16.ofInt, BitVec.toNat_ofInt, below]
  rw [short, UInt16.toInt16, Int16.toInt, Int16.toBitVec, bits]
  exact BitVec.toInt_ofInt_eq_self (by decide) low high

/-! ## Win32 -/

def keyeventfKeyup : UInt32 := 0x0002

def mouseeventfMove : UInt32 := 0x0001

def mouseeventfLeftdown : UInt32 := 0x0002

def mouseeventfLeftup : UInt32 := 0x0004

def mouseeventfRightdown : UInt32 := 0x0008

def mouseeventfRightup : UInt32 := 0x0010

def mouseeventfMiddledown : UInt32 := 0x0020

def mouseeventfMiddleup : UInt32 := 0x0040

def mouseeventfWheel : UInt32 := 0x0800

def mouseeventfAbsolute : UInt32 := 0x8000

def wheelDelta : Int := 120

inductive Win32Input
  | keyboard (wVk wScan : UInt16) (dwFlags : UInt32)
  | mouse (dx dy mouseData : Int) (dwFlags : UInt32)

structure Win32 where
  keysym : UInt32 → Option UInt16
  mapVirtualKey : UInt16 → UInt16
  prect : Option (Int × Int)
  cxsize : Nat
  cysize : Nat
  cx_pos : 0 < cxsize
  cy_pos : 0 < cysize

/-- `(DWORD) (65536.0 * x) / size`, put into a `LONG`. -/
def mapped (x : Int) (size : Nat) : Int := int32 (65536 * x % 4294967296 / size)

/-- The fields `mouseData` and `dwFlags` for a button; 4 and 5 are the wheel. -/
def Win32.mousekey (m : SdlMsg) : Int × UInt32 :=
  if m.mousebutton = 1 ∧ m.isPressed ≠ 0 then (0, mouseeventfLeftdown)
  else if m.mousebutton = 1 ∧ m.isPressed = 0 then (0, mouseeventfLeftup)
  else if m.mousebutton = 2 ∧ m.isPressed ≠ 0 then (0, mouseeventfMiddledown)
  else if m.mousebutton = 2 ∧ m.isPressed = 0 then (0, mouseeventfMiddleup)
  else if m.mousebutton = 3 ∧ m.isPressed ≠ 0 then (0, mouseeventfRightdown)
  else if m.mousebutton = 3 ∧ m.isPressed = 0 then (0, mouseeventfRightup)
  else if m.mousebutton = 4 ∧ m.isPressed ≠ 0 then (wheelDelta, mouseeventfWheel)
  else if m.mousebutton = 5 ∧ m.isPressed ≠ 0 then (-wheelDelta, mouseeventfWheel)
  else (0, 0)

def Win32.sdlmsgReplayNative (win32 : Win32) (m : SdlMsg) : List Win32Input :=
  if m.msgtype = msgtypeKeyboard then
    match win32.keysym m.sdlkey with
    | none => []
    | some wVk =>
        [.keyboard wVk (win32.mapVirtualKey wVk) (if m.isPressed = 0 then keyeventfKeyup else 0)]
  else if m.msgtype = msgtypeMousekey then
    [.mouse 0 0 (Win32.mousekey m).1 (Win32.mousekey m).2]
  else if m.msgtype = msgtypeMousewheel then
    if m.mousex = 0 then []
    else if 0 < short m.mousex then [.mouse 0 0 wheelDelta mouseeventfWheel]
    else [.mouse 0 0 (-wheelDelta) mouseeventfWheel]
  else if m.msgtype = msgtypeMousemotion then
    if m.relativeMouseMode = 0 then
      match win32.prect with
      | none =>
          [.mouse (mapped m.mousex.toNat win32.cxsize) (mapped m.mousey.toNat win32.cysize) 0
            (mouseeventfAbsolute ||| mouseeventfMove)]
      | some (left, top) =>
          [.mouse (mapped (left + m.mousex.toNat) win32.cxsize) (mapped (top + m.mousey.toNat) win32.cysize) 0
            (mouseeventfAbsolute ||| mouseeventfMove)]
    else [.mouse (short m.mousex) (short m.mousey) 0 mouseeventfMove]
  else []

/-! ## OS X -/

inductive CGEventType
  | leftMouseDown | leftMouseUp | rightMouseDown | rightMouseUp | otherMouseDown | otherMouseUp
  | mouseMoved

inductive CGMouseButton
  | left | right | center

inductive CGEvent
  | keyboard (kcode : UInt16) (keyDown : Bool)
  | mouse (mouseType : CGEventType) (pt : Int × Int) (button : CGMouseButton)
  | scrollWheel (deltas : List Int)

structure OSX where
  keysym : UInt32 → Option UInt16
  prect : Option (Int × Int)

def OSX.mousekey (pt : Int × Int) (m : SdlMsg) : Option CGEvent :=
  if m.mousebutton = 1 ∧ m.isPressed ≠ 0 then some (.mouse .leftMouseDown pt .left)
  else if m.mousebutton = 1 ∧ m.isPressed = 0 then some (.mouse .leftMouseUp pt .left)
  else if m.mousebutton = 2 ∧ m.isPressed ≠ 0 then some (.mouse .otherMouseDown pt .center)
  else if m.mousebutton = 2 ∧ m.isPressed = 0 then some (.mouse .otherMouseUp pt .center)
  else if m.mousebutton = 3 ∧ m.isPressed ≠ 0 then some (.mouse .rightMouseDown pt .right)
  else if m.mousebutton = 3 ∧ m.isPressed = 0 then some (.mouse .rightMouseUp pt .right)
  else if m.mousebutton = 4 ∧ m.isPressed ≠ 0 then some (.scrollWheel [-5])
  else if m.mousebutton = 5 ∧ m.isPressed ≠ 0 then some (.scrollWheel [5])
  else none

def OSX.mousewheel (m : SdlMsg) : Option CGEvent :=
  let deltaX : Int := if 0 < short m.mousex then -5 else if short m.mousex < 0 then 5 else 0
  let deltaY : Int := if 0 < short m.mousey then 5 else if short m.mousey < 0 then -5 else 0
  if deltaX = 0 ∧ deltaY = 0 then none else some (.scrollWheel [deltaX, deltaY])

/-- `pt` is static: where the pointer was last put. -/
def OSX.sdlmsgReplayNative (osx : OSX) (pt : Int × Int) (m : SdlMsg) : (Int × Int) × Option CGEvent :=
  if m.msgtype = msgtypeKeyboard then
    (pt, (osx.keysym m.sdlkey).map fun kcode => .keyboard kcode (m.isPressed ≠ 0))
  else if m.msgtype = msgtypeMousekey then (pt, OSX.mousekey pt m)
  else if m.msgtype = msgtypeMousewheel then (pt, OSX.mousewheel m)
  else if m.msgtype = msgtypeMousemotion then
    let pt : Int × Int :=
      match osx.prect with
      | none => (m.mousex.toNat, m.mousey.toNat)
      | some (left, top) => (left + m.mousex.toNat, top + m.mousey.toNat)
    (pt, some (.mouse .mouseMoved pt .left))
  else (pt, none)

/-! ## What is asked of the pointer -/

inductive PointerRequest
  | displace (d : Int × Int)
  | place (pt : Int × Int)
  deriving DecidableEq

def PointerRequest.displacement : PointerRequest → Int × Int
  | displace d => d
  | place _ => (0, 0)

def Win32Input.request : Win32Input → Option PointerRequest
  | keyboard .. => none
  | mouse dx dy _ dwFlags =>
      if dwFlags &&& mouseeventfMove = 0 then none
      else if dwFlags &&& mouseeventfAbsolute = 0 then some (.displace (dx, dy))
      else some (.place (dx, dy))

def CGEvent.request : CGEvent → Option PointerRequest
  | mouse _ pt _ => some (.place pt)
  | _ => none

def Input.request : Input → Option PointerRequest
  | motion x y => some (.place (x, y))
  | _ => none

inductive Platform
  | win32 (win32 : Win32)
  | osx (osx : OSX) (pt : Int × Int)
  | x11 (screen : Screen)

def Platform.IsWin32 : Platform → Prop
  | win32 _ => True
  | _ => False

def Platform.sdlmsgReplayNative : Platform → SdlMsg → Platform × List PointerRequest
  | win32 w, m => (win32 w, (w.sdlmsgReplayNative m).filterMap Win32Input.request)
  | osx o pt, m =>
      (osx o (o.sdlmsgReplayNative pt m).1,
        (o.sdlmsgReplayNative pt m).2.toList.filterMap CGEvent.request)
  | x11 screen, m => (x11 screen, (Control.sdlmsgReplayNative screen m).filterMap Input.request)

def Platform.replayed : Platform → List SdlMsg → List PointerRequest
  | _, [] => []
  | platform, m :: msgs =>
      (platform.sdlmsgReplayNative m).2 ++ (platform.sdlmsgReplayNative m).1.replayed msgs

structure RelativeMotion (deltas : List (Int × Int)) (requests : List PointerRequest) : Prop where
  relative : ∀ pt, .place pt ∉ requests
  sum_x : (requests.map fun request => request.displacement.1).sum = (deltas.map Prod.fst).sum
  sum_y : (requests.map fun request => request.displacement.2).sum = (deltas.map Prod.snd).sum

/-! ## Relative motion -/

/-- A delta on its way from `ProcessEvent` to the replay function: the client makes it an
`unsigned short`, and its message is in the buffer of the server. -/
def Arrives (client server : Endian) (d : Int × Int) (m : SdlMsg) : Prop :=
  ∃ buf p,
    Mem.slice buf p sdlmsgSize.toNat =
      (sdlmsgMousemotion client (.ofInt d.1) (.ofInt d.2) 1).bytes client ∧
    m = sdlmsgNtoh server (.load server buf p)

structure RelativeMsg (d : Int × Int) (m : SdlMsg) : Prop where
  msgtype : m.msgtype = msgtypeMousemotion
  mode : m.relativeMouseMode = 1
  mousex : m.mousex = .ofInt d.1
  mousey : m.mousey = .ofInt d.2

theorem Arrives.relativeMsg {client server : Endian} {d : Int × Int} {m : SdlMsg}
    (arrives : Arrives client server d m) : RelativeMsg d m := by
  obtain ⟨buf, p, received, same⟩ := arrives
  have built : sdlmsgMousemotion client (.ofInt d.1) (.ofInt d.2) 1 =
      (Built.mousemotion (.ofInt d.1) (.ofInt d.2) 1).msg client := rfl
  rw [built, Built.msg_eq, SdlMsg.bytes_network] at received
  rw [same, SdlMsg.load_wire server received, sdlmsgNtoh_network]
  exact ⟨rfl, rfl, rfl, rfl⟩

structure ShortDelta (d : Int × Int) : Prop where
  x_low : -32768 ≤ d.1
  x_high : d.1 < 32768
  y_low : -32768 ≤ d.2
  y_high : d.2 < 32768

theorem win32_motion (win32 : Win32) {d : Int × Int} {m : SdlMsg} (range : ShortDelta d)
    (relative : RelativeMsg d m) :
    (Platform.win32 win32).sdlmsgReplayNative m = (.win32 win32, [.displace d]) := by
  have x : short m.mousex = d.1 := by rw [relative.mousex, short_ofInt range.x_low range.x_high]
  have y : short m.mousey = d.2 := by rw [relative.mousey, short_ofInt range.y_low range.y_high]
  have inputs : win32.sdlmsgReplayNative m = [.mouse d.1 d.2 0 mouseeventfMove] := by
    rw [Win32.sdlmsgReplayNative, relative.msgtype, relative.mode, x, y]
    rfl
  rw [Platform.sdlmsgReplayNative, inputs]
  rfl

theorem other_motion {platform : Platform} (other : ¬ platform.IsWin32) {d : Int × Int} {m : SdlMsg}
    (relative : RelativeMsg d m) : ∃ pt, .place pt ∈ (platform.sdlmsgReplayNative m).2 := by
  cases platform with
  | win32 => exact absurd trivial other
  | osx osx pt =>
      have event : ∃ pt', (osx.sdlmsgReplayNative pt m).2 = some (.mouse .mouseMoved pt' .left) := by
        rw [OSX.sdlmsgReplayNative, relative.msgtype]
        exact ⟨_, rfl⟩
      obtain ⟨pt', event⟩ := event
      refine ⟨pt', ?_⟩
      rw [Platform.sdlmsgReplayNative, event]
      exact List.mem_singleton_self _
  | x11 screen =>
      have input : ∃ x y, sdlmsgReplayNative screen m = [.motion x y] := by
        rw [sdlmsgReplayNative, relative.msgtype]
        cases prect : screen.prect with
        | none => exact ⟨_, _, rfl⟩
        | some corner => exact ⟨_, _, rfl⟩
      obtain ⟨x, y, input⟩ := input
      refine ⟨(x, y), ?_⟩
      rw [Platform.sdlmsgReplayNative, input]
      exact List.mem_singleton_self _

theorem win32_replayed (win32 : Win32) {deltas : List (Int × Int)} {msgs : List SdlMsg}
    (range : ∀ d ∈ deltas, ShortDelta d) (relative : List.Forall₂ RelativeMsg deltas msgs) :
    (Platform.win32 win32).replayed msgs = deltas.map .displace := by
  induction relative with
  | nil => rfl
  | @cons d m deltas msgs first rest ih =>
      obtain ⟨here, later⟩ := List.forall_mem_cons.mp range
      rw [Platform.replayed, win32_motion win32 here first, ih later]
      rfl

theorem relativeMotion_displace (deltas : List (Int × Int)) :
    RelativeMotion deltas (deltas.map .displace) := by
  constructor
  · intro pt member
    obtain ⟨d, -, same⟩ := List.mem_map.mp member
    cases same
  · rw [List.map_map]
    rfl
  · rw [List.map_map]
    rfl

theorem replayed_relative_iff (platform : Platform) {client server : Endian}
    {deltas : List (Int × Int)} {msgs : List SdlMsg} (range : ∀ d ∈ deltas, ShortDelta d)
    (arrives : List.Forall₂ (Arrives client server) deltas msgs) :
    RelativeMotion deltas (platform.replayed msgs) ↔ platform.IsWin32 ∨ deltas = [] := by
  have relative : List.Forall₂ RelativeMsg deltas msgs :=
    List.Forall₂.imp (fun _ _ => Arrives.relativeMsg) arrives
  constructor
  · intro motion
    by_contra! ⟨other, sent⟩
    cases relative with
    | nil => exact sent rfl
    | cons first rest =>
        obtain ⟨pt, placed⟩ := other_motion other first
        exact motion.relative pt (List.mem_append_left _ placed)
  · rintro (isWin32 | rfl)
    · cases platform with
      | win32 win32 =>
          rw [win32_replayed win32 range relative]
          exact relativeMotion_displace deltas
      | osx => exact isWin32.elim
      | x11 => exact isWin32.elim
    · cases relative with
      | nil => exact relativeMotion_displace []

def deltaBuffer (client : Endian) (d : Int × Int) : Mem UInt8 :=
  Mem.store (fun _ => 0) 0 ((sdlmsgMousemotion client (.ofInt d.1) (.ofInt d.2) 1).bytes client)

def deltaMsg (client server : Endian) (d : Int × Int) : SdlMsg :=
  sdlmsgNtoh server (.load server (deltaBuffer client d) 0)

theorem arrives_deltaMsg (client server : Endian) (d : Int × Int) :
    Arrives client server d (deltaMsg client server d) := by
  refine ⟨deltaBuffer client d, 0, ?_, rfl⟩
  rw [← SdlMsg.length_bytes client (sdlmsgMousemotion client (.ofInt d.1) (.ofInt d.2) 1)]
  exact Mem.slice_store_self _ 0 _

theorem replayed_relative_up_left :
    RelativeMotion [(-5, -7), (2, -1)]
      ((Platform.win32 ⟨fun _ => none, id, some (100, 50), 1920, 1080, by decide, by decide⟩).replayed
        [deltaMsg .big .little (-5, -7), deltaMsg .big .little (2, -1)]) :=
  (replayed_relative_iff _
    (List.forall_mem_cons.mpr ⟨⟨by decide, by decide, by decide, by decide⟩,
      List.forall_mem_singleton.mpr ⟨by decide, by decide, by decide, by decide⟩⟩)
    (.cons (arrives_deltaMsg .big .little _) (.cons (arrives_deltaMsg .big .little _) .nil))).mpr
      (.inl trivial)

/-- Five pixels to the left are the column 65531 with X11. -/
theorem not_replayed_relative :
    ¬ ∀ (platform : Platform) (client server : Endian) (deltas : List (Int × Int)) (msgs : List SdlMsg),
      (∀ d ∈ deltas, ShortDelta d) → List.Forall₂ (Arrives client server) deltas msgs →
        RelativeMotion deltas (platform.replayed msgs) := by
  intro relative
  have motion := relative (.x11 ⟨fun _ => none, none⟩) .little .little [(-5, 0)]
    [deltaMsg .little .little (-5, 0)]
    (List.forall_mem_singleton.mpr ⟨by decide, by decide, by decide, by decide⟩)
    (.cons (arrives_deltaMsg .little .little (-5, 0)) .nil)
  exact motion.relative (65531, 0) (by decide +kernel)

end GamingAnywhere.Control
