import GamingAnywhere.Lib.Endian
import GamingAnywhere.Lib.Memory

namespace GamingAnywhere.Control
open Lib

/-- `sdlkey` is an `int`; here are its bits. -/
structure SdlMsg where
  msgsize : UInt16
  msgtype : UInt8
  isPressed : UInt8
  mousebutton : UInt8
  unused1 : UInt8
  scancode : UInt16
  sdlkey : UInt32
  sdlmod : UInt16
  mousex : UInt16
  mousey : UInt16
  relativeMouseMode : UInt8
  padding : Vector UInt8 9

def sdlmsgSize : UInt16 := 28

def SdlMsg.zero : SdlMsg := ⟨0, 0, 0, 0, 0, 0, 0, 0, 0, 0, 0, .replicate 9 0⟩

def SdlMsg.bytes (host : Endian) (m : SdlMsg) : Bytes :=
  host.bytes16 m.msgsize ++ [m.msgtype, m.isPressed, m.mousebutton, m.unused1] ++
    host.bytes16 m.scancode ++ host.bytes32 m.sdlkey ++ host.bytes16 m.sdlmod ++
    host.bytes16 m.mousex ++ host.bytes16 m.mousey ++ [m.relativeMouseMode] ++ m.padding.toList

def SdlMsg.load (host : Endian) (buf : Mem UInt8) (p : Nat) : SdlMsg where
  msgsize := host.word16 (buf p) (buf (p + 1))
  msgtype := buf (p + 2)
  isPressed := buf (p + 3)
  mousebutton := buf (p + 4)
  unused1 := buf (p + 5)
  scancode := host.word16 (buf (p + 6)) (buf (p + 7))
  sdlkey := host.word32 (buf (p + 8)) (buf (p + 9)) (buf (p + 10)) (buf (p + 11))
  sdlmod := host.word16 (buf (p + 12)) (buf (p + 13))
  mousex := host.word16 (buf (p + 14)) (buf (p + 15))
  mousey := host.word16 (buf (p + 16)) (buf (p + 17))
  relativeMouseMode := buf (p + 18)
  padding := .ofFn fun i => buf (p + 19 + i)

/-! ## Both ends -/

def msgtypeKeyboard : UInt8 := 1

def msgtypeMousekey : UInt8 := 2

def msgtypeMousemotion : UInt8 := 3

def msgtypeMousewheel : UInt8 := 4

def sdlmsgKeyboard (host : Endian) (pressed : UInt8) (scancode : UInt16) (key : UInt32)
    (mod : UInt16) : SdlMsg :=
  { SdlMsg.zero with
    msgsize := host.htons sdlmsgSize
    msgtype := msgtypeKeyboard
    isPressed := pressed
    scancode := host.htons scancode
    sdlkey := host.htonl key
    sdlmod := host.htons mod }

def sdlmsgMousekey (host : Endian) (pressed button : UInt8) : SdlMsg :=
  { SdlMsg.zero with
    msgsize := host.htons sdlmsgSize
    msgtype := msgtypeMousekey
    isPressed := pressed
    mousebutton := button }

def sdlmsgMousewheel (host : Endian) (mousex mousey : UInt16) : SdlMsg :=
  { SdlMsg.zero with
    msgsize := host.htons sdlmsgSize
    msgtype := msgtypeMousewheel
    mousex := host.htons mousex
    mousey := host.htons mousey }

def sdlmsgMousemotion (host : Endian) (mousex mousey : UInt16) (relativeMouseMode : Int) : SdlMsg :=
  { SdlMsg.zero with
    msgsize := host.htons sdlmsgSize
    msgtype := msgtypeMousemotion
    mousex := host.htons mousex
    mousey := host.htons mousey
    relativeMouseMode := if relativeMouseMode ≠ 0 then 1 else 0 }

/-- `msgsize` stays as it is, and the scan code is taken from `sdlkey`, of which `ntohs` sees the low
16 bits. -/
def sdlmsgNtoh (host : Endian) (m : SdlMsg) : SdlMsg :=
  let m := if m.scancode ≠ 0 then
    { m with scancode := host.ntohs (UInt16.ofNat m.sdlkey.toNat) } else m
  let m := if m.sdlkey ≠ 0 then { m with sdlkey := host.ntohl m.sdlkey } else m
  let m := if m.sdlmod ≠ 0 then { m with sdlmod := host.ntohs m.sdlmod } else m
  let m := if m.mousex ≠ 0 then { m with mousex := host.ntohs m.mousex } else m
  if m.mousey ≠ 0 then { m with mousey := host.ntohs m.mousey } else m

/-! ## What is sent and what arrives -/

/-- The arguments of a builder; the parts of a message that it does not set are 0. -/
inductive Built
  | keyboard (pressed : UInt8) (scancode : UInt16) (key : UInt32) (mod : UInt16)
  | mousekey (pressed button : UInt8)
  | mousewheel (mousex mousey : UInt16)
  | mousemotion (mousex mousey : UInt16) (relativeMouseMode : Int)

def Built.msg (host : Endian) : Built → SdlMsg
  | keyboard pressed scancode key mod => sdlmsgKeyboard host pressed scancode key mod
  | mousekey pressed button => sdlmsgMousekey host pressed button
  | mousewheel mousex mousey => sdlmsgMousewheel host mousex mousey
  | mousemotion mousex mousey mode => sdlmsgMousemotion host mousex mousey mode

/-- The arguments in the order of the host that looks at them. `relativeMouseMode` is a truth value. -/
def Built.args : Built → SdlMsg
  | keyboard pressed scancode key mod =>
      { SdlMsg.zero with msgtype := msgtypeKeyboard, isPressed := pressed, scancode := scancode,
                         sdlkey := key, sdlmod := mod }
  | mousekey pressed button =>
      { SdlMsg.zero with msgtype := msgtypeMousekey, isPressed := pressed, mousebutton := button }
  | mousewheel mousex mousey =>
      { SdlMsg.zero with msgtype := msgtypeMousewheel, mousex := mousex, mousey := mousey }
  | mousemotion mousex mousey mode =>
      { SdlMsg.zero with msgtype := msgtypeMousemotion, mousex := mousex, mousey := mousey,
                         relativeMouseMode := if mode = 0 then 0 else 1 }

structure SameEvent (m n : SdlMsg) : Prop where
  msgtype : m.msgtype = n.msgtype
  isPressed : m.isPressed = n.isPressed
  mousebutton : m.mousebutton = n.mousebutton
  scancode : m.scancode = n.scancode
  sdlkey : m.sdlkey = n.sdlkey
  sdlmod : m.sdlmod = n.sdlmod
  mousex : m.mousex = n.mousex
  mousey : m.mousey = n.mousey
  relativeMouseMode : m.relativeMouseMode = n.relativeMouseMode

def SdlMsg.network (host : Endian) (m : SdlMsg) : SdlMsg :=
  { m with
    msgsize := host.htons sdlmsgSize
    scancode := host.htons m.scancode
    sdlkey := host.htonl m.sdlkey
    sdlmod := host.htons m.sdlmod
    mousex := host.htons m.mousex
    mousey := host.htons m.mousey }

theorem Built.msg_eq (host : Endian) (b : Built) : b.msg host = b.args.network host := by
  have short : host.htons 0 = 0 := host.htons_eq_zero.mpr rfl
  have long : host.htonl 0 = 0 := host.htonl_eq_zero.mpr rfl
  cases b with
  | keyboard pressed scancode key mod =>
      simp [Built.msg, sdlmsgKeyboard, Built.args, SdlMsg.network, SdlMsg.zero, short]
  | mousekey pressed button =>
      simp [Built.msg, sdlmsgMousekey, Built.args, SdlMsg.network, SdlMsg.zero, short, long]
  | mousewheel mousex mousey =>
      simp [Built.msg, sdlmsgMousewheel, Built.args, SdlMsg.network, SdlMsg.zero, short, long]
  | mousemotion mousex mousey mode =>
      simp [Built.msg, sdlmsgMousemotion, Built.args, SdlMsg.network, SdlMsg.zero, short, long]

/-! ## The stream -/

def SdlMsg.wire (m : SdlMsg) : Bytes :=
  [byte sdlmsgSize.toNat 1, byte sdlmsgSize.toNat 0, m.msgtype, m.isPressed, m.mousebutton, m.unused1,
    byte m.scancode.toNat 1, byte m.scancode.toNat 0,
    byte m.sdlkey.toNat 3, byte m.sdlkey.toNat 2, byte m.sdlkey.toNat 1, byte m.sdlkey.toNat 0,
    byte m.sdlmod.toNat 1, byte m.sdlmod.toNat 0, byte m.mousex.toNat 1, byte m.mousex.toNat 0,
    byte m.mousey.toNat 1, byte m.mousey.toNat 0, m.relativeMouseMode] ++ m.padding.toList

theorem SdlMsg.bytes_network (host : Endian) (m : SdlMsg) : (m.network host).bytes host = m.wire := by
  simp only [SdlMsg.bytes, SdlMsg.network, host.bytes16_htons, host.bytes32_htonl]
  rfl

theorem SdlMsg.length_wire (m : SdlMsg) : m.wire.length = sdlmsgSize.toNat := by
  rw [SdlMsg.wire, List.length_append, Vector.length_toList]
  rfl

theorem SdlMsg.load_wire (host : Endian) {buf : Mem UInt8} {p : Nat} {m : SdlMsg}
    (received : buf.slice p sdlmsgSize.toNat = m.wire) :
    SdlMsg.load host buf p =
      { m.network host with padding := .ofFn fun i => buf (p + 19 + i) } := by
  have cell (i : Nat) (lt : i < sdlmsgSize.toNat) : m.wire[i]? = some (buf (p + i)) := by
    rw [← received, Mem.getElem?_slice, if_pos lt]
  have at' (i : Nat) (x : UInt8) (lt : i < sdlmsgSize.toNat) (here : m.wire[i]? = some x) :
      buf (p + i) = x := Option.some.inj ((cell i lt).symm.trans here)
  rw [SdlMsg.load, at' 1 _ (by decide) rfl, at' 2 _ (by decide) rfl, at' 3 _ (by decide) rfl,
    at' 4 _ (by decide) rfl, at' 5 _ (by decide) rfl, at' 6 _ (by decide) rfl,
    at' 7 _ (by decide) rfl, at' 8 _ (by decide) rfl, at' 9 _ (by decide) rfl,
    at' 10 _ (by decide) rfl, at' 11 _ (by decide) rfl, at' 12 _ (by decide) rfl,
    at' 13 _ (by decide) rfl, at' 14 _ (by decide) rfl, at' 15 _ (by decide) rfl,
    at' 16 _ (by decide) rfl, at' 17 _ (by decide) rfl, at' 18 _ (by decide) rfl,
    show buf p = _ from at' 0 _ (by decide) rfl]
  rfl

theorem sdlmsgNtoh_eq (host : Endian) (m : SdlMsg) :
    sdlmsgNtoh host m =
      { m with
        scancode := if m.scancode ≠ 0 then host.ntohs (UInt16.ofNat m.sdlkey.toNat) else m.scancode
        sdlkey := if m.sdlkey ≠ 0 then host.ntohl m.sdlkey else m.sdlkey
        sdlmod := if m.sdlmod ≠ 0 then host.ntohs m.sdlmod else m.sdlmod
        mousex := if m.mousex ≠ 0 then host.ntohs m.mousex else m.mousex
        mousey := if m.mousey ≠ 0 then host.ntohs m.mousey else m.mousey } := by
  obtain ⟨_, _, _, _, _, scancode, sdlkey, sdlmod, mousex, mousey, _, _⟩ := m
  by_cases noScancode : scancode = 0 <;> by_cases noKey : sdlkey = 0 <;>
    by_cases noMod : sdlmod = 0 <;> by_cases noX : mousex = 0 <;> by_cases noY : mousey = 0 <;>
    simp only [sdlmsgNtoh, noScancode, noKey, noMod, noX, noY, ne_eq, not_true_eq_false,
      not_false_eq_true, ↓reduceIte]

theorem ntohs_guarded (host : Endian) (x : UInt16) :
    (if host.htons x ≠ 0 then host.ntohs (host.htons x) else host.htons x) = x := by
  split_ifs with nonzero
  · exact host.ntohs_htons x
  · rw [not_not, host.htons_eq_zero] at nonzero
    rw [nonzero]
    exact host.htons_eq_zero.mpr rfl

theorem ntohl_guarded (host : Endian) (x : UInt32) :
    (if host.htonl x ≠ 0 then host.ntohl (host.htonl x) else host.htonl x) = x := by
  split_ifs with nonzero
  · exact host.ntohl_htonl x
  · rw [not_not, host.htonl_eq_zero] at nonzero
    rw [nonzero]
    exact host.htonl_eq_zero.mpr rfl

theorem scancode_guarded (host : Endian) (x : UInt16) (key : UInt32) :
    (if host.htons x ≠ 0 then host.ntohs (UInt16.ofNat (host.htonl key).toNat) else host.htons x) =
      if x ≠ 0 then host.half key else 0 := by
  rw [host.ntohs_htonl]
  by_cases zero : x = 0
  · rw [if_neg (not_not.mpr (host.htons_eq_zero.mpr zero)), if_neg (not_not.mpr zero), zero]
    exact host.htons_eq_zero.mpr rfl
  · rw [if_pos (mt host.htons_eq_zero.mp zero), if_pos zero]

theorem sdlmsgNtoh_network (host : Endian) (m : SdlMsg) (padding : Vector UInt8 9) :
    sdlmsgNtoh host { m.network host with padding := padding } =
      { m with
        msgsize := host.htons sdlmsgSize
        scancode := if m.scancode ≠ 0 then host.half m.sdlkey else 0
        padding := padding } := by
  rw [sdlmsgNtoh_eq]
  congr 1
  · exact scancode_guarded host m.scancode m.sdlkey
  · exact ntohl_guarded host m.sdlkey
  · exact ntohs_guarded host m.sdlmod
  · exact ntohs_guarded host m.mousex
  · exact ntohs_guarded host m.mousey

/-! ## Survival -/

/-- The scan code of a key event survives when it is 0 or happens to be the half of the key code that
`ntohs` sees; everything else always does. -/
theorem sdlmsg_survives (client server : Endian) (b : Built) (buf : Mem UInt8) (p : Nat)
    (received : buf.slice p sdlmsgSize.toNat = (b.msg client).bytes client) :
    (be16 (buf p) (buf (p + 1)) = ((b.msg client).bytes client).length ∧
        SameEvent (sdlmsgNtoh server (.load server buf p)) b.args) ↔
      b.args.scancode = 0 ∨ b.args.scancode = server.half b.args.sdlkey := by
  have bytes : (b.msg client).bytes client = b.args.wire := by
    rw [b.msg_eq, SdlMsg.bytes_network]
  rw [bytes] at received
  have size : be16 (buf p) (buf (p + 1)) = ((b.msg client).bytes client).length := by
    have cells := congrArg (List.take 2) received
    rw [Mem.take_slice _ _ _ _ (by decide)] at cells
    obtain ⟨first, second⟩ : buf p = 0 ∧ buf (p + 1) = 28 := by
      simpa [Mem.slice_succ, SdlMsg.wire, byte, sdlmsgSize] using cells
    rw [first, second, bytes, SdlMsg.length_wire]
    rfl
  rw [SdlMsg.load_wire server received, sdlmsgNtoh_network]
  constructor
  · rintro ⟨-, same⟩
    have scancode := same.scancode
    dsimp only at scancode
    split_ifs at scancode with nonzero
    · exact .inr scancode.symm
    · exact .inl (not_not.mp nonzero)
  · intro survives
    refine ⟨size, rfl, rfl, rfl, ?_, rfl, rfl, rfl, rfl, rfl⟩
    dsimp only
    split_ifs with nonzero
    · exact (survives.resolve_left nonzero).symm
    · exact (not_not.mp nonzero).symm

theorem sdlmsg_survives_motion :
    SameEvent
      (sdlmsgNtoh .little
        (.load .little (fun i => (((Built.mousemotion 0xfffb 7 1).msg .big).bytes .big).getD i 0) 0))
      (Built.mousemotion 0xfffb 7 1).args :=
  ((sdlmsg_survives .big .little (.mousemotion 0xfffb 7 1)
    (fun i => (((Built.mousemotion 0xfffb 7 1).msg .big).bytes .big).getD i 0) 0 (by decide)).mpr
      (.inl rfl)).2

theorem not_sdlmsg_survives :
    ¬ ∀ (client server : Endian) (b : Built) (buf : Mem UInt8) (p : Nat),
      buf.slice p sdlmsgSize.toNat = (b.msg client).bytes client →
        be16 (buf p) (buf (p + 1)) = ((b.msg client).bytes client).length ∧
          SameEvent (sdlmsgNtoh server (.load server buf p)) b.args := by
  intro survives
  have same := (survives .little .little (.keyboard 1 4 0x61 0)
    (fun i => (((Built.keyboard 1 4 0x61 0).msg .little).bytes .little).getD i 0) 0 (by decide)).2
  have scancode := same.scancode
  revert scancode
  decide

end GamingAnywhere.Control
