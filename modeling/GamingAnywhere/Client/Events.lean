import GamingAnywhere.Control.Replay

namespace GamingAnywhere.Client
open Lib Control

/-- What is read of the configuration, as truth values, `relativeMouseMode` included. -/
structure EventConf where
  ctrlenable : Bool
  sendmousemotion : Bool
  relativeMouseMode : Bool

structure Keysym where
  scancode : Int
  sym : UInt32
  mod : UInt16

/-- The coordinates of the wheel are what `event->motion` sees of its event. -/
inductive SdlEvent
  | keyup (keysym : Keysym)
  | keydown (keysym : Keysym)
  | mousebuttonup (button : UInt8)
  | mousebuttondown (button : UInt8)
  | mousemotion (x y xrel yrel : Int)
  | mousewheel (x y : Int)
  | windowClose
  | createOverlay (created : Bool)
  | quit
  | other

def sdlkBackquote : UInt32 := 96

/-- `captured` is the last value given to `SDL_SetRelativeMouseMode`. -/
structure Player where
  showCursor : Int
  captured : Bool
  running : Bool

def Player.start : Player := ⟨1, false, true⟩

def eventMsg (conf : EventConf) : SdlEvent → Option Built
  | .keyup keysym =>
      if conf.ctrlenable then some (.keyboard 0 (.ofInt keysym.scancode) keysym.sym keysym.mod) else none
  | .keydown keysym =>
      if conf.ctrlenable then some (.keyboard 1 (.ofInt keysym.scancode) keysym.sym keysym.mod) else none
  | .mousebuttonup button => if conf.ctrlenable then some (.mousekey 0 button) else none
  | .mousebuttondown button => if conf.ctrlenable then some (.mousekey 1 button) else none
  | .mousemotion x y xrel yrel =>
      if conf.ctrlenable && conf.sendmousemotion then
        if conf.relativeMouseMode then some (.mousemotion (.ofInt xrel) (.ofInt yrel) 1)
        else some (.mousemotion (.ofInt x) (.ofInt y) 0)
      else none
  | .mousewheel x y =>
      if conf.ctrlenable && conf.sendmousemotion then some (.mousewheel (.ofInt x) (.ofInt y)) else none
  | _ => none

def Player.toggle (p : Player) : Player :=
  let showCursor := 1 - p.showCursor
  { p with showCursor := showCursor, captured := if showCursor ≠ 0 then false else true }

def processEvent (conf : EventConf) (p : Player) (event : SdlEvent) : Player × Option Built :=
  let p := match event with
    | .keyup keysym => if keysym.sym = sdlkBackquote ∧ conf.relativeMouseMode then p.toggle else p
    | .createOverlay created =>
        if created ∧ conf.relativeMouseMode then { p with showCursor := 0, captured := true } else p
    | .windowClose => { p with running := false }
    | .quit => { p with running := false }
    | _ => p
  (p, eventMsg conf event)

end GamingAnywhere.Client
