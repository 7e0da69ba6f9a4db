/-
  The displays of the package as one type.
-/
import Chip8.Display.Window

namespace Chip8

inductive Display where
  | bitmap (f : FrameBuffer)
  | null (d : NullDisplay)
  | recorded (r : RecordedBitmap)
  | window (w : Window)

namespace Display

/-- An act on one kind of display as an act on any display. -/
def lift {ε α : Type} (wrap : ε → Display) (act : Act (ε × Host) α) (d : ε) (h : Host) :
    EStateM.Result Fault (Display × Host) α :=
  resultWithin (fun s => (wrap s.1, s.2)) (act (d, h))

def mapHost {ε : Type} (wrap : ε → Display) (change : ε × Host → ε × Host) (d : ε) (h : Host) :
    Display × Host :=
  let s := change (d, h)
  (wrap s.1, s.2)

instance : Screen Display where
  powerOn := fun
    | (.bitmap f, h) => lift .bitmap Screen.powerOn f h
    | (.null d, h) => lift .null Screen.powerOn d h
    | (.recorded r, h) => lift .recorded Screen.powerOn r h
    | (.window w, h) => lift .window Screen.powerOn w h
  clear := fun
    | (.bitmap f, h) => mapHost .bitmap Screen.clear f h
    | (.null d, h) => mapHost .null Screen.clear d h
    | (.recorded r, h) => mapHost .recorded Screen.clear r h
    | (.window w, h) => mapHost .window Screen.clear w h
  width := fun
    | .bitmap f => Screen.width f
    | .null d => Screen.width d
    | .recorded r => Screen.width r
    | .window w => Screen.width w
  height := fun
    | .bitmap f => Screen.height f
    | .null d => Screen.height d
    | .recorded r => Screen.height r
    | .window w => Screen.height w
  getPixel x y := fun
    | (.bitmap f, h) => lift .bitmap (Screen.getPixel x y) f h
    | (.null d, h) => lift .null (Screen.getPixel x y) d h
    | (.recorded r, h) => lift .recorded (Screen.getPixel x y) r h
    | (.window w, h) => lift .window (Screen.getPixel x y) w h
  drawPixel x y hint on := fun
    | (.bitmap f, h) => lift .bitmap (Screen.drawPixel x y hint on) f h
    | (.null d, h) => lift .null (Screen.drawPixel x y hint on) d h
    | (.recorded r, h) => lift .recorded (Screen.drawPixel x y hint on) r h
    | (.window w, h) => lift .window (Screen.drawPixel x y hint on) w h

/-- The cells of the display, where it has any. -/
def cells? : Display → Option FrameBuffer
  | bitmap f => some f
  | null _ => none
  | recorded r => some r.bitmap
  | window w => some w.bitmap

/-- The bitmap, asked for by a part that only a bitmap has. -/
def bitmapFor (part : String) : Display → Except Fault FrameBuffer
  | bitmap f => .ok f
  | recorded r => .ok r.bitmap
  | null _ => .error (.partMissing "NullDisplay" part)
  | window _ => .error (.partMissing "PygameDisplay" part)

def litPixels (d : Display) : Except Fault (List (Nat × Nat)) := do
  return (← d.bitmapFor "lit_pixels").litPixels

def rows (d : Display) : Except Fault (List String) := do
  return (← d.bitmapFor "rows").rows

/-- The window, asked for by a part that only a window has. -/
def windowFor (part : String) : Display → Except Fault Window
  | window w => .ok w
  | null _ => .error (.partMissing "NullDisplay" part)
  | _ => .error (.partMissing "FrameBuffer" part)

def windowSize (d : Display) : Except Fault (Nat × Nat) := do
  return (← d.windowFor "window_size").size

/-- Shows what was painted, on a display that has a window. -/
def present : Display × Host → Display × Host
  | (window w, h) => mapHost window Window.present w h
  | s => s

/-- Shows what was painted; a display without a window refuses. -/
def tryPresent : Act (Display × Host) Unit := do
  let _ ← Act.ofExcept ((← get).1.windowFor "present")
  modify present

end Display

end Chip8
