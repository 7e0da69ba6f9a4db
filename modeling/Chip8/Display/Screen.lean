/-
  What the machine asks of a display, and the displays that need no window: the bitmap itself,
  a bitmap that records every call, and a display that keeps nothing.
-/
import Chip8.Display.FrameBuffer
import Chip8.Host

namespace Chip8

/-- A monochrome display. Its methods see the host, and answers need not be consistent with
what was drawn. -/
class Screen (δ : Type) where
  powerOn : Act (δ × Host) Unit
  clear : δ × Host → δ × Host
  width : δ → Nat
  height : δ → Nat
  getPixel : Int → Int → Act (δ × Host) Bool
  /-- Sets a cell; the hint scales the painted size where there is one. -/
  drawPixel : Int → Int → Number → Bool → Act (δ × Host) Unit

instance : Screen FrameBuffer where
  powerOn := fun (f, h) => .ok () (f.clear, h)
  clear := fun (f, h) => (f.clear, h)
  width f := f.width
  height f := f.height
  getPixel x y := fun (f, h) =>
    match f.getPixel x y with
    | .ok on => .ok on (f, h)
    | .error e => .error e (f, h)
  drawPixel x y _ on := fun (f, h) =>
    match f.drawPixel x y on with
    | .ok f' => .ok () (f', h)
    | .error e => .error e (f, h)

/-- A display without a bitmap, which only remembers being cleared. -/
structure NullDisplay where
  cleared : Bool := false
deriving DecidableEq, Repr, Inhabited

instance : Screen NullDisplay where
  powerOn := fun (_, h) => .ok () (⟨false⟩, h)
  clear := fun (_, h) => (⟨true⟩, h)
  width _ := FrameBuffer.standardWidth
  height _ := FrameBuffer.standardHeight
  getPixel _ _ := pure false
  drawPixel _ _ _ _ := pure ()

/-- A bitmap that enters every call into the host's log. -/
structure RecordedBitmap where
  bitmap : FrameBuffer

namespace RecordedBitmap

def clear (s : RecordedBitmap × Host) : RecordedBitmap × Host :=
  (⟨s.1.bitmap.clear⟩, s.2.call .displayCleared)

instance : Screen RecordedBitmap where
  powerOn := fun s => .ok () (clear s)
  clear := clear
  width r := r.bitmap.width
  height r := r.bitmap.height
  getPixel x y := fun (r, h) =>
    let h := h.call (.pixelRead x y)
    match r.bitmap.getPixel x y with
    | .ok on => .ok on (r, h)
    | .error e => .error e (r, h)
  drawPixel x y hint on := fun (r, h) =>
    match hint.toReal with
    | .error e => .error e (r, h)
    | .ok hint =>
      let h := h.call (.pixelDrawn x y hint on)
      match r.bitmap.drawPixel x y on with
      | .ok f => .ok () (⟨f⟩, h)
      | .error e => .error e (r, h)

end RecordedBitmap

end Chip8
