/-
  A window that shows a bitmap. Each change is made in the bitmap first and then painted as a
  square, so that the window never has to be painted anew.
-/
import Chip8.Display.Screen

namespace Chip8

structure Window where
  scale : Nat
  palette : Palette
  fullscreen : Bool
  caption : Text
  /-- Whether the host has opened the window. -/
  opened : Bool := false
  /-- Whether something was painted that is not shown yet. -/
  dirty : Bool := false
  bitmap : FrameBuffer := default

namespace Window

def standardScale : Int := 10

def standardCaption : Text := "CHIP-8 Emulator (Python)"

/-- A window that is not opened yet; a scale of zero or below is refused. -/
def ofSettings (scale : Int) (palette : Palette) (fullscreen : Bool) (caption : Text) :
    Except Fault Window :=
  if 0 < scale then .ok { scale := scale.toNat, palette, fullscreen, caption }
  else .error .displayScale

/-- A window in the given colours. The scale is looked at first. -/
def ofColours (scale : Int) (colours : List (List Number)) (fullscreen : Bool)
    (caption : Text) : Except Fault Window := do
  let w ← ofSettings scale Palette.monochrome fullscreen caption
  return { w with palette := ← Palette.ofColours colours }

/-- The size of the window in pixels. -/
def size (w : Window) : Nat × Nat :=
  (FrameBuffer.standardWidth * w.scale, FrameBuffer.standardHeight * w.scale)

/-- Blanks the bitmap and, once the window is open, paints it in the background colour. -/
def clear (s : Window × Host) : Window × Host :=
  let (w, h) := s
  ({ w with bitmap := w.bitmap.clear, dirty := true },
   if w.opened then h.call (.fill w.palette.background none) else h)

/-- The size and the scale as a message tells them. -/
def sizeText (w : Window) : Except Fault String := do
  return "window=" ++ (← decimalText w.size.1) ++ "x" ++ (← decimalText w.size.2) ++
    " scale=" ++ (← decimalText w.scale)

/-- Says how large the window is, if video messages are on. -/
def logSize : Act (Window × Host) Unit := do
  let (w, h) ← get
  if h.isLogging "video" then set (w, h.log "video" (← Act.ofExcept w.sizeText))

/-- Opens the window and clears it. -/
def powerOn : Act (Window × Host) Unit := do
  let (w, h) ← get
  if !h.toolkit then throw .displayUnavailable
  set ({ w with opened := true },
    (h.call (.openWindow w.size.1 w.size.2 w.fullscreen)).call (.caption w.caption))
  logSize
  modify clear

/-- The side of the square painted for a cell: the scale times the hint, rounded half to even,
and at least one. -/
def pixelSize (scale : Nat) (hint : Number) : Except Fault Int := do
  return max 1 (← (← Number.mul (.whole scale) hint).round)

/-- The square of a cell. -/
def square (x y side : Int) : Rect := ⟨x * side, y * side, side, side⟩

def drawPixel (x y : Int) (hint : Number) (on : Bool) : Act (Window × Host) Unit :=
  fun (w, h) =>
    match w.bitmap.drawPixel x y on with
    | .error e => .error e (w, h)
    | .ok f =>
      let w := { w with bitmap := f }
      if w.opened then
        match pixelSize w.scale hint with
        | .error e => .error e (w, h)
        | .ok side =>
          let colour := if on then w.palette.foreground else w.palette.background
          .ok () ({ w with dirty := true }, h.call (.fill colour (some (square x y side))))
      else .ok () (w, h)

/-- Shows what was painted since the last time, if anything was. -/
def present (s : Window × Host) : Window × Host :=
  let (w, h) := s
  if w.dirty && w.opened then ({ w with dirty := false }, h.call .flip) else (w, h)

instance : Screen Window where
  powerOn := powerOn
  clear := clear
  width w := w.bitmap.width
  height w := w.bitmap.height
  getPixel x y := fun (w, h) =>
    match w.bitmap.getPixel x y with
    | .ok on => .ok on (w, h)
    | .error e => .error e (w, h)
  drawPixel := drawPixel

end Window

end Chip8
