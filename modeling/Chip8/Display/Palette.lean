/-
  Colours of the window: a background and a foreground.
-/
import Chip8.Number

namespace Chip8

structure Colour where
  red : Byte
  green : Byte
  blue : Byte
deriving DecidableEq, Repr

structure Palette where
  background : Colour
  foreground : Colour
deriving DecidableEq, Repr

namespace Palette

/-- White on black. -/
def monochrome : Palette := ⟨⟨0, 0, 0⟩, ⟨0xFF, 0xFF, 0xFF⟩⟩

/-- The low byte of a number's integer part. -/
def channel (n : Number) : Except Fault Byte := do return Byte.ofInt (← n.truncate)

/-- A palette from exactly two colours of exactly three channels. -/
def ofColours (colours : List (List Number)) : Except Fault Palette := do
  if colours.length ≠ 2 then throw .paletteSize
  if colours.any (·.length != 3) then throw .paletteEntry
  match ← colours.mapM (·.mapM channel) with
  | [[r, g, b], [r', g', b']] => return ⟨⟨r, g, b⟩, ⟨r', g', b'⟩⟩
  | _ => throw .paletteSize

end Palette

end Chip8
