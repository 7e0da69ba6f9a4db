/-
  The built-in font: sixteen glyphs of five rows, one for each hexadecimal digit.
-/
import Chip8.Fault

namespace Chip8.Font

/-- The rows of a glyph. -/
def glyphRows : Nat := 5

/-- All glyphs in order, each row a byte whose high four bits are the dots. -/
def data : List Byte :=
  [0xF0, 0x90, 0x90, 0x90, 0xF0,
   0x20, 0x60, 0x20, 0x20, 0x70,
   0xF0, 0x10, 0xF0, 0x80, 0xF0,
   0xF0, 0x10, 0xF0, 0x10, 0xF0,
   0x90, 0x90, 0xF0, 0x10, 0x10,
   0xF0, 0x80, 0xF0, 0x10, 0xF0,
   0xF0, 0x80, 0xF0, 0x90, 0xF0,
   0xF0, 0x10, 0x20, 0x40, 0x40,
   0xF0, 0x90, 0xF0, 0x90, 0xF0,
   0xF0, 0x90, 0xF0, 0x10, 0xF0,
   0xF0, 0x90, 0xF0, 0x90, 0x90,
   0xE0, 0x90, 0xE0, 0x90, 0xE0,
   0xF0, 0x80, 0x80, 0x80, 0xF0,
   0xE0, 0x90, 0x90, 0x90, 0xE0,
   0xF0, 0x80, 0xF0, 0x80, 0xF0,
   0xF0, 0x80, 0xF0, 0x80, 0x80]

theorem length_data : data.length = 80 := rfl

/-- The glyph of a hexadecimal digit. -/
def glyph (digit : Int) : Except Fault (List Byte) :=
  if 0 ≤ digit ∧ digit < 16 then
    .ok ((data.drop (digit.toNat * glyphRows)).take glyphRows)
  else .error (.glyphDigit digit)

end Chip8.Font
