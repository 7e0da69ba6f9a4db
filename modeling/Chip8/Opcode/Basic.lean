/-
  Rows of the instruction table. A word belongs to a row when the bits under the row's mask are
  the row's pattern; the mask always covers the family digit, so that a row belongs to one
  family.
-/
import Chip8.Fault
import Chip8.Template

namespace Chip8

/-- The bits that a mask must cover. -/
def familyMask : Word := 0xF000

/-- A row as it is proposed for a table. -/
structure OpcodeRow where
  mask : Int
  pattern : Int
  mnemonic : Text
  handler : Text
  advances : Bool := true
deriving DecidableEq, Repr

/-- A row of an instruction table. -/
structure Opcode where
  mask : Word
  pattern : Word
  /-- The template of the instruction's text. -/
  mnemonic : Text
  /-- The name of the operation that the row stands for. -/
  handler : Text
  /-- Whether the program counter moves on after the operation. -/
  advances : Bool := true
  pattern_within : pattern &&& mask = pattern := by decide
  family_covered : mask &&& familyMask = familyMask := by decide
deriving DecidableEq, Repr

namespace Opcode

/-- The row, if its mask and pattern make one. -/
def ofRow (row : OpcodeRow) : Except Fault Opcode :=
  if 0 ≤ row.mask ∧ row.mask ≤ 0xFFFF ∧ 0 ≤ row.pattern ∧ row.pattern ≤ 0xFFFF then
    let mask := Word.ofInt row.mask
    let pattern := Word.ofInt row.pattern
    if hp : pattern &&& mask = pattern then
      if hm : mask &&& familyMask = familyMask then
        .ok ⟨mask, pattern, row.mnemonic, row.handler, row.advances, hp, hm⟩
      else .error (.opcode .familyUncovered)
    else .error (.opcode (.bitsOutsideMask pattern mask))
  else .error (.opcode (.outOfRange row.pattern row.mask))

/-- The family that all words of the row belong to. -/
def family (o : Opcode) : Fin 16 := o.pattern.family

def isMatch (o : Opcode) (w : Word) : Bool := w &&& o.mask == o.pattern

/-- The text of an instruction word by the row's template. -/
def format (o : Opcode) (w : Word) : Except Fault Text :=
  match Template.render w.field? o.mnemonic with
  | .ok text => .ok text
  | .error fault => .error (.template fault)

/-- Whether two rows select by the same bits. -/
def sameBits (a b : Opcode) : Bool := a.mask == b.mask && a.pattern == b.pattern

end Opcode

end Chip8
