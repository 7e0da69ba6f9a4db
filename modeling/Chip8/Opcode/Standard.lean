/-
  The standard instruction set: twenty-eight rows, no two of which match the same word.
-/
import Chip8.Opcode.Operation
import Chip8.Opcode.Table

namespace Chip8

namespace Mnemonic

/-- A number field of a template. -/
def field (name style : String) : TemplatePart := .field name none style

def text (s : String) : TemplatePart := .text s

/-- The register of the second digit. -/
def vx : List TemplatePart := [text "V", field "x" "X"]

/-- The register of the third digit. -/
def vy : List TemplatePart := [text "V", field "y" "X"]

def comma : List TemplatePart := [text ", "]

/-- The low byte, as `0x1f`. -/
def byte : List TemplatePart := [field "kk" "#04x"]

/-- The address, as `0x1ff`. -/
def address : List TemplatePart := [field "nnn" "#05x"]

/-- The last digit, as `0xf`. -/
def digit : List TemplatePart := [field "n" "#03x"]

end Mnemonic

open Mnemonic in
/-- The rows of the standard instruction set. -/
def standardOpcodes : List Opcode :=
  let row (op : Operation) (mnemonic : List TemplatePart) (mask pattern : Word)
      (within : pattern &&& mask = pattern := by decide)
      (covered : mask &&& familyMask = familyMask := by decide) : Opcode :=
    ⟨mask, pattern, Template.ofParts mnemonic, op.name, true, within, covered⟩
  let flow (o : Opcode) : Opcode := { o with advances := false }
  [row .clearScreen [text "CLS"] 0xFFFF 0x00E0,
   flow (row .ret [text "RET"] 0xFFFF 0x00EE),
   flow (row .jump (text "JP " :: address) 0xF000 0x1000),
   flow (row .call (text "CALL " :: address) 0xF000 0x2000),
   row .skipIfEqual (text "SE " :: vx ++ comma ++ byte) 0xF000 0x3000,
   row .skipIfNotEqual (text "SNE " :: vx ++ comma ++ byte) 0xF000 0x4000,
   row .loadByte (text "LD " :: vx ++ comma ++ byte) 0xF000 0x6000,
   row .addByte (text "ADD " :: vx ++ comma ++ byte) 0xF000 0x7000,
   row .copy (text "LD " :: vx ++ comma ++ vy) 0xF00F 0x8000,
   row .and (text "AND " :: vx ++ comma ++ vy) 0xF00F 0x8002,
   row .xor (text "XOR " :: vx ++ comma ++ vy) 0xF00F 0x8003,
   row .add (text "ADD " :: vx ++ comma ++ vy) 0xF00F 0x8004,
   row .subtract (text "SUB " :: vx ++ comma ++ vy) 0xF00F 0x8005,
   row .shiftRight (text "SHR " :: vx) 0xF00F 0x8006,
   row .loadIndex (text "LD I, " :: address) 0xF000 0xA000,
   row .random (text "RND " :: vx ++ comma ++ byte) 0xF000 0xC000,
   row .draw (text "DRW " :: vx ++ comma ++ vy ++ comma ++ digit) 0xF000 0xD000,
   row .skipIfKey (text "SKP " :: vx) 0xF0FF 0xE09E,
   row .skipIfNotKey (text "SKNP " :: vx) 0xF0FF 0xE0A1,
   row .readDelay (text "LD " :: vx ++ [text ", DT"]) 0xF0FF 0xF007,
   row .waitKey (text "LD " :: vx ++ [text ", K"]) 0xF0FF 0xF00A,
   row .setDelay (text "LD DT, " :: vx) 0xF0FF 0xF015,
   row .setSound (text "LD ST, " :: vx) 0xF0FF 0xF018,
   row .addIndex (text "ADD I, " :: vx) 0xF0FF 0xF01E,
   row .pointAtGlyph (text "LD F, " :: vx) 0xF0FF 0xF029,
   row .storeDecimal (text "LD B, " :: vx) 0xF0FF 0xF033,
   row .storeRegisters (text "LD [I], " :: vx) 0xF0FF 0xF055,
   row .loadRegisters (text "LD " :: vx ++ [text ", [I]"]) 0xF0FF 0xF065]

/-- The table of the standard instruction set. -/
def standardTable : OpcodeTable := (OpcodeTable.ofOpcodes standardOpcodes).toOption.getD default

end Chip8
