/-
  What the debug shell can show of a paused application: registers, screen, memory and the
  recorded steps.
-/
import Chip8.App.Basic

namespace Chip8.App

/-- The registers outside the register file, on one line. -/
def pointersText (c : Cpu) : String :=
  "PC=" ++ Numeral.hexUpper 3 c.pc ++ " I=" ++ Numeral.hexUpper 3 c.i ++
    " SP=" ++ Numeral.hexUpper 0 c.sp ++ " DT=" ++ Numeral.hexUpper 2 c.delay ++
    " ST=" ++ Numeral.hexUpper 2 c.sound

def registersText (c : Cpu) : String :=
  String.intercalate " " (c.v.toList.zipIdx.map fun (b, k) =>
    "V" ++ Numeral.hexUpper 0 k ++ "=" ++ Numeral.hexUpper 2 b.toNat)

/-- The stack slots below the stack pointer. -/
def activeStack (c : Cpu) : List Int := c.stack.toList.take (bound 16 c.sp)

def stackText (c : Cpu) : String :=
  let slots := activeStack c
  "stack: " ++
    (if slots.isEmpty then "empty" else String.intercalate " " (slots.map (Numeral.hexUpper 3)))

/-- Prints the registers, the stack and the next instruction. -/
def showCpu : Act App Unit := do
  let c := (← get).emulator.machine.cpu
  modify (printLine (pointersText c))
  modify (printLine (registersText c))
  modify (printLine (stackText c))
  let w ← onEmulator Emulator.fetch
  let text ← Act.ofExcept (standardTable.disassemble w)
  onHost (Host.tryPrintLine ("next:  " ++ text))

/-- Prints the rows of the screen, if the display has any. -/
def showScreen (a : App) : App :=
  match a.emulator.machine.display.cells? with
  | none => a.printLine "screen contents are not readable from this display"
  | some f => a.printLine (String.intercalate "\n" f.rows)

/-- How many steps are shown. -/
def shownSteps : Int := 64

/-- Prints the newest recorded steps. -/
def showTrace (limit : Option Int) : Act App Unit := do
  match (← get).recorder with
  | none => modify (printLine "tracing is off; run with CHIP8_DEBUG=trace")
  | some recorder =>
    let lines := recorder.formatLatest limit
    onHost (Host.tryPrintLine
      (if lines.isEmpty then "trace is empty" else Text.joinWith "\n" lines))

/-- The start and the length of a stretch of memory, from two numbers that may be left out: a
start in base sixteen and a length in base ten. -/
def memoryRange? : List Text → Option (Nat × Nat)
  | [] => some (Memory.programStart, 0x80)
  | start :: rest => do
    let start ← Numeral.read 16 start
    let length ← match rest with
      | [] => some 0x80
      | length :: _ => Numeral.read 10 length
    if start < 0 then none else some (start.toNat, length.toNat)

/-- A stretch of memory, cut at the end of the memory, in rows of sixteen bytes with their
addresses; the last row may be shorter. -/
def memoryRows (m : Memory) (start length : Nat) : List (Nat × List Byte) :=
  let stop := min (start + length) m.size
  (List.range ((stop - start + 15) / 16)).map fun k =>
    let address := start + 16 * k
    (address, m.readBlock address (min 16 (stop - address) : Nat))

def memoryRowText (address : Nat) (bytes : List Byte) : String :=
  Numeral.hexUpper 3 address ++ ": " ++
    String.intercalate " " (bytes.map fun b => Numeral.hexUpper 2 b.toNat)

/-- Prints a stretch of memory. -/
def showMemory (arguments : Text) (a : App) : App :=
  match memoryRange? (arguments.words) with
  | none => a.printLine "m [start address in hex] [byte count]"
  | some (start, length) =>
    (memoryRows a.emulator.machine.memory start length).foldl
      (fun a (address, bytes) => a.printLine (memoryRowText address bytes)) a

end Chip8.App
