/-
  The machine and the host it runs on. The machine is generic in its display.
-/
import Chip8.Audio
import Chip8.Cpu
import Chip8.Font
import Chip8.Keyboard
import Chip8.Memory
import Chip8.Opcode.Standard
import Chip8.Random
import Chip8.Sprite

namespace Chip8

structure Machine (δ : Type) where
  cpu : Cpu := {}
  /-- The number of instructions that succeeded since the last reset. -/
  executed : Nat := 0
  memory : Memory := Memory.ofSize Memory.standardSize
  display : δ
  keyboard : Keyboard
  audio : Audio
  random : RandomSource := .script []
  /-- The instruction table, unless the processor has lost it by starting over. -/
  table : Option OpcodeTable := some standardTable
  /-- Sent along with every cell drawn. -/
  hint : Number := Number.one

namespace Machine

variable {δ : Type}

/-- The word at the program counter. -/
def fetch (m : Machine δ) : Except Fault Word := m.memory.loadWord m.cpu.pc

end Machine

/-- A machine together with its host. -/
structure Emulator (δ : Type) where
  machine : Machine δ
  host : Host

namespace Emulator

variable {δ : Type}

def mapMachine (change : Machine δ → Machine δ) (e : Emulator δ) : Emulator δ :=
  { e with machine := change e.machine }

def mapHost (change : Host → Host) (e : Emulator δ) : Emulator δ :=
  { e with host := change e.host }

def mapCpu (change : Cpu → Cpu) : Emulator δ → Emulator δ :=
  mapMachine fun m => { m with cpu := change m.cpu }

/-- An act on the processor alone. -/
def onCpu {α : Type} : Act Cpu α → Act (Emulator δ) α :=
  Act.within (·.machine.cpu) fun c => mapMachine fun m => { m with cpu := c }

/-- A change of the processor that may be refused. -/
def tryCpu (change : Cpu → Except Fault Cpu) : Act (Emulator δ) Unit := fun e =>
  match change e.machine.cpu with
  | .ok c => .ok () (e.mapMachine fun m => { m with cpu := c })
  | .error fault => .error fault e

/-- A change of the memory that may be refused. -/
def tryMemory (change : Memory → Except Fault Memory) : Act (Emulator δ) Unit := fun e =>
  match change e.machine.memory with
  | .ok memory => .ok () (e.mapMachine fun m => { m with memory := memory })
  | .error fault => .error fault e

/-- The display with the host. -/
def stage (e : Emulator δ) : δ × Host := (e.machine.display, e.host)

def withStage (s : δ × Host) (e : Emulator δ) : Emulator δ :=
  ⟨{ e.machine with display := s.1 }, s.2⟩

/-- An act on the display. -/
def onDisplay {α : Type} : Act (δ × Host) α → Act (Emulator δ) α := Act.within stage withStage

def withAudio (s : Audio × Host) (e : Emulator δ) : Emulator δ :=
  ⟨{ e.machine with audio := s.1 }, s.2⟩

def withKeyboard (s : Keyboard × Host) (e : Emulator δ) : Emulator δ :=
  ⟨{ e.machine with keyboard := s.1 }, s.2⟩

/-- An act on the keyboard. -/
def onKeyboard {α : Type} : Act (Keyboard × Host) α → Act (Emulator δ) α :=
  Act.within (fun e => (e.machine.keyboard, e.host)) withKeyboard

/-- An act of the host. -/
def onHost {α : Type} : Act Host α → Act (Emulator δ) α :=
  Act.within (·.host) fun h e => { e with host := h }

/-- A fresh word from memory, with the machine as it was. -/
def fetch : Act (Emulator δ) Word := fun e =>
  match e.machine.fetch with
  | .ok w => .ok w e
  | .error fault => .error fault e

/-- A key pressed on the host, by name. -/
def press (name : Text) : Act (Emulator δ) Unit := onKeyboard (Keyboard.press name)

/-- A key released on the host, by name. -/
def release (name : Text) : Act (Emulator δ) Unit := onKeyboard (Keyboard.release name)

/-- The latch set by a code. -/
def setKey (code : Int) : Emulator δ → Emulator δ :=
  mapMachine fun m => { m with keyboard := m.keyboard.assign code }

end Emulator

end Chip8
