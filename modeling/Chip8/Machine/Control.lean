/-
  Operating the machine: timer ticks, reset, loading a program, and setting a machine up.
-/
import Chip8.Machine.Execute

namespace Chip8

namespace Emulator

variable {δ : Type}

def timerText (c : Cpu) : String := "dt=" ++ toString c.delay ++ " st=" ++ toString c.sound

/-- Counts both timers down once. A tone sounds while the sound timer is not down to zero. -/
def tick (e : Emulator δ) : Emulator δ :=
  let e := e.mapCpu Cpu.tick
  let c := e.machine.cpu
  let tone := (e.machine.audio, e.host)
  let e := e.withAudio (if 0 < c.sound then Audio.start tone else Audio.stop tone)
  e.mapHost (·.log "timer" (timerText c))

def romText (size : Nat) : String :=
  "rom loaded bytes=" ++ toString size ++
    " end=" ++ Numeral.hex 4 (Memory.programStart + size : Nat)

/-- Copies a program to where programs start. -/
def loadRom (data : List Byte) : Act (Emulator δ) Unit := do
  tryMemory (·.loadBlock Memory.programStart data)
  modify (mapHost (·.log "cpu" (romText data.length)))

variable [Screen δ]

/-- Resets the processor, blanks the display and restores the font. Memory above the font stays
as it is. -/
def reset : Act (Emulator δ) Unit := do
  modify (mapMachine fun m => { m with cpu := {}, executed := 0 })
  modify clearScreen
  tryMemory (·.loadBlock Memory.fontStart Font.data)

/-- Gives the machine the random source of a seed. -/
def seedRandom (seed : Setting Int) : Act (Emulator δ) Unit := fun e =>
  match RandomSource.ofSeed seed e.host.randomBytes with
  | .ok source => .ok () (e.mapMachine fun m => { m with random := source })
  | .error fault => .error fault e

/-- Readies the display, the keyboard, the audio and the random source in this order, resets the
machine, and loads the program unless it is empty. -/
def powerOn (seed : Setting Int) (rom : List Byte) : Act (Emulator δ) Unit := do
  onDisplay Screen.powerOn
  modify (mapMachine fun m => { m with keyboard := m.keyboard.reset })
  Act.within (fun e => (e.machine.audio, e.host)) withAudio Audio.powerOn
  seedRandom seed
  reset
  if !rom.isEmpty then loadRom rom

end Emulator

/-- What a machine is made of. -/
structure MachineConfig (δ : Type) where
  display : δ
  keyboard : Keyboard := .latch 0
  audio : Audio := .counter {}
  rom : List Byte := []
  /-- Without a seed the host gives the random bytes. -/
  seed : Setting Int := .absent

/-- A machine of the given parts, switched on. Where that fails, the host is left as it was by
then. -/
def Machine.create {δ : Type} [Screen δ] (config : MachineConfig δ) (host : Host) :
    EStateM.Result Fault Host (Emulator δ) :=
  let machine : Machine δ :=
    { display := config.display, keyboard := config.keyboard, audio := config.audio }
  match Emulator.powerOn config.seed config.rom ⟨machine, host⟩ with
  | .ok () e => .ok e e.host
  | .error fault e => .error fault e.host

end Chip8
