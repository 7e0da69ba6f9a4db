/-
  The application: an emulator that is run frame by frame. A frame executes a fixed number of
  instructions, counts the timers down once and shows the window. Steps may be recorded on the
  way; the record is printed when a word turns up that is no instruction.
-/
import Chip8.Display
import Chip8.Machine.Control
import Chip8.Rom.PathName
import Chip8.Trace

namespace Chip8

/-- The options of a run. -/
structure AppSettings where
  rom : Option PathName := none
  scale : Int := Window.standardScale
  fullscreen : Bool := false
  /-- Instructions in a frame; below zero there are none. -/
  cycles : Int := 10
  seed : Setting Int := .absent
deriving DecidableEq, Repr, Inhabited

structure App where
  settings : AppSettings
  emulator : Emulator Display
  /-- Whether the window, the keypad and the beeper are the application's own. If not, it
  neither shows the display nor passes host keys on. -/
  owner : Bool := true
  running : Bool := true
  /-- The number of frames that were finished. -/
  frames : Nat := 0
  recorder : Option TraceRecorder := none

namespace App

/-- The number of steps that are recorded. -/
def recordedSteps : Nat := 512

/-- How many of them are printed at an unknown instruction. -/
def dumpedSteps : Int := 32

/-- An application that drives an emulator. It records steps if trace messages are on. -/
def ofEmulator (settings : AppSettings) (e : Emulator Display) (owner : Bool) : App :=
  { settings, emulator := e, owner
    recorder := if e.host.isLogging "trace" then some (.empty recordedSteps) else none }

abbrev host (a : App) : Host := a.emulator.host

def mapEmulator (change : Emulator Display → Emulator Display) (a : App) : App :=
  { a with emulator := change a.emulator }

def mapHost (change : Host → Host) : App → App := mapEmulator (Emulator.mapHost change)

def printLine (text : String) : App → App := mapHost (·.printLine text)

/-- An act of the emulator. -/
def onEmulator {α : Type} : Act (Emulator Display) α → Act App α :=
  Act.within (·.emulator) fun e a => { a with emulator := e }

/-- An act of the host. -/
def onHost {α : Type} (act : Act Host α) : Act App α := onEmulator (Emulator.onHost act)

/-- Records the step that is about to happen, with its text in the standard instruction set. -/
def recordNext : Act App Unit := do
  match (← get).recorder with
  | none => pure ()
  | some recorder =>
    let w ← onEmulator Emulator.fetch
    let text ← Act.ofExcept (standardTable.disassemble w)
    modify fun a =>
      let entry := TraceEntry.capture a.emulator.machine.cpu (some w) text
      { a with recorder := some (recorder.record entry) }

/-- The next instruction. -/
def stepOnce : Act App Unit := do
  recordNext
  let _ ← onEmulator Emulator.step

def stepTimes : Nat → Act App Unit
  | 0 => pure ()
  | n + 1 => do
    stepOnce
    stepTimes n

/-- Stops running and prints the latest steps recorded. -/
def halt : Act App Unit := do
  modify fun a => { a with running := false }
  match (← get).recorder with
  | none => pure ()
  | some recorder => onHost (recorder.dump (.text "trace") (some dumpedSteps))

/-- The instructions of a frame. A word that is no instruction ends the run. -/
def stepFrame : Act App Unit := fun a =>
  match stepTimes a.settings.cycles.toNat a with
  | .error (.unknownInstruction w) a =>
    match halt a with
    | .ok _ a => .error (.unknownEncountered w) a
    | refused => refused
  | result => result

/-- Shows the application's own window. -/
def present (a : App) : App :=
  if a.owner then a.mapEmulator fun e => e.withStage (Display.present e.stage) else a

def frameText (a : App) : Except Fault String := do
  return "frame=" ++ (← decimalText a.frames) ++ " cycles=" ++ (← decimalText a.settings.cycles) ++
    " elapsed_ms=" ++ a.host.frameTime.fixed 3

/-- Says how long the frame took, if performance messages are on. -/
def logFrame : Act App Unit := do
  let a ← get
  if a.host.isLogging "perf" then
    let text ← Act.ofExcept a.frameText
    modify (mapHost (·.log "perf" text))

def runFrame : Act App Unit := do
  stepFrame
  modify fun a => (a.mapEmulator Emulator.tick).present
  modify fun a => { a with frames := a.frames + 1 }
  logFrame

def keyText (name : Text) (pressed : Bool) : Text :=
  let down : Text := if pressed then "True" else "False"
  "host key=" ++ name ++ " down=" ++ down

/-- Passes a host key on to the application's own keypad. -/
def hostKey (name : Text) (pressed : Bool) : Act App Unit := do
  if (← get).owner then
    onHost (Host.tryLog "input" (keyText name pressed))
    onEmulator (if pressed then Emulator.press name else Emulator.release name)

end App

end Chip8
