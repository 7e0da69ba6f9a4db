/-
  The program as its command line runs it: arguments in, an exit code and two texts out. Faults
  of the program image and of the host are reported in one line; any other fault is passed on.
-/
import Chip8.App.Run
import Chip8.CommandLine.Arguments

namespace Chip8

namespace CommandLine

def usage : String :=
  "usage: run.py [-h] --rom ROM [--scale SCALE] [--fullscreen] [--speed SPEED]\n" ++
  "              [--seed SEED]\n"

def helpText : String :=
  usage ++ "\n" ++
  "CHIP-8 emulator (Python)\n" ++
  "\n" ++
  "options:\n" ++
  "  -h, --help     show this help message and exit\n" ++
  "  --rom ROM      Path to the CHIP-8 program image\n" ++
  "  --scale SCALE  Integer window scale factor (default: 10)\n" ++
  "  --fullscreen   Launch the emulator in fullscreen mode\n" ++
  "  --speed SPEED  Instructions executed per 60 Hz frame (default: 10)\n" ++
  "  --seed SEED    Seed for the RND instruction's random source\n"

/-- What a fault in the arguments prints. -/
def usageText (fault : UsageFault) : Text :=
  usage ++ "run.py: error: " ++ fault.message ++ "\n"

/-- What a reported fault prints. -/
def faultText (fault : Fault) : Text := "run.py: " ++ fault.message ++ "\n"

/-- Whether a fault is reported in one line. -/
def isReported : Fault → Bool
  | .rom _ | .romRefused _ | .noRomGiven | .windowUnavailable | .displayUnavailable
  | .audioUnavailable | .mixerNotReady | .unknownEncountered _ => true
  | _ => false

/-- Whether the program image is there. -/
def checkImage (look : FileLookup) (path : PathName) : Except Interruption Unit :=
  if (Fault.ofHostText? path.text).isSome then .error (.usage (.romMissing path))
  else match look path with
    | .ok (.file _) | .ok (.locked _) => .ok ()
    | .ok .directory => .error (.usage (.romNoFile path))
    | .error .nameTooLong => .error (.failure (.file path.text .nameTooLong))
    | .error (.refused told) => .error (.failure (.file path.text (.refused told)))
    | .error _ => .error (.usage (.romMissing path))

/-- The image that was chosen, if it is there. -/
def checkRom (look : FileLookup) : Setting PathName → Except Interruption (Option PathName)
  | .absent => .ok none
  | .blank => .error (.failure .blankRom)
  | .value path => do
    checkImage look path
    return some path

/-- The number that was chosen, if it is positive. -/
def checkPositive (o : OptionName) (default : Int) (choice : Setting Int) :
    Except Interruption Int := do
  let n ← choice.get default (.failure .blankNumber)
  if n ≤ 0 then throw (.usage (.notPositive o))
  return n

/-- The settings of a run that can be tried. A blank seed is not looked at before the run. -/
def checkedSettings (look : FileLookup) (arguments : List Text) :
    Except Interruption AppSettings := do
  let chosen ← choicesOf arguments
  let standard : AppSettings := {}
  let rom ← checkRom look chosen.rom
  let scale ← checkPositive .scale standard.scale chosen.scale
  let cycles ← checkPositive .speed standard.cycles chosen.speed
  return { rom, scale, fullscreen := chosen.fullscreen, cycles, seed := chosen.seed }

/-- How the program ended. -/
inductive Ending where
  | success
  | exit (code : Nat)
  /-- A fault that the command line does not report. -/
  | failure (fault : Fault)
deriving DecidableEq, Repr

/-- A finished program run. -/
structure Report where
  ending : Ending
  /-- Text on the error channel. -/
  errors : Text := []
  /-- The run, if the arguments led to one, with its settings. -/
  run : Option (AppSettings × RunOutcome) := none
  host : Host

/-- The end of a program whose arguments led to no run. -/
def interrupted (host : Host) : Interruption → Report
  | .help => { ending := .exit 0, host := host.print helpText }
  | .usage fault => { ending := .exit 2, errors := usageText fault, host }
  | .failure fault => { ending := .failure fault, host }

/-- The end of a program after a run. -/
def reported (settings : AppSettings) (outcome : RunOutcome) : Report :=
  let run := some (settings, outcome)
  let host := outcome.host
  match outcome.fault? with
  | none => { ending := .success, run, host }
  | some fault =>
    if isReported fault then { ending := .exit 1, errors := faultText fault, run, host }
    else { ending := .failure fault, run, host }

/-- Runs the program. -/
def run (look : FileLookup) (batches : List (List HostEvent)) (arguments : List Text)
    (host : Host) : Report :=
  match checkedSettings look arguments with
  | .error stop => interrupted host stop
  | .ok settings => reported settings (App.run settings look batches host)

end CommandLine

end Chip8
