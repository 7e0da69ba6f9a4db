/-
  A whole run: the program image is read, the machine is set up on the host, and frames follow
  one another, each after a batch of host events, until the host or the shell quits or a fault
  ends the run. Whatever ends the frames, the tone is silenced and the host is closed.
-/
import Chip8.App.Shell
import Chip8.Rom.Image

namespace Chip8

inductive HostEvent where
  | quit
  | keyDown (name : Text)
  | keyUp (name : Text)
  | escapeDown
  | other
deriving DecidableEq, Repr

namespace App

def handle : HostEvent → Act App Unit
  | .quit => modify fun a => { a with running := false }
  | .keyDown name => hostKey name true
  | .keyUp name => hostKey name false
  | .escapeDown => enterShell
  | .other => pure ()

/-- A batch of events, one after the other. -/
def pump (events : List HostEvent) : Act App Unit := events.forM handle

/-- Frames in a second. -/
def frameRate : Nat := 60

/-- A frame after each batch of events, while the application runs. After the last batch the
host quits. -/
def runFrames : List (List HostEvent) → Act App Unit
  | [] => pump [.quit]
  | batch :: rest => do
    pump batch
    if (← get).running then
      runFrame
      modify (mapHost (·.call (.waitTick frameRate)))
      runFrames rest

/-- Silences the application's own beeper and closes the host. -/
def close (a : App) : App :=
  (a.mapEmulator fun e => e.withAudio (Audio.shutdown (e.machine.audio, e.host))).mapHost
    (·.call .quit)

/-- The window, the keypad and, if the mixer is ready, the beeper. Without a beeper the tone is
only counted. -/
def parts (settings : AppSettings) (rom : List Byte) (host : Host) :
    Except Fault (MachineConfig Display) := do
  let window ← Window.ofSettings settings.scale Palette.monochrome settings.fullscreen
    Window.standardCaption
  return {
    display := .window window
    keyboard := .keypad {}
    audio := if host.mixerRate.isReady then .beeper Beeper.standard else .counter {}
    seed := settings.seed
    rom := rom }

/-- Sets the machine up on the host. -/
def create (settings : AppSettings) (rom : List Byte) (host : Host) :
    EStateM.Result Fault Host App :=
  match parts settings rom host with
  | .error fault => .error fault host
  | .ok config =>
    let host := if host.mixerRate.isReady then host
      else host.log "audio" "mixer unavailable, running silent"
    match Machine.create config host with
    | .error fault host => .error fault host
    | .ok e host => .ok (ofEmulator settings e true) host

end App

/-- How a run ended. -/
inductive RunOutcome where
  /-- Before there was a machine. -/
  | refused (fault : Fault) (host : Host)
  /-- After the frames, with the fault that ended them, if any. -/
  | ended (fault : Option Fault) (app : App)

namespace RunOutcome

def fault? : RunOutcome → Option Fault
  | refused fault _ => some fault
  | ended fault _ => fault

def host : RunOutcome → Host
  | refused _ host => host
  | ended _ app => app.host

end RunOutcome

namespace App

/-- The image that the settings name, if the host can run it. -/
def readImage (settings : AppSettings) (look : FileLookup) (host : Host) :
    Except Fault (List Byte) :=
  if !host.toolkit then .error .windowUnavailable
  else match settings.rom with
    | none => .error .noRomGiven
    | some path =>
      match Rom.read look path with
      | .error (.rom fault) => .error (.romRefused fault)
      | result => result

/-- The sound format that the beeper needs, and the start of the host. -/
def startHost (host : Host) : Host := (host.call (.reserveSound 44100 (-16) 1 512)).call .start

/-- Runs the application through batches of events. -/
def run (settings : AppSettings) (look : FileLookup) (batches : List (List HostEvent))
    (host : Host) : RunOutcome :=
  match readImage settings look host with
  | .error fault => .refused fault host
  | .ok rom =>
    match create settings rom (startHost host) with
    | .error fault host => .refused fault host
    | .ok app _ =>
      match runFrames batches app with
      | .ok () app => .ended none app.close
      | .error fault app => .ended (some fault) app.close

end App

end Chip8
