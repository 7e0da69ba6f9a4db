/-
  The host around the machine, as data: what was asked of its window and its mixer, what was
  printed, which diagnostics are on, and what it will answer. A string is always printed. A text may
  have surrogates that the output refuses: then nothing is printed, and printing it fails.
-/
import Chip8.Audio.SquareWave
import Chip8.Diagnostics.Message
import Chip8.Display.Palette

namespace Chip8

/-- A rectangle of window pixels. -/
structure Rect where
  left : Int
  top : Int
  width : Int
  height : Int
deriving DecidableEq, Repr

/-- A request to the host. -/
inductive HostCall where
  /-- The sound format to use: sample rate, sample size, channels, buffer size. -/
  | reserveSound (rate size channels buffer : Int)
  | start
  | quit
  | openWindow (width height : Int) (fullscreen : Bool)
  | caption (text : Text)
  /-- Paints a rectangle, or the whole window. -/
  | fill (colour : Colour) (area : Option Rect)
  | flip
  | makeSound (wave : SquareWave)
  | findChannel (found : Bool)
  /-- Plays the sound over and over. -/
  | playLooped
  | volume (level : Binary64)
  | stopChannel
  | waitTick (rate : Nat)
  /-- Calls of a display that records them. -/
  | displayCleared
  | pixelRead (x y : Int)
  | pixelDrawn (x y : Int) (hint : Binary64) (on : Bool)
deriving DecidableEq, Repr

/-- What the mixer tells of its sample rate. -/
inductive MixerRate where
  | notReady
  /-- Ready, but silent about the rate. -/
  | untold
  | rate (samples : Number)
  /-- A value that is no number, by its kind. -/
  | unfit (kind : String)
deriving DecidableEq, Repr

/-- Whether the mixer is ready, whatever it tells. -/
def MixerRate.isReady : MixerRate → Bool
  | notReady => false
  | _ => true

/-- The host's side of a run. -/
structure Host where
  /-- Requests so far, in order. -/
  calls : Array HostCall := #[]
  /-- Text printed so far, in pieces. -/
  printed : Array Text := #[]
  outlet : Outlet := .characters
  categories : Categories := {}
  /-- Whether there is a window toolkit. -/
  toolkit : Bool := true
  mixerRate : MixerRate := .rate (.whole 44100)
  /-- Answers to the next requests for a free channel; after them one is always free. -/
  channels : List Bool := []
  /-- Lines of the console still to be read; `none` is an interrupt. -/
  console : List (Option Text) := []
  /-- What the host's own source of random bytes will give, for machines without a seed. -/
  randomBytes : List Byte := []
  /-- How long a frame takes, in milliseconds, as the host's clock tells. -/
  frameTime : Binary64 := Binary64.zero
deriving DecidableEq, Repr, Inhabited

namespace Host

def call (h : Host) (c : HostCall) : Host := { h with calls := h.calls.push c }

/-- With one more piece of text printed. -/
def put (h : Host) (text : Text) : Host := { h with printed := h.printed.push text }

def print (h : Host) (text : String) : Host := h.put text

def printLine (h : Host) (text : String) : Host := h.print (text ++ "\n")

/-- Prints a line of any text, unless the output refuses it. -/
def tryPrintLine (text : Text) : Act Host Unit := fun h =>
  match h.outlet.refusal? text with
  | none => .ok () (h.put (text ++ "\n"))
  | some fault => .error fault h

/-- All text printed so far. -/
def output (h : Host) : Text := h.printed.toList.flatten

/-- With the logs of requests and text emptied. -/
def flush (h : Host) : Host := { h with calls := #[], printed := #[] }

/-- Whether messages of a category are printed. -/
def isLogging (h : Host) (category : Text) : Bool := h.categories.isOn category

/-- Prints a message of any text, if its category is on. -/
def tryLog (category message : Text) : Act Host Unit := do
  if (← get).isLogging category then tryPrintLine (Categories.line category message)

/-- The host after a message, which is printed if its category is on and the output takes it. -/
def logged (h : Host) (category message : Text) : Host :=
  match tryLog category message h with
  | .ok _ h | .error _ h => h

/-- Prints a message of a category that is on. -/
def log (h : Host) (category message : String) : Host := h.logged category message

/-- Prints a message of the category that a value names, if that is on. -/
def logFor (category : MessageArg) (message : Text) : Act Host Unit := do
  if ← Act.ofExcept ((← get).categories.isEnabledFor category) then
    tryPrintLine (Categories.line (← Act.ofExcept category.written) message)

/-- An act of the host beside something else. -/
def beside {σ α : Type} : Act Host α → Act (σ × Host) α := Act.within (·.2) fun h s => (s.1, h)

/-- Asks for a free channel. -/
def findChannel (h : Host) : Bool × Host :=
  let found := h.channels.head?.getD true
  (found, { h with channels := h.channels.tail }.call (.findChannel found))

end Host

end Chip8
