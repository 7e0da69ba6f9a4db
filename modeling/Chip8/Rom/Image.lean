/-
  Program images: read from a file and checked to fit above the start of programs.
-/
import Chip8.Machine.Control
import Chip8.Rom.FileTree

namespace Chip8

namespace Rom

/-- A nonempty image of at most the size of the program area. -/
def validate (data : List Byte) : Except RomFault (List Byte) :=
  if data.isEmpty then .error .empty
  else if romLimit < data.length then .error (.tooLarge data.length)
  else .ok data

/-- The fault of a file that could not be read. -/
def readFault (p : PathName) : FileFault → RomFault
  | .missing => .missing p.text
  | cause => .unreadable p.text cause

/-- The image in a file. -/
def read (look : FileLookup) (p : PathName) : Except Fault (List Byte) :=
  match Fault.ofHostText? p.text with
  | some fault => .error fault
  | none =>
    match look.read p with
    | .error cause => .error (.rom (readFault p cause))
    | .ok data =>
      match validate data with
      | .error fault => .error (.rom fault)
      | .ok data => .ok data

end Rom

namespace Emulator

variable {δ : Type}

def loaderText (path : Text) (size : Nat) : Text :=
  "path=" ++ path ++ " bytes=" ++ toString size

/-- Loads the image in a file, whose name is shown as it was given, and returns its size. -/
def loadRomFrom (look : FileLookup) (path : Text) : Act (Emulator δ) Nat := do
  let data ← Act.ofExcept (Rom.read look (PathName.parse path))
  loadRom data
  onHost (Host.tryLog "loader" (loaderText path data.length))
  return data.length

end Emulator

end Chip8
