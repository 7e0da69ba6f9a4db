/-
  The program. The arguments, the setting of the diagnostics and the image's file come from the
  system. There is no window toolkit here, so a run that the arguments lead to ends with the
  message about it.
-/
import Chip8.CommandLine

namespace Chip8

/-- The cause of a failed reading, by the system's number for it. -/
def fileFault : IO.Error → FileFault
  | .noFileOrDirectory .. => .missing
  | .inappropriateType _ 21 _ => .isDirectory
  | .inappropriateType _ 20 _ => .notDirectory
  | .invalidArgument _ 36 _ => .nameTooLong
  | .invalidArgument _ 40 _ => .looping
  | cause => .refused (toString cause)

/-- What a name leads to on the system. -/
def lookUp (path : PathName) : IO (Except FileFault FileNode) := do
  try
    let data ← IO.FS.readBinFile path.text.displayed
    return .ok (.file (data.toList.map fun b => BitVec.ofNat 8 b.toNat))
  catch e =>
    match fileFault e with
    | .isDirectory => return .ok .directory
    | .refused told => return .ok (.locked told)
    | fault => return .error fault

/-- The image that the command line names, if it can be read. -/
def namedImage (arguments : List Text) : Option PathName :=
  match CommandLine.choicesOf arguments with
  | .ok { rom := .value path, .. } => some path
  | _ => none

end Chip8

open Chip8 in
def main (arguments : List String) : IO UInt32 := do
  let setting ← IO.getEnv "CHIP8_DEBUG"
  let arguments := arguments.map Text.ofString
  let found ← match namedImage arguments with
    | some path =>
      if (Fault.ofHostText? path.text).isSome then pure (.error .missing) else lookUp path
    | none => pure (.error .missing)
  let host : Host :=
    { toolkit := false, mixerRate := .notReady, categories := Categories.parse (setting.getD "") }
  let report := CommandLine.run (fun _ => found) [] arguments host
  IO.print report.host.output.displayed
  IO.eprint report.errors.displayed
  match report.ending with
  | .success => return 0
  | .exit code => return UInt32.ofNat code
  | .failure fault =>
    IO.eprintln fault.message.displayed
    return 1
