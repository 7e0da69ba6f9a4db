/-
  The debug shell. It reads lines from the host's console until one of them, or the end of the
  console, resumes or quits the application.
-/
import Chip8.App.Inspect

namespace Chip8

/-- What a line asks of the shell. -/
inductive ShellCommand where
  | resume
  | quit
  | cpu
  | screen
  | memory (arguments : Text)
  | trace
  | help
deriving DecidableEq, Repr

namespace ShellCommand

/-- The command of a line. Blanks around it and the case of its letters do not count; except in
`q` and `quit`, only its first letter does. -/
def ofLine (line : Text) : ShellCommand :=
  match line.trim.lower with
  | [] => resume
  | [.char 'q'] => quit
  | [.char 'q', .char 'u', .char 'i', .char 't'] => quit
  | .char 'c' :: _ => cpu
  | .char 's' :: _ => screen
  | .char 'm' :: rest => memory (Text.trim rest)
  | .char 't' :: _ => trace
  | _ => help

end ShellCommand

namespace App

def shellHelp : String :=
  "keys: <Enter> resume, c cpu, s screen, m [addr] [len] memory, t trace, q quit"

def prompt (a : App) : App := a.mapHost (·.print "chip8> ")

/-- Shows what a command asks for. -/
def inspect : ShellCommand → Act App Unit
  | .cpu => showCpu
  | .screen => modify showScreen
  | .memory arguments => modify (showMemory arguments)
  | .trace => showTrace (some shownSteps)
  | _ => modify (printLine shellHelp)

/-- Reads commands from the given lines. An interrupt and the end of the lines resume, as an
empty line does. -/
def readCommands : List (Option Text) → Act App Unit
  | [] => modify fun a => (a.prompt).printLine "-- resumed --"
  | line :: rest => do
    modify fun a => a.prompt.mapHost fun h => { h with console := rest }
    match ShellCommand.ofLine (line.getD []) with
    | .resume => modify (printLine "-- resumed --")
    | .quit => modify fun a => { a.printLine "-- quit --" with running := false }
    | command => do
      inspect command
      readCommands rest

/-- Pauses the application. One that is not running any more reads no commands. -/
def enterShell : Act App Unit := do
  modify fun a => (a.printLine "\n-- paused --").printLine shellHelp
  let a ← get
  if a.running then readCommands a.host.console

end App

end Chip8
