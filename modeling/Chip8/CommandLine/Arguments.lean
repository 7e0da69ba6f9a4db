/-
  Reading the arguments of the command line. Each argument is first told apart on its own: an
  option, perhaps with a value behind `=`, or a plain text. Options may be shortened as long as
  one option only is meant. Then the arguments are taken from left to right; of an option given
  twice the last value counts. The first fault found ends the reading.
-/
import Chip8.App.Basic

namespace Chip8.CommandLine

inductive OptionName where
  | help
  | rom
  | scale
  | fullscreen
  | speed
  | seed
deriving DecidableEq, Repr

namespace OptionName

def spellings : OptionName → List Text
  | help => ["-h", "--help"]
  | rom => ["--rom"]
  | scale => ["--scale"]
  | fullscreen => ["--fullscreen"]
  | speed => ["--speed"]
  | seed => ["--seed"]

def all : List OptionName := [help, rom, scale, fullscreen, speed, seed]

/-- Every spelling with its option. -/
def spelled : List (Text × OptionName) := all.flatMap fun o => o.spellings.map fun s => (s, o)

/-- Whether a value follows the option. -/
def takesValue : OptionName → Bool
  | help => false
  | fullscreen => false
  | _ => true

/-- The option as messages name it. -/
def label (o : OptionName) : Text := Text.joinWith "/" o.spellings

/-- The option that is spelled out in full. -/
def ofSpelling? (text : Text) : Option OptionName :=
  (spelled.find? fun entry => entry.1 == text).map (·.2)

/-- The options that a text is the beginning of. -/
def candidates (text : Text) : List (Text × OptionName) :=
  spelled.filter fun entry => text.isPrefixOf entry.1

theorem mem_all (o : OptionName) : o ∈ all := by cases o <;> decide

end OptionName

/-- A command line that asks for something impossible. -/
inductive UsageFault where
  | ambiguous (argument : Text) (spellings : List Text)
  | valueMissing (option : OptionName)
  | valueUnused (option : OptionName) (text : Text)
  | noInteger (option : OptionName) (text : Text)
  | romRequired
  | unrecognized (arguments : List Text)
  | romMissing (path : PathName)
  | romNoFile (path : PathName)
  | notPositive (option : OptionName)
deriving DecidableEq, Repr

def UsageFault.message : UsageFault → Text
  | ambiguous argument spellings =>
    "ambiguous option: " ++ argument ++ " could match " ++ Text.joinWith ", " spellings
  | valueMissing o => "argument " ++ o.label ++ ": expected one argument"
  | valueUnused o text =>
    "argument " ++ o.label ++ ": ignored explicit argument " ++ text.quote
  | noInteger o text => "argument " ++ o.label ++ ": invalid int value: " ++ text.quote
  | romRequired => "the following arguments are required: " ++ OptionName.rom.label
  | unrecognized arguments => "unrecognized arguments: " ++ Text.joinWith " " arguments
  | romMissing path => "ROM file not found: " ++ path.text
  | romNoFile path => "ROM path is not a file: " ++ path.text
  | notPositive o => o.label ++ " must be positive"

/-- An argument by itself. -/
inductive Argument where
  /-- No option; it may be the value of the option before. -/
  | plain (text : Text)
  /-- The double dash, after which there are no options. -/
  | separator
  | option (name : OptionName) (value : Option Text)
  /-- The short help option with something behind it. -/
  | helpWith (letters : Text)
  | unknown (text : Text)
deriving DecidableEq, Repr

/-- Before and behind the first `=`. -/
def splitValue (text : Text) : Text × Option Text :=
  let isMark (p : CodePoint) := p == '='
  (text.takeWhile (!isMark ·),
   match text.dropWhile (!isMark ·) with
   | [] => none
   | _ :: value => some value)

/-- Decimal digits with at most one point among them, and a digit at the end. -/
def isUnsignedNumber (t : Text) : Bool :=
  let isDigit p := (Text.decimalDigit? p).isSome
  match t.dropWhile isDigit with
  | [] => !t.isEmpty
  | .char '.' :: places => !places.isEmpty && places.all isDigit
  | _ => false

/-- Whether a text is a negative number. A line break after it does not count. -/
def isNegativeNumber (t : Text) : Bool :=
  match t with
  | .char '-' :: rest =>
    isUnsignedNumber (if rest.getLast? == some '\n' then rest.dropLast else rest)
  | _ => false

/-- A text with a dash that is no option: a number, or one with a space in it, is plain. -/
def otherArgument (text : Text) : Argument :=
  if isNegativeNumber text || text.contains ' ' then .plain text else .unknown text

/-- The argument that a text with two dashes and more stands for. -/
def longArgument (text : Text) : Except UsageFault Argument :=
  let (front, value) := splitValue text
  match OptionName.ofSpelling? front with
  | some o => .ok (.option o value)
  | none =>
    match OptionName.candidates front with
    | [] => .ok (otherArgument text)
    | [(_, o)] => .ok (.option o value)
    | several => .error (.ambiguous text (several.map (·.1)))

/-- The argument that a text before the double dash stands for. -/
def readArgument (text : Text) : Except UsageFault Argument :=
  match text with
  | .char '-' :: .char '-' :: _ => longArgument text
  | [.char '-', .char 'h'] => .ok (.option .help none)
  | .char '-' :: .char 'h' :: .char '=' :: letters => .ok (.helpWith letters)
  | .char '-' :: .char 'h' :: letters => .ok (.helpWith letters)
  | [.char '-'] => .ok (.plain text)
  | .char '-' :: _ => .ok (otherArgument text)
  | _ => .ok (.plain text)

/-- The text of the double dash. -/
def doubleDash : Text := "--"

def readArguments : List Text → Except UsageFault (List Argument)
  | [] => .ok []
  | text :: rest =>
    if text == doubleDash then .ok (.separator :: rest.map .plain)
    else do
      let argument ← readArgument text
      return argument :: (← readArguments rest)

/-- What stops the reading before its end. -/
inductive Interruption where
  | help
  | usage (fault : UsageFault)
  /-- The file system failed. -/
  | failure (fault : Fault)
deriving DecidableEq, Repr

/-- The settings that the options give. -/
structure Choices where
  rom : Setting PathName := .absent
  scale : Setting Int := .absent
  fullscreen : Bool := false
  speed : Setting Int := .absent
  seed : Setting Int := .absent
deriving DecidableEq, Repr, Inhabited

/-- The value that a text gives. The double dash gives a blank one. -/
def readValue {α : Type} (read : Text → Except Interruption α) (text : Text) :
    Except Interruption (Setting α) :=
  if text == doubleDash then .ok .blank else (read text).map .value

def readInteger (o : OptionName) (text : Text) : Except Interruption Int :=
  match Numeral.read 10 text with
  | some n => .ok n
  | none => .error (.usage (.noInteger o text))

/-- The choices after an option with its value or without one. -/
def choose (s : Choices) (o : OptionName) (value : Option Text) :
    Except Interruption Choices :=
  match o, value with
  | .help, none => .error .help
  | .fullscreen, none => .ok { s with fullscreen := true }
  | .rom, some text =>
    (readValue (fun text => .ok (PathName.parse text)) text).map fun v => { s with rom := v }
  | .scale, some text => (readValue (readInteger o) text).map fun v => { s with scale := v }
  | .speed, some text => (readValue (readInteger o) text).map fun v => { s with speed := v }
  | .seed, some text => (readValue (readInteger o) text).map fun v => { s with seed := v }
  | o, some text => .error (.usage (.valueUnused o text))
  | o, none => .error (.usage (.valueMissing o))

/-- What stands behind the short help option: more letters of the same option, up to the end or
to something that the option does not take. -/
def helpLetters : Text → Interruption
  | [.char 'h'] => .help
  | .char 'h' :: rest => helpLetters rest
  | letters => .usage (.valueUnused .help letters)

/-- The choices after all arguments, and the arguments that mean nothing. -/
def takeArguments (s : Choices) : List Argument → Except Interruption (Choices × List Text)
  | [] => .ok (s, [])
  | .plain text :: rest => leave text (takeArguments s rest)
  | .unknown text :: rest => leave text (takeArguments s rest)
  | .separator :: rest => leave doubleDash (takeArguments s rest)
  | .helpWith letters :: _ => .error (helpLetters letters)
  | .option o (some value) :: rest => do takeArguments (← choose s o (some value)) rest
  | .option o none :: .plain text :: rest =>
    if o.takesValue then do takeArguments (← choose s o (some text)) rest
    else do leave text (takeArguments (← choose s o none) rest)
  | .option o none :: rest => do takeArguments (← choose s o none) rest
where
  leave (text : Text) (result : Except Interruption (Choices × List Text)) :=
    result.map fun (s, left) => (s, text :: left)

/-- The choices that the arguments make. -/
def choicesOf (arguments : List Text) : Except Interruption Choices := do
  match readArguments arguments with
  | .error fault => throw (.usage fault)
  | .ok arguments =>
    let (s, left) ← takeArguments {} arguments
    if s.rom.isAbsent then throw (.usage .romRequired)
    if !left.isEmpty then throw (.usage (.unrecognized left))
    return s

end Chip8.CommandLine
