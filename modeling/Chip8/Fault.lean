/-
  What can go wrong, as causes, with one wording for each; and computations that may stop with a
  fault while what they did before stays done.
-/
import Chip8.ProcessorPart
import Chip8.Template.Fault
import Chip8.Text.Encoding
import Chip8.Word

namespace Chip8

/-- A row that the instruction table does not accept. -/
inductive OpcodeFault where
  /-- The mask or the pattern is not a 16-bit value. -/
  | outOfRange (pattern mask : Int)
  /-- The pattern has a bit that the mask does not cover. -/
  | bitsOutsideMask (pattern mask : Word)
  /-- The mask leaves part of the family digit open. -/
  | familyUncovered
  /-- A row with the same mask and pattern is there already. -/
  | taken (pattern : Word) (handler : Text)
deriving DecidableEq, Repr

/-- A file that cannot be read. -/
inductive FileFault where
  | missing
  | notDirectory
  | isDirectory
  | nameTooLong
  /-- Links that lead to each other. -/
  | looping
  /-- Any other refusal, in the system's words. -/
  | refused (told : Text)
deriving DecidableEq, Repr

/-- A program image that cannot be loaded. -/
inductive RomFault where
  | missing (path : Text)
  | unreadable (path : Text) (cause : FileFault)
  | empty
  | tooLarge (size : Nat)
deriving DecidableEq, Repr

/-- Everything an operation of the emulator can stop with. -/
inductive Fault where
  /-- A byte index outside `-size .. size - 1`. -/
  | cellIndex
  /-- An index that does not fit a signed 64-bit integer. -/
  | indexTooWide
  | stackRead
  | stackWrite
  /-- A value that is no byte, stored into a cell. -/
  | cellValue
  /-- A value that is no byte, in a block of bytes. -/
  | blockValue
  /-- A block of another length than the cells it should fill. -/
  | blockLength
  | memorySize
  | displaySize
  | displayScale
  | paletteSize
  | paletteEntry
  | toneFrequency
  | traceCapacity
  | glyphDigit (digit : Int)
  /-- A size that does not fit a signed 64-bit integer. -/
  | sizeTooWide
  /-- A count that does not fit a signed 64-bit integer. -/
  | countTooWide
  /-- A count that does not fit a signed 32-bit integer. -/
  | smallCountTooWide
  /-- More digits than an integer may be asked to have. -/
  | tooManyDigits
  /-- More decimal digits than are written. -/
  | numeralTooLong
  /-- Something longer than what a host can address. -/
  | outOfMemory
  | numberTooLarge
  | quotientTooLarge
  | infiniteNumber
  /-- An integer of what is no number. -/
  | undefinedNumber
  /-- A number that is no character code. -/
  | characterCode
  | opcode (fault : OpcodeFault)
  | template (fault : TemplateFault)
  | unknownInstruction (word : Word)
  | missingHandler (name : Text)
  /-- A handler that is no operation, but another part of the processor. -/
  | unfitHandler (name : Text) (refusal : PartRefusal)
  /-- The processor has an instruction where its table was. -/
  | tableLost
  | rom (fault : RomFault)
  /-- A path or a setting with a null character, which no host accepts. -/
  | embeddedNull
  /-- Surrogates that the host does not encode, in a path, in a setting or in printed text. -/
  | unencodable (run : Text.SurrogateRun)
  /-- A file operation outside the loader that failed. -/
  | file (path : Text) (cause : FileFault)
  /-- A value of another kind where a text must stand. -/
  | textExpected (kind : String)
  /-- Something that was asked of a thing that does not offer it. -/
  | partMissing (owner part : String)
  | displayUnavailable
  | audioUnavailable
  | mixerNotReady
  /-- A mixer that is ready and does not tell its sample rate. -/
  | mixerUntold
  /-- A sample rate that is no number, divided by a number, both by their kinds. -/
  | rateUnfit (rate frequency : String)
  | windowUnavailable
  | noRomGiven
  /-- An option for the program image that names none. -/
  | blankRom
  /-- An option for a positive number that gives none. -/
  | blankNumber
  /-- An option for a seed that gives none. -/
  | blankSeed
  /-- A program image that the application refused. -/
  | romRefused (fault : RomFault)
  /-- The application met a word that is no instruction. -/
  | unknownEncountered (word : Word)
deriving DecidableEq, Repr

def OpcodeFault.message : OpcodeFault → Text
  | outOfRange pattern mask =>
    "opcode pattern out of range: " ++ Numeral.hexMarked 6 pattern ++ "/" ++
      Numeral.hexMarked 6 mask
  | bitsOutsideMask pattern mask =>
    "pattern " ++ Numeral.hexMarked 6 pattern.toNat ++ " has bits outside mask " ++
      Numeral.hexMarked 6 mask.toNat
  | familyUncovered => "mask must cover the opcode family nibble"
  | taken pattern handler =>
    "opcode " ++ Numeral.hexMarked 6 pattern.toNat ++ " already registered as " ++ handler

/-- The system's number, wording and the quoted path. -/
def FileFault.message (path : Text) : FileFault → Text
  | missing => "[Errno 2] No such file or directory: " ++ Text.quote path
  | notDirectory => "[Errno 20] Not a directory: " ++ Text.quote path
  | isDirectory => "[Errno 21] Is a directory: " ++ Text.quote path
  | nameTooLong => "[Errno 36] File name too long: " ++ Text.quote path
  | looping => "[Errno 40] Too many levels of symbolic links: " ++ Text.quote path
  | refused told => told

/-- The most bytes that fit between the start of programs and the end of memory. -/
def romLimit : Nat := 0x1000 - 0x200

def RomFault.message : RomFault → Text
  | missing path => "ROM file not found: " ++ path
  | unreadable path cause => "cannot read ROM " ++ path ++ ": " ++ cause.message path
  | empty => "ROM image is empty"
  | tooLarge size =>
    "ROM image is " ++ toString size ++ " bytes; at most " ++ toString romLimit ++
      " fit above 0x200"

/-- The text of an unknown instruction word. -/
def unknownInstructionText (word : Word) : String :=
  "unknown instruction " ++ Numeral.hexMarked 6 word.toNat

/-- The surrogates that cannot be encoded: a single one by its code, more by their places. -/
def unencodableText (run : Text.SurrogateRun) : String :=
  "'utf-8' codec can't encode character" ++
    (if run.count = 1 then
      " '\\u" ++ Numeral.hex 4 run.code ++ "' in position " ++ toString run.start
    else "s in position " ++ toString run.start ++ "-" ++
      toString (run.start + run.count - 1)) ++
    ": surrogates not allowed"

def Fault.message : Fault → Text
  | cellIndex => "bytearray index out of range"
  | indexTooWide => "cannot fit 'int' into an index-sized integer"
  | stackRead => "list index out of range"
  | stackWrite => "list assignment index out of range"
  | cellValue => "byte must be in range(0, 256)"
  | blockValue => "bytes must be in range(0, 256)"
  | blockLength => "memoryview assignment: lvalue and rvalue have different structures"
  | memorySize => "memory size must be positive"
  | displaySize => "display dimensions must be positive"
  | displayScale => "scale must be positive"
  | paletteSize => "palette must contain exactly two colours (background and foreground)"
  | paletteEntry => "palette entries must be RGB tuples"
  | toneFrequency => "frequency must be positive"
  | traceCapacity => "capacity must be positive"
  | glyphDigit digit => "digit out of range: " ++ toString digit
  | sizeTooWide => "cannot fit 'int' into an index-sized integer"
  | countTooWide => "Python int too large to convert to C ssize_t"
  | smallCountTooWide => "Python int too large to convert to C int"
  | tooManyDigits => "precision too large"
  | numeralTooLong =>
    "Exceeds the limit (" ++ toString Numeral.decimalDigitLimit ++
      " digits) for integer string conversion; " ++
      "use sys.set_int_max_str_digits() to increase the limit"
  | outOfMemory => ""
  | numberTooLarge => "int too large to convert to float"
  | quotientTooLarge => "integer division result too large for a float"
  | infiniteNumber => "cannot convert float infinity to integer"
  | undefinedNumber => "cannot convert float NaN to integer"
  | characterCode => "%c arg not in range(0x110000)"
  | opcode fault => fault.message
  | template fault => fault.message
  | unknownInstruction word => unknownInstructionText word
  | missingHandler name => "handler '" ++ name ++ "' not implemented"
  | unfitHandler name refusal => refusal.message name
  | tableLost => "'Instruction' object is not subscriptable"
  | rom fault => fault.message
  | embeddedNull => "embedded null byte"
  | unencodable run => unencodableText run
  | file path cause => cause.message path
  | textExpected kind => "str expected, not " ++ kind
  | partMissing owner part => "'" ++ owner ++ "' object has no attribute '" ++ part ++ "'"
  | displayUnavailable => "pygame is required for the display"
  | audioUnavailable => "pygame is required for audio output"
  | mixerNotReady => "pygame mixer must be initialised before creating SquareWaveBeeper"
  | mixerUntold => "tuple index out of range"
  | rateUnfit rate frequency =>
    "unsupported operand type(s) for /: '" ++ rate ++ "' and '" ++ frequency ++ "'"
  | windowUnavailable => "pygame is required to run the emulator window"
  | noRomGiven => "no ROM given; pass --rom <path>"
  | blankRom => "'list' object has no attribute 'exists'"
  | blankNumber => "'<=' not supported between instances of 'list' and 'int'"
  | blankSeed =>
    "The only supported seed types are: None,\nint, float, str, bytes, and bytearray."
  | romRefused fault => fault.message
  | unknownEncountered word =>
    "Unknown instruction encountered: " ++ unknownInstructionText word

/-- Why a host takes no such text for a path or a setting, if it does not. -/
def Fault.ofHostText? (t : Text) : Option Fault :=
  match t.unencodable? with
  | some run => some (.unencodable run)
  | none => if t.contains '\x00' then some .embeddedNull else none

/-- A number in decimal digits, of which there must not be too many. -/
def decimalText (n : Int) : Except Fault String :=
  (Numeral.decimal? n).elim (.error .numeralTooLong) fun digits => .ok digits

/-- A computation on a state that may stop with a fault. The state reached by then is kept. -/
abbrev Act (σ : Type) := EStateM Fault σ

/-- A result with its state put into a larger one. -/
def resultWithin {σ τ α : Type} (put : σ → τ) :
    EStateM.Result Fault σ α → EStateM.Result Fault τ α
  | .ok a s => .ok a (put s)
  | .error e s => .error e (put s)

/-- An act on part of a state. -/
def Act.within {σ τ α : Type} (part : τ → σ) (put : σ → τ → τ) (act : Act σ α) : Act τ α :=
  fun t => resultWithin (put · t) (act (part t))

/-- A fault or a value that leaves the state alone. -/
def Act.ofExcept {σ α : Type} : Except Fault α → Act σ α
  | .ok a => pure a
  | .error e => throw e

end Chip8
