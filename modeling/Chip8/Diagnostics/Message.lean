/-
  Messages with places for arguments, as `frame=%d elapsed=%.3f`. A place has flags, a width and
  a precision, and a letter that says what it takes; a doubled mark stands for itself. A message
  is read into pieces before any argument is looked at; the arguments must then fit the places
  one by one, with none left over. A message that they do not fit is shown as it is, with the
  arguments behind it.
-/
import Chip8.Binary64.Rounded
import Chip8.Diagnostics
import Chip8.Limits
import Chip8.Outlet

namespace Chip8

/-- A value for a place of a message. -/
inductive MessageArg where
  | null
  | flag (on : Bool)
  | int (n : Int)
  | real (x : Binary64)
  | text (t : Text)
  | list (items : List MessageArg)
  /-- Values with their names. -/
  | record (fields : List (Text × MessageArg))
deriving Repr, Inhabited

namespace MessageArg

mutual

/-- The value as plain text, with text in quotes. -/
def quoted : MessageArg → Text
  | null => "None"
  | flag on => if on then "True" else "False"
  | int n => toString n
  | real x => x.shortest
  | text t => t.quote
  | list items => "[" ++ Text.joinWith ", " (quotedItems items) ++ "]"
  | record fields => "\x7b" ++ Text.joinWith ", " (quotedFields fields) ++ "\x7d"

def quotedItems : List MessageArg → List Text
  | [] => []
  | a :: rest => quoted a :: quotedItems rest

def quotedFields : List (Text × MessageArg) → List Text
  | [] => []
  | (name, a) :: rest => (name.quote ++ ": " ++ quoted a) :: quotedFields rest

end

/-- The value as plain text. -/
def shown : MessageArg → Text
  | text t => t
  | a => a.quoted

/-- Values between brackets; a single one is followed by a comma. -/
def listing : List MessageArg → Text
  | [a] => "(" ++ a.quoted ++ ",)"
  | args => "(" ++ Text.joinWith ", " (args.map quoted) ++ ")"

mutual

/-- Whether the value can be written: no integer in it has too many digits. -/
def isWritable : MessageArg → Bool
  | int n => (Numeral.decimal? n).isSome
  | list items => areWritable items
  | record fields => areFieldsWritable fields
  | _ => true

def areWritable : List MessageArg → Bool
  | [] => true
  | a :: rest => isWritable a && areWritable rest

def areFieldsWritable : List (Text × MessageArg) → Bool
  | [] => true
  | (_, a) :: rest => isWritable a && areFieldsWritable rest

end

/-- The value as plain text, if it can be written. -/
def written (a : MessageArg) : Except Fault Text :=
  if a.isWritable then .ok a.shown else .error .numeralTooLong

/-- What kind of value it is. -/
def kind : MessageArg → String
  | null => "NoneType"
  | flag _ => "bool"
  | int _ => "int"
  | real _ => "float"
  | text _ => "str"
  | list _ => "list"
  | record _ => "dict"

/-- The value as an integer, where it is one. -/
def int? : MessageArg → Option Int
  | int n => some n
  | flag on => some (if on then 1 else 0)
  | _ => none

end MessageArg

namespace Message

/-- A width or a precision: not given, a number, or the next argument. -/
inductive Extent where
  | absent
  | fixed (n : Nat)
  | argument
deriving DecidableEq, Repr

/-- What stands between the mark of a place and its letter. -/
structure Directive where
  /-- Fill up behind, not before. -/
  left : Bool := false
  plus : Bool := false
  blank : Bool := false
  /-- Put the base mark before the digits. -/
  marked : Bool := false
  zeros : Bool := false
  width : Extent := .absent
  precision : Extent := .absent
deriving DecidableEq, Repr

inductive Piece where
  | text (point : CodePoint)
  | place (directive : Directive) (letter : CodePoint)
  /-- A place that the message ends in the middle of. -/
  | unfinished (directive : Directive)
deriving DecidableEq, Repr

/-- How far the reader of a place has come. -/
inductive Stage where
  | flags
  | width
  | afterWidth
  | precision
  | places
  | afterPrecision
  | letter
deriving DecidableEq, Repr

namespace Stage

/-- Whether a width may start here. -/
def beforeWidth (s : Stage) : Bool := s == flags

/-- Whether a precision may start here. -/
def beforePrecision (s : Stage) : Bool := s == flags || s == width || s == afterWidth

end Stage

/-- One more decimal digit. -/
def Extent.push (e : Extent) (digit : Char) : Extent :=
  let d := digit.toNat - '0'.toNat
  match e with
  | fixed n => fixed (n * 10 + d)
  | _ => fixed d

def Directive.flag? (d : Directive) : Char → Option Directive
  | '-' => some { d with left := true }
  | '+' => some { d with plus := true }
  | ' ' => some { d with blank := true }
  | '#' => some { d with marked := true }
  | '0' => some { d with zeros := true }
  | _ => none

/-- The directive with one more character; nothing if the character is the place's letter. A
size letter (`h`, `l` or `L`) says nothing and is skipped. -/
def Directive.read (stage : Stage) (d : Directive) (c : Char) : Option (Stage × Directive) :=
  match (if stage == .flags then d.flag? c else none) with
  | some d => some (.flags, d)
  | none =>
    if stage.beforeWidth && c == '*' then some (.afterWidth, { d with width := .argument })
    else if (stage.beforeWidth || stage == .width) && c.isDigit then
      some (.width, { d with width := d.width.push c })
    else if stage.beforePrecision && c == '.' then
      some (.precision, { d with precision := .fixed 0 })
    else if stage == .precision && c == '*' then
      some (.afterPrecision, { d with precision := .argument })
    else if (stage == .precision || stage == .places) && c.isDigit then
      some (.places, { d with precision := d.precision.push c })
    else if stage != .letter && (c == 'h' || c == 'l' || c == 'L') then some (.letter, d)
    else none

/-- The pieces of the rest of a message, inside a place or outside. -/
def piecesFrom : Option (Stage × Directive) → Text → List Piece
  | none, [] => []
  | some (_, d), [] => [.unfinished d]
  | none, .char '%' :: .char '%' :: rest => .text '%' :: piecesFrom none rest
  | none, .char '%' :: rest => piecesFrom (some (.flags, {})) rest
  | none, p :: rest => .text p :: piecesFrom none rest
  | some (stage, d), p :: rest =>
    match p.char?.bind (d.read stage) with
    | some next => piecesFrom (some next) rest
    | none => .place d p :: piecesFrom none rest

def pieces (message : Text) : List Piece := piecesFrom none message

/-- Why arguments do not go into a message. -/
inductive Misfit where
  | unsuitable
  /-- A number that cannot be converted as the place asks. -/
  | unconvertible (fault : Fault)
deriving DecidableEq, Repr

/-- A directive whose width and precision are known. -/
structure Layout where
  directive : Directive
  width : Nat := 0
  precision : Option Nat := none

/-- An argument as it is written, before it is filled up. A long body is made only once nothing
else about the message has failed. -/
structure Written where
  /-- Fill up with zeros after the front, not with blanks before it. -/
  zeros : Bool := false
  front : Text := []
  body : Thunk Text

namespace Layout

/-- Filled up to the width, which must not be longer than what a host can address. -/
def fill (l : Layout) (w : Written) : Except Misfit (Thunk Text) :=
  if greatestLength < l.width then .error (.unconvertible .outOfMemory)
  else .ok (.mk fun _ =>
    let body := w.body.get
    let gap := l.width - (w.front.length + body.length)
    let filler (p : CodePoint) : Text := List.replicate gap p
    if l.directive.left then w.front ++ body ++ filler ' '
    else if w.zeros then w.front ++ filler '0' ++ body
    else filler ' ' ++ w.front ++ body)

/-- The sign of a number. -/
def sign (l : Layout) (negative : Bool) : Text :=
  if negative then ['-']
  else if l.directive.plus then ['+']
  else if l.directive.blank then [' ']
  else []

/-- Text, cut to the precision. -/
def text (l : Layout) (t : Text) : Written :=
  { body := .mk fun _ => t.take (l.precision.getD t.length) }

/-- The most digits that an integer may be asked to have: a sign, a base mark of two characters
and the digits are counted together. -/
def mostDigits : Nat := greatestShortCount - 3

/-- An integer, with at least as many digits as the precision says. -/
def int (l : Layout) (base : Nat) (upper : Bool) (n : Int) : Except Misfit Written :=
  let count := l.precision.getD 0
  if mostDigits < count then .error (.unconvertible .tooManyDigits)
  else if base == 10 && (Numeral.decimal? n).isNone then .error .unsuitable
  else
    let style : NumeralStyle := { base, upper, marked := l.directive.marked }
    let body : Thunk Text := .mk fun _ =>
      let digits := style.digits n.natAbs
      Text.ofChars (List.replicate (count - digits.length) '0' ++ digits)
    let front := l.sign (decide (n < 0)) ++ Text.ofChars style.mark
    .ok { zeros := l.directive.zeros, front, body }

/-- A number with a fraction, of six digits unless the precision says otherwise. -/
def real (l : Layout) (form : DecimalForm) (upper : Bool) (x : Binary64) : Written :=
  let style : DecimalStyle :=
    { form, digits := form.digits l.precision, marked := l.directive.marked, upper }
  { zeros := l.directive.zeros, front := l.sign x.isSigned
    body := .mk fun _ => Text.ofChars (style.write x) }

end Layout

/-- The value as a binary64 number. -/
def real? : MessageArg → Except Misfit Binary64
  | .real x => .ok x
  | a =>
    match a.int? with
    | none => .error .unsuitable
    | some n =>
      match Binary64.ofInt n with
      | .infinite _ => .error (.unconvertible .numberTooLarge)
      | x => .ok x

/-- The value as an integer; a real number loses its places. -/
def wholePart : MessageArg → Except Misfit Int
  | .real (.infinite _) => .error (.unconvertible .infiniteNumber)
  | .real x => x.truncate?.elim (.error .unsuitable) .ok
  | a => a.int?.elim (.error .unsuitable) .ok

/-- The value as an integer that is no part of a real number. -/
def integer (a : MessageArg) : Except Misfit Int := a.int?.elim (.error .unsuitable) .ok

/-- The value as one code point. -/
def character : MessageArg → Except Misfit CodePoint
  | .text [p] => .ok p
  | .text _ => .error .unsuitable
  | a => do
    let n ← integer a
    if 0 ≤ n ∧ n < 0x110000 then return CodePoint.ofCode n.toNat
    else throw (.unconvertible .characterCode)

/-- A value in a place with the given letter. -/
def put (l : Layout) (letter : CodePoint) (a : MessageArg) : Except Misfit Written :=
  let written (t : Text) : Except Misfit Written :=
    if a.isWritable then .ok (l.text t) else .error .unsuitable
  match letter with
  | .char 's' => written a.shown
  | .char 'r' => written a.quoted
  | .char 'a' => written a.quoted.asciiOnly
  | .char 'd' | .char 'i' | .char 'u' => do l.int 10 false (← wholePart a)
  | .char 'o' => do l.int 8 false (← integer a)
  | .char 'x' => do l.int 16 false (← integer a)
  | .char 'X' => do l.int 16 true (← integer a)
  | .char 'e' => (real? a).map (l.real .scientific false)
  | .char 'E' => (real? a).map (l.real .scientific true)
  | .char 'f' => (real? a).map (l.real .fixed false)
  | .char 'F' => (real? a).map (l.real .fixed true)
  | .char 'g' => (real? a).map (l.real .general false)
  | .char 'G' => (real? a).map (l.real .general true)
  | .char 'c' => (character a).map fun p => { body := .mk fun _ => [p] }
  | _ => .error .unsuitable

/-- A width or precision with the arguments after it. One that is written out must not be beyond
`greatest`, and one that an argument gives must lie within it on either side of zero. -/
def extent (greatest : Nat) (beyond : Fault) (e : Extent) (args : List MessageArg) :
    Except Misfit (Option Int × List MessageArg) :=
  match e, args with
  | .absent, args => .ok (none, args)
  | .fixed n, args => if n ≤ greatest then .ok (some n, args) else .error .unsuitable
  | .argument, [] => .error .unsuitable
  | .argument, a :: args => do
    let n ← integer a
    if isWithin greatest n then return (some n, args) else throw (.unconvertible beyond)

/-- The width that an integer stands for, whatever its sign. The least integer has no opposite
and stands for no width. -/
def widthOf (n : Int) : Nat := if n.natAbs ≤ greatestIndex then n.natAbs else 0

/-- The layout of a place with the arguments after it. A negative width fills up behind. -/
def layout (d : Directive) (args : List MessageArg) :
    Except Misfit (Layout × List MessageArg) := do
  let (width, args) ← extent greatestIndex .countTooWide d.width args
  let (precision, args) ← extent greatestShortCount .smallCountTooWide d.precision args
  let width := width.getD 0
  return (⟨{ d with left := d.left || decide (width < 0) }, widthOf width,
    precision.map Int.toNat⟩, args)

/-- The pieces with the arguments put into their places. -/
def fill : List Piece → List MessageArg → Except Misfit (Thunk Text)
  | [], [] => .ok (.mk fun _ => [])
  | [], _ :: _ => .error .unsuitable
  | .unfinished d :: _, args => do
    let _ ← layout d args
    throw .unsuitable
  | .text p :: rest, args => (fill rest args).map (·.map (p :: ·))
  | .place d letter :: rest, args => do
    match ← layout d args with
    | (_, []) => throw .unsuitable
    | (l, a :: args) =>
      let front ← l.fill (← put l letter a)
      let behind ← fill rest args
      return .mk fun _ => front.get ++ behind.get

/-- A message as it is shown, with arguments that it does not take behind it. -/
def beside (message : MessageArg) (args : List MessageArg) : Except Fault Text := do
  let shown ← message.written
  if MessageArg.areWritable args then return shown ++ " " ++ MessageArg.listing args
  else throw .numeralTooLong

/-- The text of a message. Without arguments its places stay as they are written; a value that is
no text has no places. -/
def text (message : MessageArg) (args : List MessageArg) : Except Fault Text :=
  if args.isEmpty then message.written
  else match message with
    | .text t =>
      match fill (pieces t) args with
      | .ok filled => .ok filled.get
      | .error .unsuitable => beside message args
      | .error (.unconvertible fault) => .error fault
    | _ => beside message args

end Message

/-- Whether the category that a value names is on: nothing names them all together, and a value
that is no text cannot be compared with names. -/
def Categories.isEnabledFor (c : Categories) : MessageArg → Except Fault Bool
  | .null => .ok (c.isEnabled none)
  | .text name => .ok (c.isEnabled (some name))
  | value =>
    if c.isEmpty || c.isWild then .ok (!c.isEmpty)
    else .error (.partMissing value.kind "lower")

namespace Diagnostics

/-- Changes the setting to a value, which must be a text unless it is nothing. -/
def assignFrom (d : Diagnostics) : MessageArg → Except Fault Diagnostics
  | .null => d.assign none
  | .text setting => d.assign (some setting)
  | value => .error (.textExpected value.kind)

/-- Whether the category that a value names is on, and the diagnostics after the question. -/
def askFor (d : Diagnostics) (category : MessageArg) : Except Fault Bool × Diagnostics :=
  (d.current.isEnabledFor category, d.remember)

/-- The line that a message prints on an outlet if its category is on, and the diagnostics after the
question. -/
def report (d : Diagnostics) (outlet : Outlet) (category message : MessageArg)
    (args : List MessageArg) : Except Fault (Option Text) × Diagnostics :=
  let (on, d) := d.askFor category
  (do
    if ← on then
      let text ← Message.text message args
      let line := Categories.line (← category.written) text
      match outlet.refusal? line with
      | none => return some line
      | some fault => throw fault
    else return none, d)

end Diagnostics

end Chip8
