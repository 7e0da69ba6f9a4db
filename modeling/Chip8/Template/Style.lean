/-
  The style behind the colon of a field, as `#04x` or `*>8,`: in this order a fill character and
  an alignment, a sign, `z`, `#`, `0`, a width, a grouping mark, a precision and a code letter,
  each of which may be missing.
-/
import Chip8.Limits
import Chip8.Template.Fault

namespace Chip8

inductive Alignment where
  | left
  | right
  | center
  /-- Filled up between the sign and the digits. -/
  | afterSign
deriving DecidableEq, Repr

def Alignment.ofMark? : CodePoint → Option Alignment
  | .char '<' => some left
  | .char '>' => some right
  | .char '^' => some center
  | .char '=' => some afterSign
  | _ => none

/-- What stands between groups of digits. -/
inductive Grouping where
  | comma
  | underscore
deriving DecidableEq, Repr

def Grouping.mark : Grouping → Char
  | comma => ','
  | underscore => '_'

structure FieldStyle where
  fill : CodePoint := ' '
  align : Alignment := .right
  sign : Option CodePoint := none
  /-- Write a negative zero without its sign. -/
  positiveZero : Bool := false
  marked : Bool := false
  width : Nat := 0
  grouping : Option Grouping := none
  precision : Option Nat := none
  code : Option CodePoint := none
deriving DecidableEq, Repr

namespace FieldStyle

/-- The value of decimal digits of any script, unless it is too large for a style. -/
def numberOf (digits : Text) : Except TemplateFault Nat :=
  let n := digits.foldl (fun value p => value * 10 + (Text.decimalDigit? p).getD 0) 0
  if n ≤ greatestIndex then .ok n else .error .numberTooLong

def isDigit (p : CodePoint) : Bool := (Text.decimalDigit? p).isSome

/-- The number at the front, which may have no digits, and the rest. -/
def readNumber (text : Text) : Except TemplateFault (Option Nat × Text) :=
  match text.takeWhile isDigit with
  | [] => .ok (none, text)
  | digits => (numberOf digits).map fun n => (some n, text.dropWhile isDigit)

/-- The fill character and the alignment at the front, and the rest. -/
def readAlignment (text : Text) : Option CodePoint × Option Alignment × Text :=
  match text.drop 1 |>.head? |>.bind Alignment.ofMark? with
  | some a => (text.head?, some a, text.drop 2)
  | none =>
    match text.head?.bind Alignment.ofMark? with
    | some a => (none, some a, text.drop 1)
    | none => (none, none, text)

/-- The first code point, if it is one of those wanted, and the rest. -/
def readOne (wanted : CodePoint → Bool) (text : Text) : Option CodePoint × Text :=
  match text.head?.filter wanted with
  | some p => (some p, text.drop 1)
  | none => (none, text)

/-- The grouping mark at the front, and the rest. -/
def readGrouping (text : Text) : Except TemplateFault (Option Grouping × Text) :=
  match text with
  | .char ',' :: .char '_' :: _ => .error .groupedTwice
  | .char '_' :: .char ',' :: _ => .error .groupedTwice
  | .char ',' :: rest => .ok (some .comma, rest)
  | .char '_' :: rest => .ok (some .underscore, rest)
  | _ => .ok (none, text)

/-- The precision behind a point at the front, and the rest. -/
def readPrecision (text : Text) : Except TemplateFault (Option Nat × Text) :=
  match text with
  | .char '.' :: rest => do
    let (n, rest) ← readNumber rest
    if n.isNone then throw .precisionMissing
    return (n, rest)
  | _ => .ok (none, text)

/-- Whether digits written by a code may be grouped by a mark. The null character, which is the
code of nothing, is let through here and refused where the value is written. -/
def isGroupable (mark : Grouping) (code : CodePoint) : Bool :=
  ("defgEFG%\x00" : Text).contains code ||
    (mark == .underscore && ("boxX" : Text).contains code)

/-- Refuses a grouping that the code does not allow. Text has the code `s` by default, and a
number `d`. -/
def checkGrouping (k : FieldKind) (s : FieldStyle) : Except TemplateFault Unit :=
  let code : CodePoint := s.code.getD (if k == .text then 's' else 'd')
  match s.grouping with
  | some mark => if isGroupable mark code then .ok () else .error (.groupingUnfit mark.mark code)
  | none => .ok ()

/-- The style of a field that is written from a value of the given kind. A number is put to the
right and text to the left, and a zero before the width fills up with zeros, after the sign if
it is a number. -/
def ofText (k : FieldKind) (text : Text) : Except TemplateFault FieldStyle := do
  let (fill, align, rest) := readAlignment text
  let (sign, rest) := readOne (fun p => p == '+' || p == '-' || p == ' ') rest
  let (positive, rest) := readOne (· == 'z') rest
  let (mark, rest) := readOne (· == '#') rest
  let (zero, rest) := if fill.isSome then (none, rest) else readOne (· == '0') rest
  let (width, rest) ← readNumber rest
  let (grouping, rest) ← readGrouping rest
  let (precision, rest) ← readPrecision rest
  if 1 < rest.length then throw (.invalidStyle text k)
  let natural : Alignment :=
    if k == .text then .left else if zero.isSome then .afterSign else .right
  let style : FieldStyle :=
    { fill := fill.getD (zero.getD ' '), align := align.getD natural, sign
      positiveZero := positive.isSome, marked := mark.isSome, width := width.getD 0, grouping
      precision, code := rest.head? }
  checkGrouping k style
  return style

end FieldStyle

end Chip8
