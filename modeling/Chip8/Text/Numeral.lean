/-
  Integers as text. Writing: digits in a base, an optional base mark, a sign, and padding to a
  total width that counts the sign and the mark. Reading: an optional sign, an optional mark in
  base sixteen, and digits of any script that single underscores may separate.
-/
import Chip8.Text.Blank
import Chip8.Text.Digit

namespace Chip8

/-- How an integer is written. -/
structure NumeralStyle where
  base : Nat := 10
  upper : Bool := false
  /-- Put the base mark (such as `0x`) before the digits. -/
  marked : Bool := false
  /-- Fill up with zeros after the sign and the mark, not with blanks before them. -/
  zeros : Bool := false
  width : Nat := 0
deriving DecidableEq, Repr

namespace NumeralStyle

/-- The digits of a natural number, most significant first. -/
def digits (style : NumeralStyle) (n : Nat) : List Char :=
  let ds := Nat.toDigits style.base n
  if style.upper then ds.map Char.toUpper else ds

def mark (style : NumeralStyle) : List Char :=
  if !style.marked then []
  else match style.base with
    | 16 => ['0', if style.upper then 'X' else 'x']
    | 8 => ['0', 'o']
    | 2 => ['0', 'b']
    | _ => []

def write (style : NumeralStyle) (n : Int) : List Char :=
  let sign := if n < 0 then ['-'] else []
  let front := sign ++ style.mark
  let ds := style.digits n.natAbs
  let fill := style.width - (front.length + ds.length)
  if style.zeros then front ++ List.replicate fill '0' ++ ds
  else List.replicate fill ' ' ++ front ++ ds

end NumeralStyle

namespace Numeral

/-- Lower-case hexadecimal, filled up with zeros to `width`. -/
def hex (width : Nat) (n : Int) : String :=
  String.ofList ({ base := 16, zeros := true, width := width : NumeralStyle }.write n)

/-- Upper-case hexadecimal, filled up with zeros to `width`. -/
def hexUpper (width : Nat) (n : Int) : String :=
  String.ofList
    ({ base := 16, upper := true, zeros := true, width := width : NumeralStyle }.write n)

/-- Lower-case hexadecimal with its mark, `width` in all. -/
def hexMarked (width : Nat) (n : Int) : String :=
  String.ofList
    ({ base := 16, marked := true, zeros := true, width := width : NumeralStyle }.write n)

/-- Decimal numerals longer than this are neither read nor written. -/
def decimalDigitLimit : Nat := 4300

/-- A number in decimal digits, unless there are too many of them. -/
def decimal? (n : Int) : Option String :=
  let style : NumeralStyle := {}
  if decimalDigitLimit < (style.digits n.natAbs).length then none
  else some (String.ofList (style.write n))

/-- Digits that single underscores may separate. -/
def readDigits (base : Nat) : List Char → Option (List Nat)
  | [] => none
  | [c] => (Text.digitBelow? base c).map ([·])
  | c :: '_' :: rest => do
    let d ← Text.digitBelow? base c
    return d :: (← readDigits base rest)
  | c :: rest => do
    let d ← Text.digitBelow? base c
    return d :: (← readDigits base rest)

/-- Without a leading `0x` (and one underscore after it). -/
def dropMark : List Char → List Char
  | '0' :: 'x' :: '_' :: rest => rest
  | '0' :: 'X' :: '_' :: rest => rest
  | '0' :: 'x' :: rest => rest
  | '0' :: 'X' :: rest => rest
  | rest => rest

def readNatural (base : Nat) (cs : List Char) : Option Nat := do
  let ds ← readDigits base (if base == 16 then dropMark cs else cs)
  if base == 10 && ds.length > decimalDigitLimit then none
  else some (ds.foldl (fun value d => value * base + d) 0)

/-- The ASCII character that a code point counts as: a decimal digit of any script as that digit,
a blank beyond ASCII as a space, and all else beyond ASCII as a character that no integer has. -/
def plain (p : CodePoint) : Char :=
  if p.isAscii then Char.ofNat p.code
  else if Text.isBlank p then ' '
  else match Text.decimalDigit? p with
    | some d => Nat.digitChar d
    | none => '?'

/-- An integer between optional blanks. The separators of ASCII are no blanks here. -/
def read (base : Nat) (text : Text) : Option Int :=
  match Text.trimWhere Text.isAsciiBlank (text.map plain) with
  | '-' :: cs => (readNatural base cs).map fun n => -(n : Int)
  | '+' :: cs => (readNatural base cs).map fun n => (n : Int)
  | cs => (readNatural base cs).map fun n => (n : Int)

end Numeral

end Chip8
