/-
  Floating-point numbers in decimal with a chosen number of digits, rounded half to even from the
  exact value: with so many digits after the point, with a power of ten, or in the form of the
  two that suits the size of the number. Signs are left to the caller.
-/
import Chip8.Binary64.Decimal
import Chip8.Limits

namespace Chip8

inductive DecimalForm where
  /-- All digits before the point, so many after it. -/
  | fixed
  /-- One digit before the point, so many after it, and a power of ten. -/
  | scientific
  /-- So many digits in all, with a power of ten where that power is far from zero. -/
  | general
deriving DecidableEq, Repr

/-- The digits that a precision asks for, six where there is none. The scientific form counts the
digit before the point as well; where that count is beyond a 32-bit integer, none is left behind
the point. -/
def DecimalForm.digits (form : DecimalForm) (precision : Option Nat) : Nat :=
  match form, precision with
  | .scientific, some n => if n = greatestShortCount then 0 else n
  | _, precision => precision.getD 6

structure DecimalStyle where
  form : DecimalForm
  digits : Nat := 6
  /-- Write the point in every case, and keep the zeros at the end of the general form. -/
  marked : Bool := false
  upper : Bool := false
deriving DecidableEq, Repr

namespace Binary64

/-- The fraction `num / den` in `count` significant digits: an integer and its exponent of
ten. -/
def significant (count num den : Nat) : Nat × Int :=
  let grid := decimalExponent num den - (count : Int) + 1
  let (n, d) := tenScaled num den grid
  let c := roundHalfEven n d
  if c = tenTo count then (tenTo (count - 1), grid + 1) else (c, grid)

/-- The most digits behind the point of a multiple of `2 ^ e`. Halving a number adds one digit. -/
def places (e : Int) : Nat := (-e).toNat

/-- The first `count` digits of `m · 2 ^ e`, and the power of ten of the first of them. Fewer
digits are the exact number. -/
def leadingDigits (count m : Nat) (e : Int) : List Char × Int :=
  if m = 0 then (['0'], 0)
  else
    let (a, b) := fraction m e
    let count := min count (decimalExponent a b + 1 + places e).toNat
    let (c, grid) := significant count a b
    (Nat.toDigits 10 c, grid + (count : Int) - 1)

/-- Digits with zeros behind them, `count` in all. -/
def filledUp (count : Nat) (digits : List Char) : List Char :=
  digits ++ List.replicate (count - digits.length) '0'

end Binary64

namespace DecimalStyle

open Binary64

/-- A point with digits behind it; without any, a point only where it is to be written. -/
def tail (s : DecimalStyle) (digits : List Char) : List Char :=
  if digits.isEmpty && !s.marked then [] else '.' :: digits

/-- A power of ten with its sign and at least two digits. -/
def power (s : DecimalStyle) (p : Int) : List Char :=
  (if s.upper then 'E' else 'e') :: (if p < 0 then '-' else '+') ::
    ({ zeros := true, width := 2 : NumeralStyle }.write p.natAbs)

def withPower (s : DecimalStyle) (digits : List Char) (p : Int) : List Char :=
  digits.take 1 ++ s.tail (digits.drop 1) ++ s.power p

/-- Digits with the point in its place, the first digit being worth `10 ^ p`. -/
def positional (s : DecimalStyle) (digits : List Char) (p : Int) : List Char :=
  if p < 0 then '0' :: s.tail (List.replicate (p.natAbs - 1) '0' ++ digits)
  else
    let whole := p.toNat + 1
    let before := digits.take whole
    before ++ List.replicate (whole - before.length) '0' ++ s.tail (digits.drop whole)

def writeFixed (s : DecimalStyle) (m : Nat) (e : Int) : List Char :=
  let (a, b) := fraction m e
  let exact := min s.digits (places e)
  let digits := Nat.toDigits 10 (roundHalfEven (a * tenTo exact) b) ++
    List.replicate (s.digits - exact) '0'
  pointed digits s.digits ++ (if s.digits = 0 then s.tail [] else [])

def writeScientific (s : DecimalStyle) (m : Nat) (e : Int) : List Char :=
  let (digits, p) := leadingDigits (s.digits + 1) m e
  s.withPower (filledUp (s.digits + 1) digits) p

/-- The power of ten is written out below `1e-4`, and where it is no less than the number of
digits. -/
def writeGeneral (s : DecimalStyle) (m : Nat) (e : Int) : List Char :=
  let count := max 1 s.digits
  let (digits, p) := leadingDigits count m e
  let digits := if s.marked then filledUp count digits else dropZeros digits
  if p < -4 ∨ (count : Int) ≤ p then s.withPower digits p else s.positional digits p

/-- A number without its sign. -/
def write (s : DecimalStyle) : Binary64 → List Char
  | .infinite _ => if s.upper then ['I', 'N', 'F'] else ['i', 'n', 'f']
  | .nan => if s.upper then ['N', 'A', 'N'] else ['n', 'a', 'n']
  | .finite _ m e =>
    match s.form with
    | .fixed => s.writeFixed m e
    | .scientific => s.writeScientific m e
    | .general => s.writeGeneral m e

end DecimalStyle

end Chip8
