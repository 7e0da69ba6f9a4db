/-
  Floating-point numbers in decimal: a fixed number of places, and the fewest digits that read
  back as the same number.
-/
import Chip8.Binary64.Basic
import Chip8.Text.Numeral

namespace Chip8.Binary64

def signText (negative : Bool) : String := if negative then "-" else ""

/-- Decimal digits with `places` of them after the point. -/
def pointed (digits : List Char) (places : Nat) : List Char :=
  let padded := List.replicate (places + 1 - digits.length) '0' ++ digits
  let whole := padded.take (padded.length - places)
  if places = 0 then whole else whole ++ '.' :: padded.drop (padded.length - places)

/-- Rounded to `places` decimals, a half to the even digit. -/
def fixed (places : Nat) : Binary64 → String
  | finite s m e =>
    let (a, b) := fraction m e
    let digits := Nat.toDigits 10 (roundHalfEven (a * tenTo places) b)
    signText s ++ String.ofList (pointed digits places)
  | infinite s => signText s ++ "inf"
  | nan => "nan"

/-- The power of ten at or below `num / den`, for a positive fraction. -/
def decimalExponent (num den : Nat) : Int :=
  let guess : Int := (Nat.toDigits 10 num).length - (Nat.toDigits 10 den).length
  let reached : Bool :=
    if guess < 0 then decide (den ≤ num * tenTo guess.natAbs)
    else decide (den * tenTo guess.natAbs ≤ num)
  if reached then guess else guess - 1

/-- The quotient `num / den`, divided by `10 ^ exponent`, as a fraction. -/
def tenScaled (num den : Nat) (exponent : Int) : Nat × Nat :=
  if exponent < 0 then (num * tenTo exponent.natAbs, den) else (num, den * tenTo exponent.natAbs)

/-- Whether the decimal `c · 10 ^ exponent` rounds to the positive number `m · 2 ^ e`: it lies
within half the gap to the next number on its side, the ends belonging to an even mantissa. -/
def readsBack (m : Nat) (e : Int) (c : Nat) (exponent : Int) : Bool :=
  -- in quarters of the last place of the mantissa
  let (a, b) := fraction (4 * m) e
  let (x, y) := if exponent < 0 then (4 * c, tenTo exponent.natAbs)
    else (4 * c * tenTo exponent.natAbs, 1)
  let (unit, unitDen) := fraction 1 e
  -- compare x / y with a / b, the distances in units of `unit / unitDen`
  let left := x * b * unitDen
  let right := a * y * unitDen
  let half := 2 * unit * y * b
  let below := if m = twoTo 52 ∧ leastExponent < e then unit * y * b else half
  let closed := m % 2 == 0
  if left < right then
    let gap := right - left
    decide (gap < below) || (closed && gap == below)
  else
    let gap := left - right
    decide (gap < half) || (closed && gap == half)

/-- The decimal with `count` digits that reads back as `m · 2 ^ e`, if there is one: the nearer
of the two neighbours on the grid. -/
def withDigits? (m : Nat) (e : Int) (count : Nat) : Option (Nat × Int) :=
  let (a, b) := fraction m e
  let grid := decimalExponent a b - (count : Int) + 1
  let (n, d) := tenScaled a b grid
  let q := n / d
  let nearer := roundHalfEven n d
  let other := if nearer = q then q + 1 else q
  if readsBack m e nearer grid then some (nearer, grid)
  else if readsBack m e other grid then some (other, grid)
  else none

/-- The fewest decimal digits that read back as `m · 2 ^ e`, with their exponent of ten. -/
def fewestDigits (m : Nat) (e : Int) : Nat × Int :=
  ((List.range 17).findSome? fun k => withDigits? m e (k + 1)).getD (m, 0)

/-- Without the zeros at the end. -/
def dropZeros (digits : List Char) : List Char :=
  (digits.reverse.dropWhile (· == '0')).reverse

/-- The shortest decimal text that reads back. The point is written out for numbers from
`1e-4` up to `1e16`; beyond, the exponent has a sign and at least two digits. -/
def shortest : Binary64 → String
  | infinite s => signText s ++ "inf"
  | nan => "nan"
  | finite s m e =>
    if m = 0 then signText s ++ "0.0"
    else
      let (n, grid) := fewestDigits m e
      let all := Nat.toDigits 10 n
      let digits := dropZeros all
      let power := grid + (all.length : Int) - 1
      signText s ++ String.ofList (
        if power < -4 ∨ 16 ≤ power then
          let tail := digits.drop 1
          digits.take 1 ++ (if tail.isEmpty then [] else '.' :: tail) ++
            ['e', if power < 0 then '-' else '+'] ++
            ({ zeros := true, width := 2 : NumeralStyle }.write power.natAbs)
        else if power < 0 then
          "0.".toList ++ List.replicate (power.natAbs - 1) '0' ++ digits
        else
          let whole := power.toNat + 1
          let filled := digits ++ List.replicate (whole - digits.length) '0'
          let rest := filled.drop whole
          filled.take whole ++ '.' :: (if rest.isEmpty then ['0'] else rest))

end Chip8.Binary64
