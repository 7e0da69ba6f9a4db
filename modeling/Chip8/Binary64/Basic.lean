/-
  Binary floating-point numbers with 53 significant bits. A finite number is held as its exact
  value `± mantissa · 2 ^ exponent`, and every operation rounds the exact result once, to
  nearest, ties to the even mantissa. Where there is no result, it is no number (`nan`), and
  nothing is below, above or equal to that.
-/

namespace Chip8

/-- The quotient rounded to the nearest integer, a half to the even one. -/
def roundHalfEven (num den : Nat) : Nat :=
  let q := num / den
  let r := num % den
  if 2 * r < den then q
  else if den < 2 * r then q + 1
  else q + q % 2

theorem roundHalfEven_mul (n : Nat) {d : Nat} (h : 0 < d) : roundHalfEven (n * d) d = n := by
  simp [roundHalfEven, Nat.mul_div_cancel n h, h]

/-- A floating-point number: `± mantissa · 2 ^ exponent`, an infinity, or no number. -/
inductive Binary64 where
  | finite (negative : Bool) (mantissa : Nat) (exponent : Int)
  | infinite (negative : Bool)
  | nan
deriving DecidableEq, Repr, Inhabited

namespace Binary64

def twoTo (n : Nat) : Nat := Nat.pow 2 n

def tenTo (n : Nat) : Nat := Nat.pow 10 n

/-- The quotient `num / den`, divided by `2 ^ exponent`, as a fraction. -/
def scaled (num den : Nat) (exponent : Int) : Nat × Nat :=
  if exponent < 0 then (num * twoTo exponent.natAbs, den) else (num, den * twoTo exponent.natAbs)

/-- The least exponent of a finite number. -/
def leastExponent : Int := -1074

/-- The greatest exponent of a finite number. -/
def greatestExponent : Int := 971

/-- The exponent at which `num / den` has 53 bits before the point, bounded from below. -/
def exponentOf (num den : Nat) : Int :=
  let guess : Int := (Nat.log2 num : Int) - (Nat.log2 den : Int) - 52
  let (n, d) := scaled num den guess
  max (if n < d * twoTo 52 then guess - 1 else guess) leastExponent

/-- The number nearest to `± num / den`. -/
def ofRatio (negative : Bool) (num den : Nat) : Binary64 :=
  if num = 0 then finite negative 0 0
  else
    let e := exponentOf num den
    let (n, d) := scaled num den e
    let m := roundHalfEven n d
    let (m, e) := if m = twoTo 53 then (twoTo 52, e + 1) else (m, e)
    if greatestExponent < e then infinite negative else finite negative m e

/-- The number nearest to an integer. -/
def ofInt (n : Int) : Binary64 := ofRatio (n < 0) n.natAbs 1

/-- A power of ten beyond every number, and whose inverse is nearest to zero. -/
def decimalBound : Int := 400

/-- The number nearest to `± digits · 10 ^ exponent`. Far beyond the bound on either side there is
nothing to work out. -/
def ofDecimal (negative : Bool) (digits : Nat) (exponent : Int) : Binary64 :=
  if digits = 0 ∨ exponent + Nat.log2 digits < -decimalBound then finite negative 0 0
  else if decimalBound < exponent then infinite negative
  else if exponent < 0 then ofRatio negative digits (tenTo exponent.natAbs)
  else ofRatio negative (digits * tenTo exponent.natAbs) 1

def zero : Binary64 := finite false 0 0

def one : Binary64 := ofInt 1

def isNegative : Binary64 → Bool
  | finite s m _ => s && m != 0
  | infinite s => s
  | nan => false

def isZero : Binary64 → Bool
  | finite _ m _ => m == 0
  | _ => false

/-- Whether the sign is negative; zero has a sign too. -/
def isSigned : Binary64 → Bool
  | finite s _ _ => s
  | infinite s => s
  | nan => false

/-- The absolute value of a finite number as a fraction. -/
def fraction (mantissa : Nat) (exponent : Int) : Nat × Nat :=
  if exponent < 0 then (mantissa, twoTo exponent.natAbs) else (mantissa * twoTo exponent.natAbs, 1)

/-- The rounded product. An infinity stays one, except times zero. -/
def mul : Binary64 → Binary64 → Binary64
  | finite s m e, finite t n k =>
    let (a, b) := fraction m e
    let (c, d) := fraction n k
    ofRatio (s != t) (a * c) (b * d)
  | nan, _ => nan
  | _, nan => nan
  | a, b => if a.isZero || b.isZero then nan else infinite (a.isNegative != b.isNegative)

/-- The rounded quotient by anything but zero. -/
def div : Binary64 → Binary64 → Binary64
  | finite s m e, finite t n k =>
    let (a, b) := fraction m e
    let (c, d) := fraction n k
    ofRatio (s != t) (a * d) (b * c)
  | finite s _ _, infinite t => finite (s != t) 0 0
  | infinite s, finite t _ _ => infinite (s != t)
  | _, _ => nan

/-- Whether `a < b`. -/
def lt : Binary64 → Binary64 → Bool
  | finite s m e, finite t n k =>
    let (a, b) := fraction m e
    let (c, d) := fraction n k
    let left : Int := if s then -((a * d : Nat) : Int) else (a * d : Nat)
    let right : Int := if t then -((c * b : Nat) : Int) else (c * b : Nat)
    decide (left < right)
  | infinite s, infinite t => s && !t
  | infinite s, finite _ _ _ => s
  | finite _ _ _, infinite t => !t
  | _, _ => false

/-- Kept between zero and one; what is not below one becomes one. -/
def clampUnit (a : Binary64) : Binary64 :=
  if lt a one then (if lt zero a then a else zero) else one

/-- The nearest integer, a half to the even one, of a finite number. -/
def round? : Binary64 → Option Int
  | finite s m e =>
    let (a, b) := fraction m e
    let n : Int := roundHalfEven a b
    some (if s then -n else n)
  | _ => none

/-- The integer part, cut toward zero, of a finite number. -/
def truncate? : Binary64 → Option Int
  | finite s m e =>
    let (a, b) := fraction m e
    let n : Int := (a / b : Nat)
    some (if s then -n else n)
  | _ => none

end Binary64

end Chip8
