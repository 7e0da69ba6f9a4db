/-
  Numbers as settings give them: whole ones of any size, and real ones. Whole numbers are worked
  with exactly. Where a whole and a real number meet, the whole one becomes real first, which it
  cannot beyond the greatest real number. A real number becomes whole only if it is finite.
-/
import Chip8.Binary64.Basic
import Chip8.Fault

namespace Chip8

inductive Number where
  | whole (n : Int)
  | real (x : Binary64)
deriving DecidableEq, Repr

namespace Number

/-- The real number one. -/
def one : Number := real Binary64.one

def toReal : Number → Except Fault Binary64
  | whole n =>
    match Binary64.ofInt n with
    | .infinite _ => .error .numberTooLarge
    | x => .ok x
  | real x => .ok x

/-- Why a real number has no integer. -/
def notWhole : Binary64 → Fault
  | .nan => .undefinedNumber
  | _ => .infiniteNumber

/-- The nearest integer, a half to the even one. -/
def round : Number → Except Fault Int
  | whole n => .ok n
  | real x => x.round?.elim (.error (notWhole x)) .ok

/-- The integer part, cut toward zero. -/
def truncate : Number → Except Fault Int
  | whole n => .ok n
  | real x => x.truncate?.elim (.error (notWhole x)) .ok

def mul : Number → Number → Except Fault Number
  | whole a, whole b => .ok (whole (a * b))
  | a, b => do return real (Binary64.mul (← a.toReal) (← b.toReal))

/-- The quotient by anything but zero. -/
def div : Number → Number → Except Fault Binary64
  | whole a, whole b =>
    match Binary64.ofRatio (a < 0) a.natAbs b.natAbs with
    | .infinite _ => .error .quotientTooLarge
    | x => .ok x
  | a, b => do return Binary64.div (← a.toReal) (← b.toReal)

/-- Whether a number is zero or below. -/
def isAtMostZero : Number → Bool
  | whole n => decide (n ≤ 0)
  | real x => x.isNegative || x.isZero

/-- Kept between zero and one. -/
def clampUnit : Number → Binary64
  | whole n => if 0 < n then Binary64.one else Binary64.zero
  | real x => x.clampUnit

/-- The name of the kind of a number. -/
def kind : Number → String
  | whole _ => "int"
  | real _ => "float"

end Number

end Chip8
