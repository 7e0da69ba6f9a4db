/-
  One period of a square wave in signed samples: the first half high, the rest low.
-/
import Chip8.Number

namespace Chip8

/-- A square wave by the number of samples in its period. -/
structure SquareWave where
  period : Nat
deriving DecidableEq, Repr

namespace SquareWave

def amplitude : Int := 12000

/-- The wave of a frequency at a sample rate. The period is the nearest whole number of
samples, a half to the even one, and never below two. -/
def ofFrequency (rate frequency : Number) : Except Fault SquareWave := do
  let n ← (Number.real (← Number.div rate frequency)).round
  return ⟨(max 2 n).toNat⟩

/-- The samples as runs of equal ones. -/
def runs (w : SquareWave) : List (Int × Nat) :=
  [(amplitude, w.period / 2), (-amplitude, w.period - w.period / 2)]

end SquareWave

end Chip8
