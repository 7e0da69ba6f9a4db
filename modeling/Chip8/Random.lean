/-
  Sources of random bytes: a script, which gives zeros after its end, and a seeded generator.
-/
import Chip8.Fault
import Chip8.Random.MersenneTwister
import Chip8.Setting

namespace Chip8

inductive RandomSource where
  | script (bytes : List Byte)
  | seeded (generator : MersenneTwister)
deriving DecidableEq, Repr

namespace RandomSource

/-- The generator of a seed; without a seed, the given bytes. -/
def ofSeed (seed : Setting Int) (unseeded : List Byte) : Except Fault RandomSource :=
  match seed with
  | .absent => .ok (script unseeded)
  | .blank => .error .blankSeed
  | .value n => .ok (seeded (MersenneTwister.ofSeed n))

/-- The next byte and the source after it. -/
def next : RandomSource → Byte × RandomSource
  | script [] => (0, script [])
  | script (b :: rest) => (b, script rest)
  | seeded g => let (b, g) := g.drawByte; (b, seeded g)

/-- The byte at a position of the stream that the source gives. -/
def byteAt (s : RandomSource) : Nat → Byte
  | 0 => s.next.1
  | k + 1 => byteAt s.next.2 k

/-- The source after some bytes have been taken. -/
def after (s : RandomSource) : Nat → RandomSource
  | 0 => s
  | k + 1 => after s.next.2 k

theorem next_after (s : RandomSource) (k : Nat) : (s.after k).next.1 = s.byteAt k := by
  induction k generalizing s with
  | zero => rfl
  | succ k ih => exact ih s.next.2

end RandomSource

end Chip8
