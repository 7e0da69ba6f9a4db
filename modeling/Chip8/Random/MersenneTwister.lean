/-
  The Mersenne Twister with 624 words of state, seeded from a list of words.
-/

namespace Chip8

structure MersenneTwister where
  words : Array UInt32
  /-- The next word to give out. -/
  next : Nat
deriving DecidableEq, Repr

namespace MersenneTwister

/-- The number of words of the state. -/
def size : Nat := 624

/-- The distance between the words that are combined. -/
def shift : Nat := 397

/-- The state of a single-word seed: each word is a scrambled predecessor plus its index. -/
def ofWord (seed : UInt32) : Array UInt32 :=
  (List.range (size - 1)).foldl
    (fun (words : Array UInt32) k =>
      let last : UInt32 := words.getD k 0
      words.push ((1812433253 : UInt32) * (last ^^^ (last >>> 30)) + UInt32.ofNat (k + 1)))
    #[seed]

/-- A pass over the state: the word at each index is mixed with its predecessor. Index zero
takes over the last word and is passed by. -/
structure Pass where
  words : Array UInt32
  place : Nat := 1

def Pass.predecessor (p : Pass) : UInt32 := p.words.getD (p.place - 1) 0

def Pass.put (p : Pass) (word : UInt32) : Pass :=
  let words := p.words.setIfInBounds p.place word
  if p.place + 1 < size then ⟨words, p.place + 1⟩
  else ⟨words.setIfInBounds 0 (words.getD (size - 1) 0), 1⟩

def Pass.mixed (p : Pass) (factor : UInt32) : UInt32 :=
  let before := p.predecessor
  p.words.getD p.place 0 ^^^ ((before ^^^ (before >>> 30)) * factor)

/-- The generator of a key, a list with at least one word. -/
def ofKey (key : List UInt32) : MersenneTwister :=
  let count := max size key.length
  let keyed := (List.range count).foldl
    (fun (p : Pass) k =>
      let j := k % key.length
      p.put (p.mixed 1664525 + key.getD j 0 + UInt32.ofNat j))
    { words := ofWord 19650218 }
  let stirred := (List.range (size - 1)).foldl
    (fun (p : Pass) _ => p.put (p.mixed 1566083941 - UInt32.ofNat p.place)) keyed
  ⟨stirred.words.setIfInBounds 0 0x80000000, size⟩

/-- One word of the next state. -/
def twisted (words : Array UInt32) (k : Nat) : UInt32 :=
  let y := (words.getD k 0 &&& 0x80000000) ||| (words.getD ((k + 1) % size) 0 &&& 0x7fffffff)
  words.getD ((k + shift) % size) 0 ^^^ (y >>> 1) ^^^ (if y &&& 1 == 0 then 0 else 0x9908b0df)

/-- The next state, each word computed from the words before it already renewed. -/
def twist (words : Array UInt32) : Array UInt32 :=
  (List.range size).foldl (fun words k => words.setIfInBounds k (twisted words k)) words

/-- A word as it is given out. -/
def temper (y : UInt32) : UInt32 :=
  let y := y ^^^ (y >>> 11)
  let y := y ^^^ ((y <<< 7) &&& 0x9d2c5680)
  let y := y ^^^ ((y <<< 15) &&& 0xefc60000)
  y ^^^ (y >>> 18)

/-- The next 32 bits. -/
def draw (g : MersenneTwister) : UInt32 × MersenneTwister :=
  let g := if g.next < size then g else ⟨twist g.words, 0⟩
  (temper (g.words.getD g.next 0), { g with next := g.next + 1 })

/-- The digits of a number in base 2³², least significant first; zero has one digit. -/
def wordDigits (n : Nat) : List UInt32 :=
  if n < 4294967296 then [UInt32.ofNat n]
  else UInt32.ofNat (n % 4294967296) :: wordDigits (n / 4294967296)

/-- The generator of an integer seed, whose sign does not count. -/
def ofSeed (seed : Int) : MersenneTwister := ofKey (wordDigits seed.natAbs)

/-- The first of the next draws, of at most `tries`, whose top nine bits are a byte. -/
def drawByteWithin : Nat → MersenneTwister → BitVec 8 × MersenneTwister
  | 0, g => (0, g)
  | tries + 1, g =>
    let (word, g) := g.draw
    let value := (word >>> 23).toNat
    if value < 256 then (BitVec.ofNat 8 value, g) else drawByteWithin tries g

/-- Draws that are passed over before a byte is given up; about half of all draws serve. -/
def tryLimit : Nat := 20000

/-- A random byte: the top nine bits of a draw, drawn again while they are above a byte. -/
def drawByte (g : MersenneTwister) : BitVec 8 × MersenneTwister := drawByteWithin tryLimit g

end MersenneTwister

end Chip8
