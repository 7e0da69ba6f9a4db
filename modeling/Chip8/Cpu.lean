/-
  The registers of the processor and the instructions that touch nothing else. Addresses and
  timers are integers, as they may be set to anything from outside; what the instructions put
  there wraps at sixteen bits.
-/
import Chip8.Position

namespace Chip8

structure Cpu where
  v : Vector Byte 16 := Vector.replicate 16 0
  i : Int := 0
  pc : Int := 0x200
  /-- The number of calls to return from; it names the stack slot of the next call. -/
  sp : Int := 0
  stack : Vector Int 16 := Vector.replicate 16 0
  delay : Int := 0
  sound : Int := 0
deriving DecidableEq, Repr, Inhabited

namespace Cpu

def get (c : Cpu) (r : Register) : Byte := readCell c.v r

def set (c : Cpu) (r : Register) (b : Byte) : Cpu := { c with v := writeCell c.v r b }

/-- To the next instruction. -/
def advance (c : Cpu) : Cpu := { c with pc := wrap16 (c.pc + 2) }

/-- To the instruction before. -/
def rewind (c : Cpu) : Cpu := { c with pc := wrap16 (c.pc - 2) }

/-- Passes over the next instruction under a condition. -/
def skipIf (c : Cpu) (condition : Bool) : Cpu := if condition then c.advance else c

def jump (c : Cpu) (address : Nat) : Cpu := { c with pc := address }

/-- Puts the address of the next instruction into the stack slot and goes to `address`. Without
a slot nothing changes. -/
def call (c : Cpu) (address : Nat) : Except Fault Cpu := do
  let slot ← cellAt 16 c.sp .stackWrite
  return { c with
    stack := writeCell c.stack slot (wrap16 (c.pc + 2)), sp := c.sp + 1, pc := address }

/-- Goes back to the address in the stack slot below. The stack pointer moves even when there
is no such slot. -/
def ret : Act Cpu Unit := fun c =>
  let c := { c with sp := c.sp - 1 }
  match cellAt 16 c.sp .stackRead with
  | .ok slot => .ok () { c with pc := readCell c.stack slot }
  | .error e => .error e c

/-- Adds two registers; the flag register tells the carry. -/
def add (c : Cpu) (x y : Register) : Cpu :=
  let a := c.get x
  let b := c.get y
  (c.set flagRegister (if 255 < a.toNat + b.toNat then 1 else 0)).set x (a + b)

/-- Subtracts two registers; the flag register tells whether the first is the greater. -/
def subtract (c : Cpu) (x y : Register) : Cpu :=
  let a := c.get x
  let b := c.get y
  (c.set flagRegister (if b < a then 1 else 0)).set x (a - b)

/-- Halves a register; the flag register receives the bit shifted out. -/
def shiftRight (c : Cpu) (x : Register) : Cpu :=
  let a := c.get x
  (c.set flagRegister (a &&& 1)).set x (a >>> 1)

def loadIndex (c : Cpu) (address : Nat) : Cpu := { c with i := address }

def addIndex (c : Cpu) (x : Register) : Cpu := { c with i := wrap16 (c.i + (c.get x).toNat) }

/-- Points the index at a register's glyph. -/
def pointAtGlyph (c : Cpu) (x : Register) : Cpu :=
  { c with i := wrap16 ((c.get x).toNat * 5 : Nat) }

/-- Puts the delay timer into a register, which holds bytes only. -/
def readDelay (c : Cpu) (x : Register) : Except Fault Cpu :=
  if 0 ≤ c.delay ∧ c.delay < 256 then .ok (c.set x (Byte.ofInt c.delay)) else .error .cellValue

def setDelay (c : Cpu) (x : Register) : Cpu := { c with delay := (c.get x).toNat }

def setSound (c : Cpu) (x : Register) : Cpu := { c with sound := (c.get x).toNat }

/-- Counts a timer down to zero. -/
def countDown (timer : Int) : Int := if 0 < timer then timer - 1 else timer

def tick (c : Cpu) : Cpu := { c with delay := countDown c.delay, sound := countDown c.sound }

/-- Sets a register from outside, by an index from either end. The value must be a byte, which is
looked at before the register is. -/
def assign (c : Cpu) (index value : Int) : Except Fault Cpu :=
  if !isMachineIndex index then .error .indexTooWide
  else if 0 ≤ value ∧ value < 256 then do
    return c.set (← cellAt 16 index .cellIndex) (Byte.ofInt value)
  else .error .cellValue

/-- Sets a stack slot from outside. -/
def assignStack (c : Cpu) (index value : Int) : Except Fault Cpu := do
  let slot ← cellAt 16 index .stackWrite
  return { c with stack := writeCell c.stack slot value }

theorem get_set (c : Cpu) (r s : Register) (b : Byte) :
    (c.set r b).get s = if r = s then b else c.get s := readCell_writeCell c.v r s b

theorem get_set_same (c : Cpu) (r : Register) (b : Byte) : (c.set r b).get r = b := by
  rw [get_set, if_pos rfl]

theorem get_set_ne (c : Cpu) {r s : Register} (b : Byte) (h : r ≠ s) :
    (c.set r b).get s = c.get s := by
  rw [get_set, if_neg h]

end Cpu

end Chip8
