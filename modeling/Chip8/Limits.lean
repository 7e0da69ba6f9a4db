/-
  How large things may be: what counts and indices fit, and how far the addresses of a host reach.
-/

namespace Chip8

/-- The greatest signed 64-bit integer. -/
def greatestIndex : Nat := 9223372036854775807

/-- The greatest signed 32-bit integer. -/
def greatestShortCount : Nat := 2147483647

/-- The number of addresses of 48 bits. Nothing longer is held anywhere, however much memory a host
has. -/
def greatestLength : Nat := 281474976710656

/-- Whether an integer lies between a limit and its opposite, which may be one greater. -/
def isWithin (greatest : Nat) (n : Int) : Bool := -greatest - 1 ≤ n && n ≤ greatest

/-- Whether an index fits a signed 64-bit integer. -/
def isMachineIndex (index : Int) : Bool := isWithin greatestIndex index

theorem isWithin_iff {greatest : Nat} {n : Int} :
    isWithin greatest n = true ↔ -(greatest : Int) - 1 ≤ n ∧ n ≤ greatest := by
  simp [isWithin]

theorem isMachineIndex_iff {index : Int} :
    isMachineIndex index = true ↔ -(greatestIndex : Int) - 1 ≤ index ∧ index ≤ greatestIndex :=
  isWithin_iff

end Chip8
