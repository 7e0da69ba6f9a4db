/-
  Settings that may be left out, or be given without a value.
-/

namespace Chip8

inductive Setting (α : Type) where
  | absent
  /-- Given, but without a value. -/
  | blank
  | value (a : α)
deriving DecidableEq, Repr, Inhabited

namespace Setting

def isAbsent {α : Type} : Setting α → Bool
  | absent => true
  | _ => false

/-- The value, or a default where the setting is left out; a blank one is a fault. -/
def get {α ε : Type} (default : α) (fault : ε) : Setting α → Except ε α
  | absent => .ok default
  | blank => .error fault
  | value a => .ok a

end Setting

end Chip8
