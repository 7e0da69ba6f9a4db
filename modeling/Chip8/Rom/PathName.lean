/-
  Names of files: parts between slashes. Empty parts and single dots say nothing and are left
  out; a double dot stays, since it leads up from wherever the parts before it lead. A place is a
  name with double dots only at its start: every name leads to one place.
-/
import Chip8.Text

namespace Chip8

structure PathName where
  /-- The slashes that the name starts from: none, one, or exactly two. -/
  root : Text := []
  parts : List Text := []
deriving DecidableEq, Repr, Inhabited

namespace PathName

/-- The part that leads up. -/
def up : Text := ".."

/-- The parts of a text that say something. -/
def partsOf (text : Text) : List Text :=
  let parts : List Text := text.splitOn '/'
  parts.filter fun part => part != "" && part != "."

def parse (text : Text) : PathName :=
  let slashes := (text.takeWhile fun p => p == CodePoint.char '/').length
  let root : Text := if slashes = 0 then "" else if slashes = 2 then "//" else "/"
  ⟨root, partsOf text⟩

/-- The name as it is shown; one that says nothing is a dot. -/
def text (p : PathName) : Text :=
  let joined := p.root ++ Text.joinWith "/" p.parts
  if joined.isEmpty then "." else joined

/-- The place that a name starts from: the root of all files, or here. -/
def start (p : PathName) : PathName := if p.root.isEmpty then {} else { root := "/" }

/-- Whether a place is here, above here, or the root of all files. -/
def isAbove (place : PathName) : Bool := place.parts.all (· == up)

/-- The place one part below a place. -/
def below (place : PathName) (part : Text) : PathName :=
  { place with parts := place.parts ++ [part] }

/-- The directory that a place is in. There is nothing above the root of all files. -/
def above (place : PathName) : PathName :=
  if !place.isAbove then { place with parts := place.parts.dropLast }
  else if place.root.isEmpty then place.below up
  else place

theorem above_below (place : PathName) {part : Text} (h : part ≠ up) :
    (place.below part).above = place := by
  have hb : (place.below part).isAbove = false := by simp [isAbove, below, h]
  unfold above
  rw [hb]
  simp [below]

end PathName

end Chip8
