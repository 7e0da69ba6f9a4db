/-
  Positions in a row of cells named by any integer: from the front by 0, 1, …, from the back by
  -1, -2, …; and spans between two such bounds, which are cut to the row instead of refused.
-/
import Chip8.Fault
import Chip8.Limits

namespace Chip8

/-- The cell that an index names, if there is one. -/
def cell? (size : Nat) (index : Int) : Option (Fin size) :=
  let place := if index < 0 then index + size else index
  if h : 0 ≤ place ∧ place < size then some ⟨place.toNat, by omega⟩ else none

/-- Refuses the size of a row that no host can address. -/
def checkSize (size : Int) : Except Fault Unit :=
  if !isMachineIndex size then .error .sizeTooWide
  else if greatestLength < size then .error .outOfMemory
  else .ok ()

/-- The cell that an index names, with `fault` where there is none. -/
def cellAt (size : Nat) (index : Int) (fault : Fault) : Except Fault (Fin size) :=
  if isMachineIndex index then
    match cell? size index with
    | some place => .ok place
    | none => .error fault
  else .error .indexTooWide

/-- A bound of a span: counted from the back if negative, then cut to the row. -/
def bound (size : Nat) (index : Int) : Nat :=
  if index < 0 then (index + size).toNat else min index.toNat size

/-- The start and the length of the span from `start` up to `stop`. -/
def span (size : Nat) (start stop : Int) : Nat × Nat :=
  (bound size start, bound size stop - bound size start)

/-- One cell of a row. -/
def readCell {α : Type} {size : Nat} (row : Vector α size) (place : Fin size) : α := row[place]

/-- A row with one cell changed. -/
def writeCell {α : Type} {size : Nat} (row : Vector α size) (place : Fin size) (value : α) :
    Vector α size :=
  row.set place value place.isLt

theorem readCell_writeCell {α : Type} {size : Nat} (row : Vector α size) (p q : Fin size)
    (value : α) :
    readCell (writeCell row p value) q = if p = q then value else readCell row q := by
  by_cases h : p = q
  · subst h; simp [readCell, writeCell]
  · have : p.val ≠ q.val := fun e => h (Fin.ext e)
    simp [readCell, writeCell, h, this]

theorem cell?_of_nonneg {size : Nat} {index : Int} (h : 0 ≤ index) (h' : index < size) :
    cell? size index = some ⟨index.toNat, by omega⟩ := by
  have hneg : ¬ index < 0 := by omega
  simp [cell?, hneg, h, h']

theorem cell?_isSome_iff {size : Nat} {index : Int} :
    (cell? size index).isSome ↔ -(size : Int) ≤ index ∧ index < size := by
  unfold cell?
  by_cases hneg : index < 0 <;> simp only [hneg, if_true, if_false] <;>
    split <;> simp <;> omega

theorem cell?_eq_none_iff {size : Nat} {index : Int} :
    cell? size index = none ↔ index < -(size : Int) ∨ (size : Int) ≤ index := by
  rw [← Option.not_isSome_iff_eq_none, cell?_isSome_iff]
  omega

theorem bound_le (size : Nat) (index : Int) : bound size index ≤ size := by
  unfold bound
  split <;> omega

theorem span_le (size : Nat) (start stop : Int) :
    (span size start stop).1 + (span size start stop).2 ≤ size := by
  have h := bound_le size start
  have h' := bound_le size stop
  unfold span
  omega

end Chip8
