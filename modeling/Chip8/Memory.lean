/-
  Byte-addressed memory. Single bytes are read and written at any index that names a cell; a
  block is written only onto exactly as many cells as it has bytes.
-/
import Chip8.Position

namespace Chip8

/-- A row of bytes. -/
structure Memory where
  cells : Array Byte
deriving DecidableEq, Repr

namespace Memory

/-- The size of the machine's memory. -/
def standardSize : Nat := 0x1000

/-- Where the glyphs of the font start. -/
def fontStart : Nat := 0x000

/-- Where programs start. -/
def programStart : Nat := 0x200

abbrev size (m : Memory) : Nat := m.cells.size

/-- Memory of the given size, all zero. -/
def ofSize (size : Nat) : Memory := ⟨Array.replicate size 0⟩

/-- Memory of the given size; a size of zero or below is refused, and so is one that no host can
address. -/
def ofSize? (size : Int) : Except Fault Memory :=
  if 0 < size then do
    checkSize size
    return ofSize size.toNat
  else .error .memorySize

def load (m : Memory) (address : Int) : Except Fault Byte := do
  let place ← cellAt m.size address .cellIndex
  return m.cells[place]

def store (m : Memory) (address : Int) (value : Byte) : Except Fault Memory := do
  let place ← cellAt m.size address .cellIndex
  return ⟨m.cells.set place value place.isLt⟩

/-- The word at an address, the byte at the lower address being the more significant one. -/
def loadWord (m : Memory) (address : Int) : Except Fault Word := do
  let high ← m.load address
  let low ← m.load (address + 1)
  return Word.ofBytes high low

/-- The bytes from `start` on replaced by as many others. -/
def overwrite (m : Memory) (start : Nat) (data : List Byte) : Memory :=
  let old := m.cells.toList
  ⟨(old.take start ++ data ++ old.drop (start + data.length)).toArray⟩

/-- Writes a block of bytes at an address. The span that the block should fill must be as long
as the block; otherwise nothing is written. -/
def loadBlock (m : Memory) (address : Int) (data : List Byte) : Except Fault Memory :=
  let (start, room) := span m.size address (address + data.length)
  if room = data.length then .ok (m.overwrite start data) else .error .blockLength

/-- Integers as bytes; the first one that is none is a fault. -/
def bytesOf (data : List Int) : Except Fault (List Byte) :=
  data.mapM fun value =>
    if 0 ≤ value ∧ value < 256 then .ok (Byte.ofInt value) else .error .blockValue

/-- Writes a block given as integers, all of which must be bytes. -/
def loadIntegers (m : Memory) (address : Int) (data : List Int) : Except Fault Memory := do
  m.loadBlock address (← bytesOf data)

/-- The bytes in the span of the given length from an address. -/
def readBlock (m : Memory) (address length : Int) : List Byte :=
  let (start, count) := span m.size address (address + length)
  (m.cells.toList.drop start).take count

def clear (m : Memory) : Memory := ofSize m.size

theorem size_ofSize (n : Nat) : (ofSize n).size = n := by simp [ofSize, size]

theorem size_store {m m' : Memory} {address : Int} {value : Byte}
    (h : m.store address value = .ok m') : m'.size = m.size := by
  unfold store at h
  cases hc : cellAt m.size address .cellIndex with
  | error e => rw [hc] at h; cases h
  | ok place =>
    rw [hc] at h
    cases h
    exact Array.size_set place.isLt

theorem size_overwrite (m : Memory) (start : Nat) (data : List Byte)
    (h : start + data.length ≤ m.size) : (m.overwrite start data).size = m.size := by
  simp only [size, overwrite, List.size_toArray, List.length_append, List.length_take,
    List.length_drop, Array.length_toList] at *
  omega

theorem size_loadBlock {m m' : Memory} {address : Int} {data : List Byte}
    (h : m.loadBlock address data = .ok m') : m'.size = m.size := by
  unfold loadBlock at h
  have hs := span_le m.size address (address + data.length)
  simp only at h
  split at h
  · rename_i hr
    cases h
    exact size_overwrite m _ data (by omega)
  · cases h

theorem size_clear (m : Memory) : m.clear.size = m.size := size_ofSize _

end Memory

end Chip8
