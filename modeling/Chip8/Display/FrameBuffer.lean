/-
  The plain bitmap: a rectangle of cells, on or off, stored row by row.
-/
import Chip8.Position

namespace Chip8

/-- A bitmap of `width` by `height` cells. -/
structure FrameBuffer where
  width : Nat
  height : Nat
  cells : Array Bool
  size_cells : cells.size = width * height

namespace FrameBuffer

/-- The width of the machine's screen. -/
def standardWidth : Nat := 64

/-- The height of the machine's screen. -/
def standardHeight : Nat := 32

/-- A bitmap with every cell off. -/
def blank (width height : Nat) : FrameBuffer :=
  ⟨width, height, Array.replicate (width * height) false, Array.size_replicate⟩

instance : Inhabited FrameBuffer := ⟨blank standardWidth standardHeight⟩

/-- A blank bitmap; a side of zero or below is refused, and so are sides with more cells than a
host can address. -/
def blank? (width height : Int) : Except Fault FrameBuffer :=
  if 0 < width ∧ 0 < height then do
    checkSize (width * height)
    return blank width.toNat height.toNat
  else .error .displaySize

def clear (f : FrameBuffer) : FrameBuffer := blank f.width f.height

/-- The index of the cell in column `x` of row `y`. Coordinates are not checked, so a column
past the edge names a cell of another row. -/
def index (f : FrameBuffer) (x y : Int) : Int := y * f.width + x

def getPixel (f : FrameBuffer) (x y : Int) : Except Fault Bool := do
  let place ← cellAt (f.width * f.height) (f.index x y) .cellIndex
  have : place.val < f.cells.size := by rw [f.size_cells]; exact place.isLt
  return f.cells[place.val]

def drawPixel (f : FrameBuffer) (x y : Int) (on : Bool) : Except Fault FrameBuffer := do
  let place ← cellAt (f.width * f.height) (f.index x y) .cellIndex
  return { f with
    cells := f.cells.set place on (by rw [f.size_cells]; exact place.isLt)
    size_cells := by rw [Array.size_set]; exact f.size_cells }

/-- The coordinates of the cells that are on, row by row. -/
def litPixels (f : FrameBuffer) : List (Nat × Nat) :=
  (f.cells.toList.zipIdx.filter (·.1)).map fun (_, i) => (i % f.width, i / f.width)

def litCount (f : FrameBuffer) : Nat := f.cells.toList.count true

/-- One row as text, `#` for on and `.` for off. -/
def rowText (f : FrameBuffer) (y : Nat) : String :=
  String.ofList ((f.cells.extract (y * f.width) (y * f.width + f.width)).toList.map
    fun on => if on then '#' else '.')

def rows (f : FrameBuffer) : List String := (List.range f.height).map f.rowText

end FrameBuffer

end Chip8
