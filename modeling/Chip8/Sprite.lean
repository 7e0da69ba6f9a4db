/-
  Drawing a sprite: rows of eight dots, the leftmost in the most significant bit, flipped onto
  the screen. Dots past the right edge and rows past the lower edge are left out; nothing wraps.
-/
import Chip8.Display.Screen

namespace Chip8.Sprite

/-- Whether a row of dots has one in column `col`. -/
def hasDot (row : Byte) (col : Nat) : Bool := row.getMsbD col

/-- The columns of a row that have a dot and lie on a screen of the given width. -/
def visibleDots (row : Byte) (left width : Nat) : List Nat :=
  (List.range 8).filter fun col => hasDot row col && left + col < width

/-- The number of rows that lie on a screen of the given height. -/
def visibleRows (count top height : Nat) : Nat := min count (height - top)

/-- A screen being drawn on, and whether a lit cell was met. -/
structure Canvas (δ : Type) where
  screen : δ × Host
  hit : Bool := false

variable {δ : Type} [Screen δ]

/-- Flips one cell. -/
def flipCell (hint : Number) (x y : Nat) : Act (Canvas δ) Unit := fun c =>
  match Screen.getPixel (x : Int) (y : Int) c.screen with
  | .error e s => .error e ⟨s, c.hit⟩
  | .ok lit s =>
    let hit := c.hit || lit
    match Screen.drawPixel (x : Int) (y : Int) hint (!lit) s with
    | .error e s => .error e ⟨s, hit⟩
    | .ok () s => .ok () ⟨s, hit⟩

/-- Flips the visible dots of one row, from left to right. -/
def drawRow (hint : Number) (row : Byte) (left y width : Nat) : Act (Canvas δ) Unit :=
  (visibleDots row left width).forM fun col => flipCell hint (left + col) y

/-- Draws the visible rows from the top. A row is read just before it is drawn. -/
def draw (hint : Number) (row : Nat → Except Fault Byte) (left top count : Nat) :
    Act (Canvas δ) Unit := do
  let c ← get
  let width := Screen.width c.screen.1
  let height := Screen.height c.screen.1
  (List.range (visibleRows count top height)).forM fun i => do
    let dots ← Act.ofExcept (row i)
    drawRow hint dots left (top + i) width

end Chip8.Sprite
