/-
  Cells of a bitmap by their coordinates. Inside the bitmap the coordinates name one cell each,
  so a bitmap is known by its cells (`ext_pixel`). `flip` turns over the cells at some places.
  Reading a cell and drawing its opposite flips it (`getPixel_of_lt`, `drawPixel_flip`), and
  flipping places one after the other, none twice, flips them all (`flip_flip`).
-/
import Chip8.Display.FrameBuffer
import Chip8.Proofs.Memory

namespace Chip8

namespace FrameBuffer

/-- The cell in column `x` of row `y`. -/
def pixel (f : FrameBuffer) (x y : Nat) : Bool := f.cells.getD (y * f.width + x) false

/-- The bitmap with the cells at some places turned over. -/
def flip (f : FrameBuffer) (places : List (Nat × Nat)) : FrameBuffer :=
  { f with
    cells := f.cells.mapIdx fun i on => on ^^ decide ((i % f.width, i / f.width) ∈ places)
    size_cells := by rw [Array.size_mapIdx]; exact f.size_cells }

/-- A bitmap with no more cells than an index can count. -/
def IsCountable (f : FrameBuffer) : Prop := f.width * f.height ≤ greatestIndex

instance (f : FrameBuffer) : Decidable f.IsCountable :=
  inferInstanceAs (Decidable (f.width * f.height ≤ greatestIndex))

/-- What counts is the sides. -/
theorem IsCountable.of_clear {f g : FrameBuffer} (h : f.IsCountable) (hclear : g.clear = f) :
    g.IsCountable := by
  subst hclear
  exact h

/-- A bitmap that can be made can be indexed. -/
theorem isCountable_of_blank? {w h : Int} {f : FrameBuffer} (hf : blank? w h = .ok f) :
    f.IsCountable := by
  unfold blank? at hf
  split at hf
  · rename_i hpos
    have hsides : ((w.toNat * h.toNat : Nat) : Int) = w * h := by
      rw [Int.natCast_mul, Int.toNat_of_nonneg (by omega), Int.toNat_of_nonneg (by omega)]
    unfold checkSize at hf
    split at hf
    · cases hf
    · rename_i hindex
      split at hf
      · cases hf
      · cases hf
        rw [Bool.not_eq_true, Bool.not_eq_false', isMachineIndex_iff] at hindex
        change w.toNat * h.toNat ≤ greatestIndex
        omega
  · cases hf

/-! ## Coordinates and cells -/

theorem place_lt {w h x y : Nat} (hx : x < w) (hy : y < h) : y * w + x < w * h := by
  calc y * w + x < y * w + w := by omega
    _ = w * (y + 1) := by rw [Nat.mul_succ, Nat.mul_comm]
    _ ≤ w * h := Nat.mul_le_mul_left w hy

theorem place_mod {w x : Nat} (y : Nat) (hx : x < w) : (y * w + x) % w = x := by
  rw [Nat.add_comm, Nat.add_mul_mod_self_right, Nat.mod_eq_of_lt hx]

theorem place_div {w x : Nat} (y : Nat) (hx : x < w) : (y * w + x) / w = y := by
  rw [Nat.add_comm, Nat.add_mul_div_right x y (by omega), Nat.div_eq_of_lt hx, Nat.zero_add]

variable {f g : FrameBuffer} {x y : Nat}

theorem place_lt_size (hx : x < f.width) (hy : y < f.height) :
    y * f.width + x < f.cells.size := by
  rw [f.size_cells]
  exact place_lt hx hy

theorem ext_pixel (hw : f.width = g.width) (hh : f.height = g.height)
    (h : ∀ x < f.width, ∀ y < f.height, f.pixel x y = g.pixel x y) : f = g := by
  obtain ⟨w, h', cells, hsize⟩ := f
  obtain ⟨w', h'', cells', hsize'⟩ := g
  simp only at hw hh
  subst hw hh
  congr 1
  apply Array.ext (by rw [hsize, hsize'])
  intro i hi hi'
  have hpos : 0 < w := by
    rcases Nat.eq_zero_or_pos w with rfl | hw
    · simp [hsize] at hi
    · exact hw
  have hcell := h (i % w) (Nat.mod_lt i hpos) (i / w) (by
    rw [Nat.div_lt_iff_lt_mul hpos, Nat.mul_comm]
    exact hsize ▸ hi)
  have hplace : i / w * w + i % w = i := by
    rw [Nat.mul_comm]
    exact Nat.div_add_mod i w
  simpa [pixel, hplace, hi, hi'] using hcell

theorem pixel_flip (places : List (Nat × Nat)) (hx : x < f.width) (hy : y < f.height) :
    (f.flip places).pixel x y = (f.pixel x y ^^ decide ((x, y) ∈ places)) := by
  have hplace := place_lt_size hx hy
  simp [pixel, flip, hplace, place_mod y hx, place_div y hx]

theorem pixel_blank (w h x y : Nat) : (blank w h).pixel x y = false := by
  unfold pixel blank
  rw [Array.getD_eq_getD_getElem?, Array.getElem?_replicate]
  split <;> rfl

theorem flip_nil (f : FrameBuffer) : f.flip [] = f := by
  refine ext_pixel rfl rfl fun x hx y hy => ?_
  rw [pixel_flip (f := f) [] hx hy]
  simp

/-- Flipping one place and then others flips them all, unless the place comes again. -/
theorem flip_flip (f : FrameBuffer) {place : Nat × Nat} {places : List (Nat × Nat)}
    (h : place ∉ places) : (f.flip [place]).flip places = f.flip (place :: places) := by
  refine ext_pixel rfl rfl fun x hx y hy => ?_
  rw [pixel_flip (f := f.flip [place]) places hx hy, pixel_flip (f := f) [place] hx hy,
    pixel_flip (f := f) (place :: places) hx hy]
  by_cases hp : (x, y) = place
  · subst hp
    simp [h]
  · simp [hp]

/-! ## Reading and drawing a cell -/

theorem cellAt_index (hf : f.IsCountable) (hx : x < f.width) (hy : y < f.height) :
    cellAt (f.width * f.height) (f.index x y) .cellIndex =
      .ok ⟨y * f.width + x, place_lt hx hy⟩ := by
  have hindex : f.index x y = (y * f.width + x : Nat) := by simp [index]
  have hlt := place_lt hx hy
  obtain ⟨place, hplace, hcell⟩ :=
    cellAt_of_lt .cellIndex (show 0 ≤ f.index x y by omega) (by omega) hf
  rw [hcell]
  congr 1
  exact Fin.ext (by rw [hplace, hindex, Int.toNat_natCast])

theorem getPixel_of_lt (hf : f.IsCountable) (hx : x < f.width) (hy : y < f.height) :
    f.getPixel x y = .ok (f.pixel x y) := by
  have hplace := place_lt_size hx hy
  unfold getPixel
  rw [cellAt_index hf hx hy]
  change Except.ok f.cells[y * f.width + x] = _
  simp [pixel, hplace]

theorem place_inj {w x y x' y' : Nat} (hx : x < w) (hx' : x' < w)
    (h : y * w + x = y' * w + x') : x = x' ∧ y = y' := by
  constructor
  · rw [← place_mod y hx, h, place_mod y' hx']
  · rw [← place_div y hx, h, place_div y' hx']

/-- Drawing a cell sets it and no other. -/
theorem exists_drawPixel (hf : f.IsCountable) (hx : x < f.width) (hy : y < f.height) (on : Bool) :
    ∃ f', f.drawPixel x y on = .ok f' ∧ f'.clear = f.clear ∧
      ∀ x' < f.width, ∀ y' < f.height,
        f'.pixel x' y' = if x' = x ∧ y' = y then on else f.pixel x' y' := by
  have hplace := place_lt_size hx hy
  unfold drawPixel
  rw [cellAt_index hf hx hy]
  refine ⟨_, rfl, rfl, fun x' hx' y' hy' => ?_⟩
  have hplace' := place_lt_size hx' hy'
  by_cases hsame : x' = x ∧ y' = y
  · obtain ⟨rfl, rfl⟩ := hsame
    simp [pixel, hplace]
  · have hne : y * f.width + x ≠ y' * f.width + x' := by
      intro h
      obtain ⟨rfl, rfl⟩ := place_inj hx hx' h
      exact hsame ⟨rfl, rfl⟩
    simp [pixel, hsame, hplace', hne]

theorem drawPixel_flip (hf : f.IsCountable) (hx : x < f.width) (hy : y < f.height) :
    f.drawPixel x y (!f.pixel x y) = .ok (f.flip [(x, y)]) := by
  obtain ⟨f', hdraw, hsize, hpixel⟩ := exists_drawPixel hf hx hy (!f.pixel x y)
  have hwidth : f'.width = f.width := congrArg (·.width) hsize
  have hheight : f'.height = f.height := congrArg (·.height) hsize
  rw [hdraw]
  congr 1
  refine ext_pixel hwidth hheight fun x' hx' y' hy' => ?_
  rw [hwidth] at hx'
  rw [hheight] at hy'
  rw [hpixel x' hx' y' hy', pixel_flip [(x, y)] hx' hy']
  by_cases hsame : x' = x ∧ y' = y
  · obtain ⟨rfl, rfl⟩ := hsame
    simp
  · simp [hsame]

/-- Drawing keeps the size, whatever the coordinates are. -/
theorem clear_of_drawPixel {f' : FrameBuffer} {x y : Int} {on : Bool}
    (h : f.drawPixel x y on = .ok f') : f'.clear = f.clear := by
  unfold drawPixel at h
  cases hc : cellAt (f.width * f.height) (f.index x y) .cellIndex with
  | error fault => rw [hc] at h; cases h
  | ok place =>
    rw [hc] at h
    cases h
    rfl

end FrameBuffer

end Chip8
