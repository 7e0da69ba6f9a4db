/-
  A bitmap as it can be read: cell by cell, as the list of the lit places, and as rows of text. Of
  any bitmap the three tell the same (`mem_litPixels_iff`, `toList_rowText`), because the cells
  stand row by row. The main statement is `views_of_drawing`: after calls that stay inside the
  bitmap a cell is what was last drawn there since everything was last cleared
  (`DisplayCall.lastDrawn`), and the lit places and the rows of text show these cells.
-/
import Chip8.Proofs.Display.Pixel
import Chip8.Proofs.Display.Watched
import Mathlib.Data.List.DropRight

namespace Chip8

namespace FrameBuffer

variable {f : FrameBuffer} {x y : Nat}

/-! ## The lit places -/

/-- Cells that stand behind each other are read one after the other. -/
theorem isBefore_of_lt (width : Nat) {i j : Nat} (h : i < j) :
    Sprite.IsBefore (i % width, i / width) (j % width, j / width) := by
  have hi := Nat.div_add_mod i width
  have hj := Nat.div_add_mod j width
  rcases Nat.lt_or_eq_of_le (Nat.div_le_div_right (c := width) (Nat.le_of_lt h)) with hrow | hrow
  · exact .inl hrow
  · refine .inr ⟨hrow, ?_⟩
    rw [hrow] at hi
    omega

theorem pairwise_litPixels (f : FrameBuffer) : f.litPixels.Pairwise Sprite.IsBefore := by
  have hplaces : f.cells.toList.zipIdx.Pairwise fun a b => a.2 < b.2 := by
    rw [← List.pairwise_map, List.zipIdx_map_snd]
    exact List.pairwise_lt_range'
  exact List.pairwise_map.mpr ((hplaces.filter _).imp fun h => isBefore_of_lt f.width h)

theorem pixel_mod_div (f : FrameBuffer) (i : Nat) :
    f.pixel (i % f.width) (i / f.width) = f.cells.getD i false := by
  rw [pixel, Nat.mul_comm, Nat.div_add_mod]

theorem mem_litPixels_iff_exists : (x, y) ∈ f.litPixels ↔
    ∃ i, f.cells[i]? = some true ∧ i % f.width = x ∧ i / f.width = y := by
  simp [litPixels, List.mem_zipIdx_iff_getElem?]

/-- The lit places are those inside the bitmap whose cells are on. -/
theorem mem_litPixels_iff :
    (x, y) ∈ f.litPixels ↔ (x < f.width ∧ y < f.height) ∧ f.pixel x y = true := by
  rw [mem_litPixels_iff_exists]
  constructor
  · rintro ⟨i, hi, rfl, rfl⟩
    obtain ⟨hlt, hon⟩ := Array.getElem?_eq_some_iff.mp hi
    rw [f.size_cells] at hlt
    have hpos : 0 < f.width := Nat.pos_of_lt_mul_right hlt
    refine ⟨⟨Nat.mod_lt i hpos, Nat.div_lt_of_lt_mul hlt⟩, ?_⟩
    rw [pixel_mod_div, Array.getD_eq_getD_getElem?, hi, Option.getD_some]
  · rintro ⟨⟨hx, hy⟩, hon⟩
    have hplace := place_lt_size hx hy
    refine ⟨y * f.width + x, ?_, place_mod y hx, place_div y hx⟩
    rw [Array.getElem?_eq_getElem hplace, ← hon]
    simp [pixel, hplace]

/-! ## Rows of text -/

/-- A row of text shows the cells of the row. -/
theorem toList_rowText (hy : y < f.height) : (f.rowText y).toList =
    (List.range f.width).map fun x => if f.pixel x y then '#' else '.' := by
  have hrow : (y + 1) * f.width ≤ f.cells.size := by
    rw [f.size_cells, Nat.mul_comm]
    exact Nat.mul_le_mul_left _ hy
  rw [Nat.succ_mul] at hrow
  unfold rowText
  rw [String.toList_ofList]
  refine List.ext_getElem ?_ fun x hx hx' => ?_
  · rw [List.length_map, Array.length_toList, Array.size_extract, List.length_map,
      List.length_range]
    omega
  · rw [List.length_map, List.length_range] at hx'
    have hplace := place_lt_size hx' hy
    simp [pixel, hplace]

end FrameBuffer

/-! ## Drawing -/

namespace DisplayCall

/-- The call names no place outside a bitmap of the given size. -/
def IsInside (width height : Int) : DisplayCall → Prop
  | getPixel x y | drawPixel x y _ _ => (0 ≤ x ∧ x < width) ∧ 0 ≤ y ∧ y < height
  | powerOn | clear => True

/-- The call clears everything. -/
def isClearing : DisplayCall → Bool
  | powerOn | clear => true
  | _ => false

/-- What the call draws at a place, if it draws there. -/
def drawn? (x y : Int) : DisplayCall → Option Bool
  | drawPixel x' y' _ on => if x' = x ∧ y' = y then some on else none
  | _ => none

/-- What was last drawn at a place since everything was last cleared; nothing lit if nothing
was. -/
def lastDrawn (calls : List DisplayCall) (x y : Int) : Bool :=
  ((calls.rtakeWhile (!·.isClearing)).filterMap (drawn? x y)).getLast?.getD false

theorem lastDrawn_append (calls : List DisplayCall) (call : DisplayCall) (x y : Int) :
    lastDrawn (calls ++ [call]) x y =
      if call.isClearing then false else (call.drawn? x y).getD (lastDrawn calls x y) := by
  unfold lastDrawn
  rw [List.rtakeWhile_concat]
  cases hclearing : call.isClearing with
  | true => rfl
  | false =>
    cases hdrawn : call.drawn? x y <;> simp [hdrawn]

variable {f : FrameBuffer} {call : DisplayCall}

/-- A call inside a bitmap is done, and draws no other cell than it names. -/
theorem exists_act (hf : f.IsCountable) (hinside : call.IsInside f.width f.height) (host : Host) :
    ∃ f' : FrameBuffer, call.act (f, host) = .ok () (f', host) ∧ f'.clear = f.clear ∧
      ∀ x < f.width, ∀ y < f.height, f'.pixel x y =
        if call.isClearing then false else (call.drawn? x y).getD (f.pixel x y) := by
  have hcleared (x y : Nat) : f.clear.pixel x y = false := FrameBuffer.pixel_blank ..
  cases call with
  | powerOn => exact ⟨f.clear, rfl, rfl, fun x _ y _ => hcleared x y⟩
  | clear => exact ⟨f.clear, rfl, rfl, fun x _ y _ => hcleared x y⟩
  | getPixel x y =>
    obtain ⟨⟨hx, hx'⟩, hy, hy'⟩ := hinside
    obtain ⟨x, rfl⟩ := Int.eq_ofNat_of_zero_le hx
    obtain ⟨y, rfl⟩ := Int.eq_ofNat_of_zero_le hy
    have hread := FrameBuffer.getPixel_of_lt hf (Int.ofNat_lt.mp hx') (Int.ofNat_lt.mp hy')
    have hanswer : Screen.getPixel (x : Int) (y : Int) (f, host) =
        .ok (f.pixel x y) (f, host) := by
      simp only [Screen.getPixel, hread]
    exact ⟨f, Act.bind_ok hanswer, rfl, fun _ _ _ _ => rfl⟩
  | drawPixel x y hint on =>
    obtain ⟨⟨hx, hx'⟩, hy, hy'⟩ := hinside
    obtain ⟨x, rfl⟩ := Int.eq_ofNat_of_zero_le hx
    obtain ⟨y, rfl⟩ := Int.eq_ofNat_of_zero_le hy
    obtain ⟨f', hdraw, hsides, hpixel⟩ :=
      FrameBuffer.exists_drawPixel hf (Int.ofNat_lt.mp hx') (Int.ofNat_lt.mp hy') on
    refine ⟨f', ?_, hsides, fun x' hx' y' hy' => ?_⟩
    · simp only [act, Screen.drawPixel, hdraw]
    · rw [hpixel x' hx' y' hy']
      by_cases hsame : x' = x ∧ y' = y
      · simp [isClearing, drawn?, hsame]
      · have hother : ¬ (x = x' ∧ y = y') := by omega
        simp [isClearing, drawn?, hsame, hother]

/-- Calls inside a bitmap are done, and leave in each cell what was last drawn there. -/
theorem exists_forM (hf : f.IsCountable) (hblank : f.clear = f) {calls : List DisplayCall}
    (hinside : ∀ call ∈ calls, call.IsInside f.width f.height) (host : Host) :
    ∃ f' : FrameBuffer, calls.forM act (f, host) = .ok () (f', host) ∧ f'.clear = f ∧
      ∀ x < f.width, ∀ y < f.height, f'.pixel x y = lastDrawn calls x y := by
  -- from the right: a call meets the cells that those before it have left
  induction calls using List.reverseRecOn with
  | nil =>
    refine ⟨f, rfl, hblank, fun x _ y _ => ?_⟩
    rw [← hblank]
    exact FrameBuffer.pixel_blank ..
  | append_singleton calls call ih =>
    obtain ⟨f', hcalls, hsides, hpixel⟩ := ih fun c hc => hinside c (List.mem_append_left _ hc)
    have hwidth : f'.width = f.width := congrArg (·.width) hsides
    have hheight : f'.height = f.height := congrArg (·.height) hsides
    have hcall : call.IsInside f'.width f'.height := by
      rw [hwidth, hheight]
      exact hinside call (by simp)
    obtain ⟨f'', hact, hsides', hpixel'⟩ := exists_act (hf.of_clear hsides) hcall host
    refine ⟨f'', ?_, hsides'.trans hsides, fun x hx y hy => ?_⟩
    · rw [Act.forM_concat, Act.bind_ok hcalls, hact]
    · rw [hpixel' x (hwidth ▸ hx) y (hheight ▸ hy), hpixel x hx y hy, lastDrawn_append]

end DisplayCall

/-- A blank bitmap, of any size with no more cells than an index can count, is called, never with a
place outside it. Then all calls are done, and what is read of a cell is what was last drawn there
since the last clearing. The lit places are those that are read as lit, each once, from left to
right and from top to bottom. There is a row of text for each row of cells, which has a character
for each cell, and it tells the lit cells from the others. -/
theorem views_of_drawing {w h : Nat} (hcount : (FrameBuffer.blank w h).IsCountable)
    {calls : List DisplayCall} (hinside : ∀ call ∈ calls, call.IsInside w h) (host : Host) :
    ∃ f : FrameBuffer, calls.forM DisplayCall.act (.blank w h, host) = .ok () (f, host) ∧
      (∀ x y : Int, (0 ≤ x ∧ x < w) → (0 ≤ y ∧ y < h) →
        f.getPixel x y = .ok (DisplayCall.lastDrawn calls x y)) ∧
      (f.litPixels.Pairwise Sprite.IsBefore ∧
        ∀ x y : Nat, (x, y) ∈ f.litPixels ↔ (x < w ∧ y < h) ∧ f.getPixel x y = .ok true) ∧
      f.rows.length = h ∧
      ∀ y < h, ∃ row, f.rows[y]? = some row ∧ row.length = w ∧
        ∀ x < w, ∃ lit, f.getPixel x y = .ok lit ∧
          row.toList[x]? = some (if lit then '#' else '.') := by
  obtain ⟨f, hcalls, hsides, hpixel⟩ := DisplayCall.exists_forM hcount rfl hinside host
  have hwidth : f.width = w := congrArg (·.width) hsides
  have hheight : f.height = h := congrArg (·.height) hsides
  have hread (x y : Nat) (hx : x < w) (hy : y < h) : f.getPixel x y = .ok (f.pixel x y) :=
    FrameBuffer.getPixel_of_lt (hcount.of_clear hsides) (hwidth.symm ▸ hx) (hheight.symm ▸ hy)
  refine ⟨f, hcalls, fun x y hx hy => ?_, ⟨f.pairwise_litPixels, fun x y => ?_⟩, ?_,
    fun y hy => ?_⟩
  · obtain ⟨x, rfl⟩ := Int.eq_ofNat_of_zero_le hx.1
    obtain ⟨y, rfl⟩ := Int.eq_ofNat_of_zero_le hy.1
    have hx' : x < w := Int.ofNat_lt.mp hx.2
    have hy' : y < h := Int.ofNat_lt.mp hy.2
    rw [hread x y hx' hy', hpixel x hx' y hy']
  · rw [FrameBuffer.mem_litPixels_iff, hwidth, hheight]
    refine and_congr_right fun ⟨hx, hy⟩ => ?_
    rw [hread x y hx hy, Except.ok.injEq]
  · rw [FrameBuffer.rows, List.length_map, List.length_range, hheight]
  · have htext := FrameBuffer.toList_rowText (hheight.symm ▸ hy : y < f.height)
    rw [hwidth] at htext
    refine ⟨f.rowText y, ?_, ?_, fun x hx => ⟨_, hread x y hx hy, ?_⟩⟩
    · simp [FrameBuffer.rows, hheight, hy]
    · rw [← String.length_toList, htext, List.length_map, List.length_range]
    · simp [htext, hx]

/-- What was drawn before a clearing is gone, and what is drawn over counts no more. -/
theorem views_of_drawing_over :
    let calls : List DisplayCall :=
      [.drawPixel 1 0 Number.one true, .clear, .drawPixel 2 1 Number.one true,
        .drawPixel 0 0 Number.one true, .drawPixel 0 0 Number.one false]
    (FrameBuffer.blank 3 2).IsCountable ∧ (∀ call ∈ calls, call.IsInside 3 2) ∧
      ∃ f : FrameBuffer, calls.forM DisplayCall.act (.blank 3 2, default) = .ok () (f, default) ∧
        (2, 1) ∈ f.litPixels ∧ (1, 0) ∉ f.litPixels ∧ (0, 0) ∉ f.litPixels := by
  intro calls
  have hcount : (FrameBuffer.blank 3 2).IsCountable := by decide
  have hinside : ∀ call ∈ calls, call.IsInside 3 2 := by
    simp [calls, DisplayCall.IsInside]
  obtain ⟨f, hcalls, hread, ⟨-, hlit⟩, -⟩ := views_of_drawing hcount hinside default
  have hlit' (x y : Nat) (hx : x < 3) (hy : y < 2) :
      (x, y) ∈ f.litPixels ↔ DisplayCall.lastDrawn calls x y = true := by
    rw [hlit x y, hread x y (by omega) (by omega), Except.ok.injEq]
    exact and_iff_right (by omega)
  refine ⟨hcount, hinside, f, hcalls, ?_, ?_, ?_⟩
  · exact (hlit' 2 1 (by decide) (by decide)).mpr (by decide)
  · exact (hlit' 1 0 (by decide) (by decide)).not.mpr (by decide)
  · exact (hlit' 0 0 (by decide) (by decide)).not.mpr (by decide)

end Chip8
