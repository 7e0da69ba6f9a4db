/-
  Drawing a sprite as flipping places. The visible dots of the rows, in reading order, name
  places on the screen (`pairwise_dots`, `has_of_mem_dots`), and drawing rows that can be read
  flips the cells there (`draw_eq`). Drawing ends early at the first row that cannot be read,
  and at the first dot where the cells are too large to paint; either way what was flipped
  before stays flipped, and the hit tells about just these cells. That only visible rows and dots
  are gone through is the same as ending the loops at the edges (`drawLoop_eq`).
-/
import Chip8.Proofs.Display.Frame
import Mathlib.Data.List.Nodup
import Mathlib.Data.List.ProdSigma

namespace Chip8

namespace Sprite

open Display

/-! ## The places of a sprite's dots -/

/-- The places of a row's visible dots, from left to right. -/
def rowDots (row : Byte) (left y width : Nat) : List (Nat × Nat) :=
  (visibleDots row left width).map fun col => (left + col, y)

/-- The places of the visible dots of the first rows of a sprite. -/
def dots (bytes : Nat → Byte) (left top width rows : Nat) : List (Nat × Nat) :=
  (List.range rows).flatMap fun i => rowDots (bytes i) left (top + i) width

theorem dots_succ (bytes : Nat → Byte) (left top width rows : Nat) :
    dots bytes left top width (rows + 1) =
      dots bytes left top width rows ++ rowDots (bytes rows) left (top + rows) width := by
  simp [dots, List.range_succ]

/-- The dots of a row are its bits from the most significant one on. -/
theorem hasDot_eq (row : Byte) {col : Nat} (h : col < 8) :
    hasDot row col = (row &&& (0x80#8 >>> col) != 0#8) := by
  have hbit : ∀ col < 8, 0x80#8 >>> col = BitVec.twoPow 8 (7 - col) := by decide
  have hpos : ∀ col < 8, BitVec.twoPow 8 (7 - col) ≠ 0#8 := by decide
  unfold hasDot
  rw [hbit col h, BitVec.and_twoPow, BitVec.getMsbD_eq_getLsbD, decide_eq_true h, Bool.true_and]
  change row.getLsbD (7 - col) = _
  cases row.getLsbD (7 - col) with
  | false => rfl
  | true => simp [hpos col h]

theorem mem_rowDots {row : Byte} {left y width : Nat} {place : Nat × Nat} :
    place ∈ rowDots row left y width ↔
      ∃ col < 8, hasDot row col = true ∧ left + col < width ∧ place = (left + col, y) := by
  simp only [rowDots, visibleDots, List.mem_map, List.mem_filter, List.mem_range, Bool.and_eq_true,
    decide_eq_true_eq]
  constructor
  · rintro ⟨col, ⟨hcol, hdot, hlt⟩, rfl⟩
    exact ⟨col, hcol, hdot, hlt, rfl⟩
  · rintro ⟨col, hcol, hdot, hlt, rfl⟩
    exact ⟨col, ⟨hcol, hdot, hlt⟩, rfl⟩

theorem mem_dots {bytes : Nat → Byte} {left top width rows : Nat} {place : Nat × Nat} :
    place ∈ dots bytes left top width rows ↔
      ∃ i < rows, place ∈ rowDots (bytes i) left (top + i) width := by
  simp [dots]

/-- The order in which one reads: a higher row first, and in a row from left to right. -/
def IsBefore (place other : Nat × Nat) : Prop :=
  place.2 < other.2 ∨ (place.2 = other.2 ∧ place.1 < other.1)

theorem IsBefore.ne {place other : Nat × Nat} (h : IsBefore place other) : place ≠ other := by
  rintro rfl
  unfold IsBefore at h
  omega

theorem pairwise_rowDots (row : Byte) (left y width : Nat) :
    (rowDots row left y width).Pairwise IsBefore := by
  refine List.pairwise_map.mpr ((List.pairwise_lt_range.filter _).imp fun h => ?_)
  exact Or.inr ⟨rfl, Nat.add_lt_add_left h left⟩

/-- The places are in reading order. -/
theorem pairwise_dots (bytes : Nat → Byte) (left top width rows : Nat) :
    (dots bytes left top width rows).Pairwise IsBefore := by
  refine List.pairwise_flatMap.mpr ⟨fun i _ => pairwise_rowDots .., ?_⟩
  refine List.pairwise_lt_range.imp fun hrow place hplace other hother => ?_
  obtain ⟨_, -, -, -, rfl⟩ := mem_rowDots.mp hplace
  obtain ⟨_, -, -, -, rfl⟩ := mem_rowDots.mp hother
  exact Or.inl (Nat.add_lt_add_left hrow top)

theorem nodup_dots (bytes : Nat → Byte) (left top width rows : Nat) :
    (dots bytes left top width rows).Nodup :=
  (pairwise_dots bytes left top width rows).imp IsBefore.ne

theorem has_of_mem_dots {d : Display} {bytes : Nat → Byte} {left top rows : Nat}
    (hrows : rows ≤ Screen.height d - top) {place : Nat × Nat}
    (h : place ∈ dots bytes left top (Screen.width d) rows) : d.Has place := by
  obtain ⟨i, hi, hplace⟩ := mem_dots.mp h
  obtain ⟨col, -, -, hlt, rfl⟩ := mem_rowDots.mp hplace
  exact ⟨hlt, by simp only; omega⟩

/-! ## Flipping places one after the other -/

variable {δ : Type} [Screen δ]

def flipAt (hint : Number) (place : Nat × Nat) : Act (Canvas δ) Unit :=
  flipCell hint place.1 place.2

/-- One row of a sprite as `draw` draws it. -/
def drawnRow (hint : Number) (row : Nat → Except Fault Byte) (left top width i : Nat) :
    Act (Canvas δ) Unit := do
  let dots ← Act.ofExcept (row i)
  drawRow hint dots left (top + i) width

theorem draw_def (hint : Number) (row : Nat → Except Fault Byte) (left top count : Nat)
    (c : Canvas δ) : draw hint row left top count c =
      (List.range (visibleRows count top (Screen.height c.screen.1))).forM
        (drawnRow hint row left top (Screen.width c.screen.1)) c := rfl

theorem draw_congr (hint : Number) (row row' : Nat → Except Fault Byte) (left top count : Nat)
    (c : Canvas δ) (h : ∀ i < visibleRows count top (Screen.height c.screen.1), row i = row' i) :
    draw hint row left top count c = draw hint row' left top count c := by
  rw [draw_def, draw_def]
  refine congrFun (Act.forM_congr _ fun i hi => ?_) c
  rw [drawnRow, drawnRow, h i (List.mem_range.mp hi)]

theorem filter_range_visible (count top height : Nat) :
    ((List.range count).filter fun i => !false && !decide (height ≤ top + i)) =
      List.range (visibleRows count top height) := by
  unfold visibleRows
  induction count with
  | zero => simp
  | succ count ih =>
    rw [List.range_succ, List.filter_append, ih]
    by_cases hin : top + count < height
    · rw [Nat.min_eq_left (by omega), Nat.min_eq_left (by omega), List.range_succ]
      simp [Nat.not_le.mpr hin]
    · rw [Nat.min_eq_right (by omega), Nat.min_eq_right (by omega)]
      simp [Nat.not_lt.mp hin]

/-- Drawing as a loop over all rows and columns that ends at the lower edge, and in each row at the
right one. -/
def drawLoop (hint : Number) (row : Nat → Except Fault Byte) (left top count : Nat) :
    Act (Canvas δ) Unit := do
  let c ← get
  let width := Screen.width c.screen.1
  let height := Screen.height c.screen.1
  for i in List.range count do
    if height ≤ top + i then break
    let dots ← Act.ofExcept (row i)
    for col in List.range 8 do
      if !hasDot dots col then continue
      if width ≤ left + col then break
      flipCell hint (left + col) (top + i)

/-- Columns past the right edge come last. -/
theorem forIn_columns (hint : Number) (dots : Byte) (left y width : Nat) :
    forIn (List.range 8) PUnit.unit (fun col _ =>
      if (!hasDot dots col) = true then pure (ForInStep.yield PUnit.unit)
      else if width ≤ left + col then pure (ForInStep.done PUnit.unit)
      else do
        flipCell hint (left + col) y
        pure (ForInStep.yield PUnit.unit)) =
    (drawRow hint dots left y width : Act (Canvas δ) Unit) := by
  rw [Act.forIn_eq_forM (fun col => flipCell hint (left + col) y)
    (fun col => !hasDot dots col) (fun col => decide (width ≤ left + col))]
  · simp only [Bool.not_not, ← decide_not, Nat.not_le]
    rfl
  · refine List.pairwise_lt_range.imp fun h hstop => ?_
    simp only [decide_eq_true_iff] at hstop ⊢
    omega
  · intro col hskip
    rw [if_pos hskip]
  · intro col hskip hstop
    rw [if_neg (by simp [hskip]), if_pos (of_decide_eq_true hstop)]
  · intro col hskip hstop
    rw [if_neg (by simp [hskip]), if_neg (of_decide_eq_false hstop)]

/-- Drawing is the loop that ends at the edges. -/
theorem drawLoop_eq (hint : Number) (row : Nat → Except Fault Byte) (left top count : Nat) :
    (drawLoop hint row left top count : Act (Canvas δ) Unit) = draw hint row left top count := by
  unfold drawLoop draw
  simp only [forIn_columns]
  congr 1
  funext c
  rw [Act.forIn_eq_forM (drawnRow hint row left top (Screen.width c.screen.1)) (fun _ => false)
    (fun i => decide (Screen.height c.screen.1 ≤ top + i))]
  · rw [filter_range_visible]
    exact bind_pure_unit
  · refine List.pairwise_lt_range.imp fun h hstop => ?_
    simp only [decide_eq_true_iff] at hstop ⊢
    omega
  · intro i hskip
    cases hskip
  · intro i _ hstop
    rw [if_pos (of_decide_eq_true hstop)]
  · intro i _ hstop
    rw [if_neg (of_decide_eq_false hstop), drawnRow, bind_assoc]

theorem drawRow_eq (hint : Number) (row : Byte) (left y width : Nat) :
    (drawRow hint row left y width : Act (Canvas δ) Unit) =
      (rowDots row left y width).forM (flipAt hint) := by
  change _ = forM (List.map _ _) _
  rw [List.forM_map]
  rfl

theorem forM_drawnRow {hint : Number} {row : Nat → Except Fault Byte} {bytes : Nat → Byte}
    {left top width rows : Nat} (h : ∀ i < rows, row i = .ok (bytes i)) :
    ((List.range rows).forM (drawnRow hint row left top width) : Act (Canvas δ) Unit) =
      (dots bytes left top width rows).forM (flipAt hint) := by
  induction rows with
  | zero => rfl
  | succ rows ih =>
    rw [Act.forM_range_succ, ih fun i hi => h i (by omega), dots_succ, Act.forM_append]
    congr 1
    funext _
    rw [drawnRow, h rows (by omega), ← drawRow_eq]
    rfl

/-- Drawing keeps the frame of the display, whatever is drawn. -/
theorem keeps_frame_draw (hint : Number) (row : Nat → Except Fault Byte) (left top count : Nat)
    (fr : Display) :
    Act.Keeps (fun c : Canvas Display => c.screen.1.frame = fr) (draw hint row left top count) :=
  Act.keeps_bind Act.keeps_get fun _ => Act.keeps_forM _ fun _ _ =>
    Act.keeps_bind (Act.keeps_ofExcept _) fun _ => Act.keeps_forM _ fun _ _ =>
      keeps_frame_flipCell hint _ _ fr

variable {c : Canvas Display} {places : List (Nat × Nat)}

/-- Where the cells can be painted, all places are flipped. -/
theorem forM_flipAt_ok (hcount : c.screen.1.IsCountable) (hnodup : places.Nodup)
    (hhas : ∀ place ∈ places, c.screen.1.Has place) (hpaint : c.screen.1.paintFault? = none) :
    ∃ c', Flipped c.screen.1 places c'.screen.1 ∧
      c'.hit = (c.hit || places.any c.screen.1.isLit) ∧
      places.forM (flipAt Number.one) c = .ok () c' := by
  induction places generalizing c with
  | nil => exact ⟨c, Flipped.refl _, by simp, rfl⟩
  | cons place rest ih =>
    rw [List.nodup_cons] at hnodup
    obtain ⟨c₁, hflipped, hhit, hflip⟩ := flipCell_eq hcount (hhas place List.mem_cons_self)
    rw [hpaint] at hflip
    have hframe := hflipped.frame
    have hrest : ∀ p ∈ rest, c.screen.1.Has p := fun p hp => hhas p (List.mem_cons_of_mem place hp)
    obtain ⟨c₂, hflipped', hhit', hforM⟩ := ih (c := c₁) ((isCountable_congr hframe).mpr hcount)
      hnodup.2 (fun p hp => (has_congr hframe p).mpr (hrest p hp))
      (by rw [paintFault?_congr hframe, hpaint])
    refine ⟨c₂, hflipped.cons hnodup.1 hflipped', ?_, (Act.bind_ok hflip).trans hforM⟩
    -- the cells of the rest were not touched yet
    have hsame : rest.any c₁.screen.1.isLit = rest.any c.screen.1.isLit := by
      rw [Bool.eq_iff_iff, List.any_eq_true, List.any_eq_true]
      refine exists_congr fun p => and_congr_right fun hp => ?_
      rw [hflipped.isLit (fun h => hnodup.1 (h ▸ hp)) (hrest p hp)]
    rw [hhit', hhit, hsame, List.any_cons, Bool.or_assoc]

/-- The places that drawing gets to: where the cells are too large, only the first. -/
def reached (d : Display) (places : List (Nat × Nat)) : List (Nat × Nat) :=
  if d.isOversized then places.take 1 else places

theorem reached_of_forall {d : Display} (h : d.isOversized = true → places = []) :
    reached d places = places := by
  unfold reached
  split
  · rename_i hover
    rw [h hover]
    rfl
  · rfl

theorem reached_cons {d : Display} (h : d.isOversized = true) (place : Nat × Nat)
    (rest : List (Nat × Nat)) : reached d (place :: rest) = [place] := by
  rw [reached, if_pos h]
  rfl

theorem forM_flipAt (hcount : c.screen.1.IsCountable) (hnodup : places.Nodup)
    (hhas : ∀ place ∈ places, c.screen.1.Has place) :
    ∃ c', Flipped c.screen.1 (reached c.screen.1 places) c'.screen.1 ∧
      c'.hit = (c.hit || (reached c.screen.1 places).any c.screen.1.isLit) ∧
      places.forM (flipAt Number.one) c =
        ended (if places = [] then none else c.screen.1.paintFault?) c' := by
  unfold reached
  cases hover : c.screen.1.isOversized with
  | false =>
    have hpaint : c.screen.1.paintFault? = none := by simp [paintFault?, hover]
    rw [hpaint, ite_self]
    exact forM_flipAt_ok hcount hnodup hhas hpaint
  | true =>
    cases places with
    | nil => exact ⟨c, Flipped.refl _, by simp, rfl⟩
    | cons place rest =>
      obtain ⟨c', hflipped, hhit, hflip⟩ := flipCell_eq hcount (hhas place List.mem_cons_self)
      have hpaint : c.screen.1.paintFault? = some .numberTooLarge := by simp [paintFault?, hover]
      refine ⟨c', hflipped, by simpa using hhit, ?_⟩
      rw [hpaint] at hflip ⊢
      exact Act.bind_error hflip

/-- Drawing flips the places of the rows that can be read, as far as it gets. -/
theorem draw_eq {row : Nat → Except Fault Byte} {bytes : Nat → Byte}
    (left : Nat) {top count readable : Nat} {fault : Fault} (hcount : c.screen.1.IsCountable)
    (hle : readable ≤ visibleRows count top (Screen.height c.screen.1))
    (hread : ∀ i < readable, row i = .ok (bytes i))
    (hstop : readable < visibleRows count top (Screen.height c.screen.1) →
      row readable = .error fault) :
    ∃ c', Flipped c.screen.1
        (reached c.screen.1 (dots bytes left top (Screen.width c.screen.1) readable))
        c'.screen.1 ∧
      c'.hit = (c.hit ||
        (reached c.screen.1 (dots bytes left top (Screen.width c.screen.1) readable)).any
          c.screen.1.isLit) ∧
      draw Number.one row left top count c =
        ended (if c.screen.1.isOversized = true ∧
            dots bytes left top (Screen.width c.screen.1) readable ≠ [] then some .numberTooLarge
          else if readable < visibleRows count top (Screen.height c.screen.1) then some fault
          else none) c' := by
  obtain ⟨c', hflipped, hhit, hforM⟩ := forM_flipAt hcount
    (nodup_dots bytes left top (Screen.width c.screen.1) readable)
    (fun place h => has_of_mem_dots (by
      unfold visibleRows at hle
      omega) h)
  refine ⟨c', hflipped, hhit, ?_⟩
  rw [draw_def]
  rw [← forM_drawnRow hread] at hforM
  by_cases hover : c.screen.1.isOversized = true ∧
      dots bytes left top (Screen.width c.screen.1) readable ≠ []
  · rw [if_pos hover]
    rw [if_neg hover.2, paintFault?, if_pos hover.1] at hforM
    exact Act.forM_range_error_of_le _ hle hforM
  · rw [if_neg hover]
    have hnone : (if dots bytes left top (Screen.width c.screen.1) readable = [] then none
        else c.screen.1.paintFault?) = none := by
      rw [paintFault?]
      by_cases hnil : dots bytes left top (Screen.width c.screen.1) readable = []
      · rw [if_pos hnil]
      · rw [if_neg hnil, if_neg fun h => hover ⟨h, hnil⟩]
    rw [hnone] at hforM
    rcases Nat.lt_or_eq_of_le hle with hlt | heq
    · rw [if_pos hlt]
      apply Act.forM_range_error _ hlt hforM
      rw [drawnRow, hstop hlt]
      rfl
    · rw [← heq, if_neg (Nat.lt_irrefl readable)]
      exact hforM

end Sprite

end Chip8
