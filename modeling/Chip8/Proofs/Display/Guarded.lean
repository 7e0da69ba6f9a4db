/-
  Displays behind a guard that refuses coordinates outside them. Drawing a sprite does behind
  the guard what it does without (`agree_draw`): the dots it reads and flips all lie on the
  display, although a display by itself takes any coordinates that name a cell.
-/
import Chip8.Proofs.Sprite

namespace Chip8

/-- A display behind a guard. -/
structure Guarded where
  display : Display

namespace Guarded

/-- A display and the host, with the guard put up. -/
def ofStage (s : Display × Host) : Guarded × Host := (⟨s.1⟩, s.2)

/-- An act on the display behind the guard. -/
def behind {α : Type} (act : Act (Display × Host) α) : Act (Guarded × Host) α :=
  Act.within (fun s => (s.1.display, s.2)) (fun s _ => ofStage s) act

/-- Coordinates that the guard lets through. -/
def Admits (g : Guarded) (x y : Int) : Prop :=
  (0 ≤ x ∧ x < Screen.width g.display) ∧ 0 ≤ y ∧ y < Screen.height g.display

instance (g : Guarded) (x y : Int) : Decidable (g.Admits x y) :=
  inferInstanceAs (Decidable ((0 ≤ x ∧ x < Screen.width g.display) ∧
    0 ≤ y ∧ y < Screen.height g.display))

instance : Screen Guarded where
  powerOn := behind Screen.powerOn
  clear s := ofStage (Screen.clear (s.1.display, s.2))
  width g := Screen.width g.display
  height g := Screen.height g.display
  getPixel x y := fun s =>
    if s.1.Admits x y then behind (Screen.getPixel x y) s else .error .cellIndex s
  drawPixel x y hint on := fun s =>
    if s.1.Admits x y then behind (Screen.drawPixel x y hint on) s else .error .cellIndex s

variable {s : Display × Host} {x y : Int}

theorem getPixel_ofStage (h : Admits ⟨s.1⟩ x y) :
    Screen.getPixel x y (ofStage s) = resultWithin ofStage (Screen.getPixel x y s) :=
  if_pos h

theorem drawPixel_ofStage (h : Admits ⟨s.1⟩ x y) (hint : Number) (on : Bool) :
    Screen.drawPixel x y hint on (ofStage s) =
      resultWithin ofStage (Screen.drawPixel x y hint on s) :=
  if_pos h

end Guarded

namespace Sprite

open Display

/-- The same canvas without the guard and with it, on a display of a frame. -/
def IsGuarded (fr : Display) (c : Canvas Display) (c' : Canvas Guarded) : Prop :=
  c.screen.1.frame = fr ∧ c' = ⟨Guarded.ofStage c.screen, c.hit⟩

variable {fr : Display}

theorem admits_of_lt {d : Display} (h : d.frame = fr) {x y : Nat} (hx : x < Screen.width fr)
    (hy : y < Screen.height fr) : Guarded.Admits ⟨d⟩ x y := by
  rw [← h, width_frame] at hx
  rw [← h, height_frame] at hy
  exact ⟨⟨Int.natCast_nonneg x, Int.ofNat_lt.mpr hx⟩, Int.natCast_nonneg y, Int.ofNat_lt.mpr hy⟩

theorem agree_flipCell (hint : Number) {x y : Nat} (hx : x < Screen.width fr)
    (hy : y < Screen.height fr) :
    Act.Agree (IsGuarded fr) (flipCell hint x y) (flipCell hint x y) := by
  rintro ⟨s, hit⟩ _ ⟨hframe, rfl⟩
  have hread := frame_getPixel x y s
  unfold flipCell
  rw [Guarded.getPixel_ofStage (admits_of_lt hframe hx hy)]
  cases hg : Screen.getPixel (x : Int) (y : Int) s with
  | error fault t =>
    rw [hg] at hread
    exact .error ⟨hread.trans hframe, rfl⟩
  | ok lit t =>
    rw [hg] at hread
    have hframe' : t.1.frame = fr := hread.trans hframe
    have hdrawn := frame_drawPixel x y hint (!lit) t
    dsimp only [resultWithin]
    rw [Guarded.drawPixel_ofStage (admits_of_lt hframe' hx hy)]
    cases hd : Screen.drawPixel (x : Int) (y : Int) hint (!lit) t with
    | error fault u =>
      rw [hd] at hdrawn
      exact .error ⟨hdrawn.trans hframe', rfl⟩
    | ok a u =>
      rw [hd] at hdrawn
      exact .ok ⟨hdrawn.trans hframe', rfl⟩

/-- Drawing reads and flips cells of the display only. -/
theorem agree_draw (fr : Display) (hint : Number) (row : Nat → Except Fault Byte)
    (left top count : Nat) :
    Act.Agree (IsGuarded fr) (draw hint row left top count) (draw hint row left top count) := by
  rintro c _ ⟨hframe, rfl⟩
  rw [draw_def, draw_def]
  refine Act.agree_forM _ (fun i hi => Act.agree_bind (Act.agree_ofExcept _) fun dots =>
    Act.agree_forM _ fun col hcol => agree_flipCell hint ?_ ?_) _ _ ⟨hframe, rfl⟩
  · rw [visibleDots, List.mem_filter, Bool.and_eq_true, decide_eq_true_eq] at hcol
    rw [← hframe, width_frame]
    exact hcol.2.2
  · rw [List.mem_range, visibleRows] at hi
    rw [← hframe, height_frame]
    omega

end Sprite

end Chip8
