/-
  Displays as a frame with cells. The frame of a display is what nothing on it changes: its
  kind, its size and its settings. Every act on a display keeps the frame, and on coordinates
  inside the display it does to the cells, where there are any, what it does to a bitmap. So
  flipping a cell succeeds on every display (`flipCell_eq`), except in an open window whose
  scale is too large to paint with: the cell is flipped there too, and then the act fails.
-/
import Chip8.Display
import Chip8.Sprite
import Chip8.Proofs.Display.Pixel
import Chip8.Proofs.Display.Scale
import Chip8.Proofs.Host

namespace Chip8

namespace Window

theorem logSize_eq (s : Window × Host) : logSize s = Host.tell "video" s.1.sizeText s := by
  obtain ⟨w, h⟩ := s
  unfold logSize Host.tell
  rw [Act.get_bind]
  dsimp only
  split
  · cases w.sizeText <;> rfl
  · rfl

/-- The second host is the first one after it was asked to open the window. -/
def IsOpening (w : Window) (h h' : Host) : Prop :=
  h'.calls.toList =
    h.calls.toList ++ [.openWindow w.size.1 w.size.2 w.fullscreen] ++ [.caption w.caption]

/-- A window that is opened is then cleared. If opening fails, it does so before anything is asked
for, or at the message about the size. -/
theorem endsIn_powerOn (w : Window) (h : Host) :
    EndsIn (fun _ s => ∃ h', IsOpening w h h' ∧ s = clear ({ w with opened := true }, h'))
      (fun _ s => s = (w, h) ∨ ∃ h', IsOpening w h h' ∧ s = ({ w with opened := true }, h'))
      (powerOn (w, h)) := by
  let w' : Window := { w with opened := true }
  let h₁ := (h.call (.openWindow w.size.1 w.size.2 w.fullscreen)).call (.caption w.caption)
  have hasked : IsOpening w h h₁ := by simp [IsOpening, h₁, Host.call]
  have hsame (s : Window × Host) (hs : s.1 = w' ∧ s.2.calls = h₁.calls) :
      ∃ h', IsOpening w h h' ∧ s = (w', h') :=
    ⟨s.2, (congrArg Array.toList hs.2).trans hasked, Prod.ext hs.1 rfl⟩
  have hlog : EndsIn (fun _ s => ∃ h', IsOpening w h h' ∧ s = (w', h'))
      (fun _ s => s = (w, h) ∨ ∃ h', IsOpening w h h' ∧ s = (w', h')) (logSize (w', h₁)) := by
    rw [logSize_eq]
    exact (Host.endsIn_tell ..).mono (fun _ => hsame) fun _ s hs => .inr (hsame s hs)
  unfold powerOn
  rw [Act.get_bind]
  dsimp only
  split
  · exact .inl rfl
  · change EndsIn _ _ ((logSize >>= fun _ => modify clear) (w', h₁))
    refine hlog.bind fun _ s hs => ?_
    obtain ⟨h', hh', rfl⟩ := hs
    exact ⟨h', hh', rfl⟩

/-- Opening the window blanks its bitmap at most. -/
theorem clear_powerOn (s : Window × Host) :
    (stateOf (powerOn s)).1.bitmap.clear = s.1.bitmap.clear := by
  have hend := endsIn_powerOn s.1 s.2
  cases hpower : powerOn s with
  | ok a t =>
    obtain ⟨h', -, rfl⟩ := hend.of_ok hpower
    rfl
  | error fault t =>
    obtain rfl | ⟨h', -, rfl⟩ := hend.of_error hpower
    · rfl
    · rfl

/-- A window that was opened is as it was, but open, blank and not shown yet. -/
theorem fst_of_powerOn {s s' : Window × Host} (h : powerOn s = .ok () s') :
    s'.1 = { s.1 with opened := true, dirty := true, bitmap := s.1.bitmap.clear } := by
  obtain ⟨h', -, rfl⟩ := (endsIn_powerOn s.1 s.2).of_ok h
  rfl

end Window

namespace Display

/-- The display with nothing on it. -/
def frame : Display → Display
  | bitmap f => bitmap f.clear
  | null _ => null {}
  | recorded r => recorded ⟨r.bitmap.clear⟩
  | window w => window { w with bitmap := w.bitmap.clear, dirty := false }

/-- A display with no more cells than an index can count. -/
def IsCountable (d : Display) : Prop := ∀ f, d.cells? = some f → f.IsCountable

/-- Whether the display shows a lit cell at the coordinates. -/
def isLit (d : Display) (place : Nat × Nat) : Bool :=
  (d.cells?.map (·.pixel place.1 place.2)).getD false

/-- Whether the display has a window open whose cells are too large to paint. -/
def isOversized : Display → Bool
  | window w => w.opened && decide (Binary64.overflowBound ≤ w.scale)
  | _ => false

/-- How painting a cell of the display fails, if it does. -/
def paintFault? (d : Display) : Option Fault :=
  if d.isOversized then some .numberTooLarge else none

/-- Coordinates on the display. -/
def Has (d : Display) (place : Nat × Nat) : Prop :=
  place.1 < Screen.width d ∧ place.2 < Screen.height d

/-- The second display is the first one with the cells at some places turned over. -/
structure Flipped (d : Display) (places : List (Nat × Nat)) (d' : Display) : Prop where
  frame : d'.frame = d.frame
  cells : d'.cells? = d.cells?.map (·.flip places)

/-- The sides of the display, where it has cells. -/
def sides? (d : Display) : Option (Nat × Nat) := d.cells?.map fun f => (f.width, f.height)

variable {d d' d'' : Display}

/-! ## What the cells tell -/

theorem width_eq (d : Display) :
    Screen.width d = (d.cells?.map FrameBuffer.width).getD FrameBuffer.standardWidth := by
  cases d <;> rfl

theorem height_eq (d : Display) :
    Screen.height d = (d.cells?.map FrameBuffer.height).getD FrameBuffer.standardHeight := by
  cases d <;> rfl

theorem has_iff_of_cells? {f : FrameBuffer} (hf : d.cells? = some f) (place : Nat × Nat) :
    d.Has place ↔ place.1 < f.width ∧ place.2 < f.height := by
  rw [Has, width_eq, height_eq, hf]
  rfl

theorem isCountable_of_cells?_eq_some {f : FrameBuffer} (h : d.cells? = some f)
    (hf : f.IsCountable) : d.IsCountable := by
  intro g hg
  rwa [← Option.some.inj (h.symm.trans hg)]

/-! ## What the frame tells -/

theorem width_frame (d : Display) : Screen.width d.frame = Screen.width d := by
  cases d <;> rfl

theorem height_frame (d : Display) : Screen.height d.frame = Screen.height d := by
  cases d <;> rfl

theorem isOversized_frame (d : Display) : d.frame.isOversized = d.isOversized := by
  cases d <;> rfl

theorem cells?_frame (d : Display) : d.frame.cells? = d.cells?.map FrameBuffer.clear := by
  cases d <;> rfl

theorem isCountable_frame_iff (d : Display) : d.frame.IsCountable ↔ d.IsCountable := by
  unfold IsCountable
  rw [cells?_frame]
  cases d.cells? with
  | none => simp
  | some f => simp [FrameBuffer.IsCountable, FrameBuffer.clear, FrameBuffer.blank]

theorem width_congr (h : d.frame = d'.frame) : Screen.width d = Screen.width d' := by
  rw [← width_frame, h, width_frame]

theorem height_congr (h : d.frame = d'.frame) : Screen.height d = Screen.height d' := by
  rw [← height_frame, h, height_frame]

theorem has_congr (h : d.frame = d'.frame) (place : Nat × Nat) : d.Has place ↔ d'.Has place := by
  rw [Has, width_congr h, height_congr h, Has]

theorem paintFault?_congr (h : d.frame = d'.frame) : d.paintFault? = d'.paintFault? := by
  rw [paintFault?, ← isOversized_frame, h, isOversized_frame, paintFault?]

theorem isCountable_congr (h : d.frame = d'.frame) : d.IsCountable ↔ d'.IsCountable := by
  rw [← isCountable_frame_iff, h, isCountable_frame_iff]

theorem sides?_frame (d : Display) : d.frame.sides? = d.sides? := by
  cases d <;> rfl

theorem sides?_congr (h : d.frame = d'.frame) : d.sides? = d'.sides? := by
  rw [← sides?_frame, h, sides?_frame]

theorem sides?_eq_some_iff {w h : Nat} :
    d.sides? = some (w, h) ↔ ∃ f, d.cells? = some f ∧ f.width = w ∧ f.height = h := by
  simp [sides?]

theorem isCountable_of_sides? (h : d.sides? = d'.sides?) (hd : d'.IsCountable) :
    d.IsCountable := by
  intro f hf
  unfold sides? at h
  rw [hf] at h
  cases hf' : d'.cells? with
  | none => rw [hf'] at h; cases h
  | some f' =>
    rw [hf'] at h
    injection h with h
    injection h with hw hh
    have := hd f' hf'
    rwa [FrameBuffer.IsCountable, hw, hh]

/-! ## Flipping -/

theorem Flipped.refl (d : Display) : Flipped d [] d where
  frame := rfl
  cells := by
    cases d.cells? with
    | none => rfl
    | some f => simp [FrameBuffer.flip_nil]

theorem Flipped.cons {place : Nat × Nat} {places : List (Nat × Nat)} (h : place ∉ places)
    (hd : Flipped d [place] d') (hd' : Flipped d' places d'') :
    Flipped d (place :: places) d'' where
  frame := hd'.frame.trans hd.frame
  cells := by
    rw [hd'.cells, hd.cells, Option.map_map]
    congr 1
    funext f
    exact f.flip_flip h

/-- The cells at other places stay as they are. -/
theorem Flipped.isLit {place other : Nat × Nat} (hd : Flipped d [place] d') (h : other ≠ place)
    (hother : d.Has other) : d'.isLit other = d.isLit other := by
  unfold Display.isLit
  rw [hd.cells]
  cases hc : d.cells? with
  | none => rfl
  | some f =>
    have hf := (has_iff_of_cells? hc other).mp hother
    change (f.flip [place]).pixel other.1 other.2 = f.pixel other.1 other.2
    rw [FrameBuffer.pixel_flip [place] hf.1 hf.2]
    simp [h]

/-! ## Acts on the cells keep the frame -/

theorem frame_clear (s : Display × Host) : (Screen.clear s).1.frame = s.1.frame := by
  obtain ⟨d, h⟩ := s
  cases d <;> rfl

theorem cells?_clear (s : Display × Host) :
    (Screen.clear s).1.cells? = s.1.cells?.map FrameBuffer.clear := by
  obtain ⟨d, h⟩ := s
  cases d <;> rfl

theorem frame_getPixel (x y : Int) (s : Display × Host) :
    (stateOf (Screen.getPixel x y s)).1.frame = s.1.frame := by
  obtain ⟨d, h⟩ := s
  cases d with
  | bitmap f =>
    change (stateOf (lift bitmap (Screen.getPixel x y) f h)).1.frame = _
    simp only [lift, stateOf_resultWithin, Screen.getPixel]
    cases f.getPixel x y <;> rfl
  | null d => rfl
  | recorded r =>
    change (stateOf (lift recorded (Screen.getPixel x y) r h)).1.frame = _
    simp only [lift, stateOf_resultWithin, Screen.getPixel]
    cases r.bitmap.getPixel x y <;> rfl
  | window w =>
    change (stateOf (lift window (Screen.getPixel x y) w h)).1.frame = _
    simp only [lift, stateOf_resultWithin, Screen.getPixel]
    cases w.bitmap.getPixel x y <;> rfl

theorem frame_drawPixel (x y : Int) (hint : Number) (on : Bool) (s : Display × Host) :
    (stateOf (Screen.drawPixel x y hint on s)).1.frame = s.1.frame := by
  obtain ⟨d, h⟩ := s
  cases d with
  | bitmap f =>
    change (stateOf (lift bitmap (Screen.drawPixel x y hint on) f h)).1.frame = _
    simp only [lift, stateOf_resultWithin, Screen.drawPixel]
    cases hf : f.drawPixel x y on with
    | error fault => rfl
    | ok f' => exact congrArg bitmap (FrameBuffer.clear_of_drawPixel hf)
  | null d => rfl
  | recorded r =>
    change (stateOf (lift recorded (Screen.drawPixel x y hint on) r h)).1.frame = _
    simp only [lift, stateOf_resultWithin, Screen.drawPixel]
    cases hint.toReal with
    | error fault => rfl
    | ok hint =>
      dsimp only
      cases hf : r.bitmap.drawPixel x y on with
      | error fault => rfl
      | ok f' => exact congrArg (fun f => recorded ⟨f⟩) (FrameBuffer.clear_of_drawPixel hf)
  | window w =>
    change (stateOf (lift window (Screen.drawPixel x y hint on) w h)).1.frame = _
    simp only [lift, stateOf_resultWithin, Screen.drawPixel, Window.drawPixel]
    cases hf : w.bitmap.drawPixel x y on with
    | error fault => rfl
    | ok f' =>
      have hclear := FrameBuffer.clear_of_drawPixel hf
      dsimp only
      split
      · cases Window.pixelSize w.scale hint <;> simp only [stateOf, frame, hclear]
      · simp only [stateOf, frame, hclear]

/-! ## Switching on -/

/-- Switching on keeps the sides, also where it fails. -/
theorem sides?_powerOn (s : Display × Host) :
    (stateOf (Screen.powerOn s)).1.sides? = s.1.sides? := by
  obtain ⟨d, h⟩ := s
  cases d with
  | bitmap f => rfl
  | null d => rfl
  | recorded r => rfl
  | window w =>
    change (stateOf (lift window Window.powerOn w h)).1.sides? = _
    rw [lift, stateOf_resultWithin]
    have hclear := Window.clear_powerOn (w, h)
    exact congrArg (fun f => some (f.width, f.height)) hclear

/-- The display with its window open, if it has one. -/
def readied : Display → Display
  | window w => window { w with opened := true }
  | d => d

theorem frame_of_powerOn {s s' : Display × Host} (h : Screen.powerOn s = .ok () s') :
    s'.1.frame = s.1.frame.readied := by
  obtain ⟨d, host⟩ := s
  cases d with
  | bitmap f => cases h; rfl
  | null d => cases h; rfl
  | recorded r => cases h; rfl
  | window w =>
    change resultWithin (fun s : Window × Host => (Display.window s.1, s.2))
      (Window.powerOn (w, host)) = _ at h
    cases hpower : Window.powerOn (w, host) with
    | error fault t =>
      rw [hpower] at h
      cases h
    | ok a t =>
      have ht := Window.fst_of_powerOn hpower
      rw [hpower] at h
      cases h
      show (Display.window t.1).frame = _
      rw [ht]
      rfl

/-! ## Reading a cell and drawing its opposite -/

variable {place : Nat × Nat}

theorem getPixel_of_has (hcount : d.IsCountable) (h : d.Has place) (host : Host) :
    ∃ host', Screen.getPixel (place.1 : Int) (place.2 : Int) (d, host) =
      .ok (d.isLit place) (d, host') := by
  cases d with
  | bitmap f =>
    refine ⟨host, ?_⟩
    change lift bitmap (Screen.getPixel _ _) f host = _
    simp only [lift, Screen.getPixel, FrameBuffer.getPixel_of_lt (hcount f rfl) h.1 h.2]
    rfl
  | null d => exact ⟨host, rfl⟩
  | recorded r =>
    refine ⟨host.call (.pixelRead place.1 place.2), ?_⟩
    change lift recorded (Screen.getPixel _ _) r host = _
    simp only [lift, Screen.getPixel, FrameBuffer.getPixel_of_lt (hcount r.bitmap rfl) h.1 h.2]
    rfl
  | window w =>
    refine ⟨host, ?_⟩
    change lift window (Screen.getPixel _ _) w host = _
    simp only [lift, Screen.getPixel, FrameBuffer.getPixel_of_lt (hcount w.bitmap rfl) h.1 h.2]
    rfl

theorem drawPixel_of_has (hcount : d.IsCountable) (h : d.Has place) (host : Host) :
    ∃ d' host', Flipped d [place] d' ∧
      Screen.drawPixel (place.1 : Int) (place.2 : Int) Number.one (!d.isLit place) (d, host) =
        ended d.paintFault? (d', host') := by
  cases d with
  | bitmap f =>
    refine ⟨bitmap (f.flip [place]), host, ⟨rfl, rfl⟩, ?_⟩
    change lift bitmap (Screen.drawPixel _ _ _ (!f.pixel place.1 place.2)) f host = _
    simp only [lift, Screen.drawPixel, FrameBuffer.drawPixel_flip (hcount f rfl) h.1 h.2]
    rfl
  | null d => exact ⟨null d, host, ⟨rfl, rfl⟩, rfl⟩
  | recorded r =>
    refine ⟨recorded ⟨r.bitmap.flip [place]⟩,
      host.call (.pixelDrawn place.1 place.2 Binary64.one (!r.bitmap.pixel place.1 place.2)),
      ⟨rfl, rfl⟩, ?_⟩
    change lift recorded (Screen.drawPixel _ _ _ (!r.bitmap.pixel place.1 place.2)) r host = _
    simp only [lift, Screen.drawPixel, Number.one, Number.toReal,
      FrameBuffer.drawPixel_flip (hcount r.bitmap rfl) h.1 h.2]
    rfl
  | window w =>
    change ∃ d' host', Flipped (window w) [place] d' ∧
      lift window (Screen.drawPixel _ _ _ (!w.bitmap.pixel place.1 place.2)) w host = _
    simp only [lift, Screen.drawPixel, Window.drawPixel,
      FrameBuffer.drawPixel_flip (hcount w.bitmap rfl) h.1 h.2]
    cases hopened : w.opened with
    | false =>
      refine ⟨window { w with bitmap := w.bitmap.flip [place] }, host, ⟨rfl, rfl⟩, ?_⟩
      simp [resultWithin, paintFault?, isOversized, hopened, ended]
    | true =>
      by_cases hscale : Binary64.overflowBound ≤ w.scale
      · refine ⟨window { w with bitmap := w.bitmap.flip [place] }, host, ⟨rfl, rfl⟩, ?_⟩
        simp [resultWithin, paintFault?, isOversized, hopened, ended, hscale,
          Window.pixelSize_of_le hscale]
      · obtain ⟨side, hside⟩ := Window.exists_pixelSize (by omega : w.scale < _)
        refine ⟨window { w with bitmap := w.bitmap.flip [place], dirty := true },
          host.call (.fill (if !w.bitmap.pixel place.1 place.2 then w.palette.foreground
            else w.palette.background) (some (Window.square place.1 place.2 side))),
          ⟨rfl, rfl⟩, ?_⟩
        simp [resultWithin, paintFault?, isOversized, hopened, ended, hscale, hside]

end Display

namespace Sprite

open Display

variable {c : Canvas Display} {place : Nat × Nat}

theorem keeps_frame_flipCell (hint : Number) (x y : Nat) (fr : Display) :
    Act.Keeps (fun c : Canvas Display => c.screen.1.frame = fr) (flipCell hint x y) := by
  intro c hc
  have hread := frame_getPixel x y c.screen
  unfold flipCell
  cases hg : Screen.getPixel (x : Int) (y : Int) c.screen with
  | error fault s =>
    rw [hg] at hread
    exact hread.trans hc
  | ok lit s =>
    rw [hg] at hread
    have hdrawn := frame_drawPixel x y hint (!lit) s
    dsimp only
    cases hd : Screen.drawPixel (x : Int) (y : Int) hint (!lit) s <;> rw [hd] at hdrawn <;>
      exact (hdrawn.trans hread).trans hc

/-- Flipping a cell turns it over and tells whether it was lit, even where painting it fails. -/
theorem flipCell_eq (hcount : c.screen.1.IsCountable) (h : c.screen.1.Has place) :
    ∃ c', Flipped c.screen.1 [place] c'.screen.1 ∧
      c'.hit = (c.hit || c.screen.1.isLit place) ∧
      flipCell Number.one place.1 place.2 c = ended c.screen.1.paintFault? c' := by
  obtain ⟨⟨d, host⟩, hit⟩ := c
  obtain ⟨host', hread⟩ := getPixel_of_has hcount h host
  obtain ⟨d', host'', hflipped, hdrawn⟩ := drawPixel_of_has hcount h host'
  refine ⟨⟨(d', host''), hit || d.isLit place⟩, hflipped, rfl, ?_⟩
  unfold flipCell
  simp only [hread, hdrawn]
  cases d.paintFault? <;> rfl

end Sprite

end Chip8
