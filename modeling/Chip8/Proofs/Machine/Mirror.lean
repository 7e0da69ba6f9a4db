/-
  The window mirrors the bitmap. Whatever was drawn before, a window that is opened shows its
  bitmap cell by cell, and it goes on doing so while cells are drawn, cleared and presented, and
  while a machine runs on it, whether its instructions succeed or fail
  (`window_mirrors_bitmap`).
-/
import Chip8.Proofs.Display.Surface
import Chip8.Proofs.Machine.Stage

namespace Chip8

/-- A display that is an open window mirroring its bitmap. -/
def Display.Shows (side : Nat) (colours : Palette) (before : List HostCall) (s : Display × Host) :
    Prop :=
  ∃ w, s.1 = .window w ∧ Window.Shown side colours before (w, s.2)

namespace Display

variable {side : Nat} {colours : Palette} {before : List HostCall}

theorem shows_of_asks {kind : HostCall → Bool} {d : Display} {h h' : Host}
    (hs : Shows side colours before (d, h)) (hasks : h.Asks kind h')
    (hkind : ∀ c, kind c = true → c.isPainting = false) : Shows side colours before (d, h') := by
  obtain ⟨w, hw, hshown⟩ := hs
  exact ⟨w, hw, hshown.asks hasks hkind⟩

/-- Flipping a cell of the screen paints its square. -/
theorem shows_flipCell (hpos : 0 < side) (hside : side < 2 ^ 53) {x y : Nat}
    {c : Sprite.Canvas Display} (hs : Shows side colours before c.screen)
    (hhas : c.screen.1.Has (x, y)) :
    Shows side colours before (stateOf (Sprite.flipCell Number.one x y c)).screen := by
  obtain ⟨⟨d, h⟩, hit⟩ := c
  obtain ⟨w, hw, hshown⟩ := hs
  dsimp only at hw hshown hhas
  subst hw
  have hstandard : Window.IsStandard w.bitmap := hshown.standard
  have hx : x < FrameBuffer.standardWidth := hstandard.width ▸ hhas.1
  have hy : y < FrameBuffer.standardHeight := hstandard.height ▸ hhas.2
  obtain ⟨⟨w', h'⟩, hdraw, hshown'⟩ := hshown.drawPixel hpos hside hx hy (!w.bitmap.pixel x y)
  have hread : Screen.getPixel (x : Int) (y : Int) (window w, h) =
      .ok (w.bitmap.pixel x y) (window w, h) := by
    change resultWithin _ (Screen.getPixel (x : Int) (y : Int) (w, h)) = _
    simp only [Screen.getPixel, hstandard.getPixel hx hy]
    rfl
  have hdrawn : Screen.drawPixel (x : Int) (y : Int) Number.one (!w.bitmap.pixel x y)
      (window w, h) = .ok () (window w', h') := by
    change resultWithin _ (Window.drawPixel x y Number.one (!w.bitmap.pixel x y) (w, h)) = _
    rw [hdraw]
    rfl
  unfold Sprite.flipCell
  simp only [hread, hdrawn]
  exact ⟨w', rfl, hshown'⟩

theorem isPainted_shows (hpos : 0 < side) (hside : side < 2 ^ 53) :
    IsPainted (Shows side colours before) where
  log category message hs := shows_of_asks hs (Host.asks_log (fun _ => false) _ category message)
    fun _ hc => by cases hc
  clear {s} hs := by
    obtain ⟨d, h⟩ := s
    obtain ⟨w, hw, hshown⟩ := hs
    dsimp only at hw hshown
    subst hw
    exact ⟨_, rfl, hshown.clear⟩
  flipCell := shows_flipCell hpos hside

theorem shows_of_isSound {d : Display} {h h' : Host} (hs : Shows side colours before (d, h))
    (hasks : h.Asks HostCall.isSound h') : Shows side colours before (d, h') :=
  shows_of_asks hs hasks fun _ => HostCall.not_isPainting_of_isSound

end Display

/-- The settings of a new window. -/
theorem Window.of_ofColours {scale : Int} {colours : List (List Number)} {fullscreen : Bool}
    {caption : Text} {w : Window} (h : ofColours scale colours fullscreen caption = .ok w) :
    0 < scale ∧ w.scale = scale.toNat ∧ IsStandard w.bitmap := by
  unfold ofColours ofSettings at h
  split at h
  · rename_i hpos
    cases hpalette : Palette.ofColours colours with
    | error fault =>
      rw [hpalette] at h
      cases h
    | ok palette =>
      rw [hpalette] at h
      cases h
      exact ⟨hpos, rfl, rfl⟩
  · cases h

/-- A window that was readied shows its bitmap. -/
theorem Display.shows_of_powerOn {w : Window} {host : Host} {s : Display × Host}
    (hscale : w.scale < 2 ^ 53) (hstandard : Window.IsStandard w.bitmap)
    (h : Screen.powerOn (Display.window w, host) = .ok () s) :
    Shows w.scale w.palette host.calls.toList s := by
  have hlift : Screen.powerOn (Display.window w, host) =
      resultWithin (fun s => (Display.window s.1, s.2)) (Window.powerOn (w, host)) := rfl
  rw [hlift] at h
  cases htoolkit : host.toolkit with
  | true =>
    obtain ⟨s₁, hpower, hshown⟩ := Window.shown_powerOn htoolkit hscale hstandard
    rw [hpower] at h
    cases h
    exact ⟨s₁.1, rfl, hshown⟩
  | false =>
    have hrefused : Window.powerOn (w, host) = .error .displayUnavailable (w, host) := by
      unfold Window.powerOn
      rw [Act.get_bind]
      dsimp only
      rw [htoolkit]
      rfl
    rw [hrefused] at h
    cases h

/-- A window of a scale below `2 ^ 53`, on which anything may have been drawn before it is opened.
Opening succeeds, and so does everything drawn then; after it every cell is a square of the
cell's colour, and nothing was painted outside the window. The same holds after every run of a
machine on this display. -/
theorem window_mirrors_bitmap {scale : Int} (hscale : scale < 2 ^ 53)
    {colours : List (List Number)} {fullscreen : Bool} {caption : Text} {w : Window}
    (hw : Window.ofColours scale colours fullscreen caption = .ok w) (host : Host)
    (htoolkit : host.toolkit = true) (early : List Window.Stroke) :
    let drawn := Window.Stroke.afterAll early (w, host)
    (∃ opened, Window.powerOn drawn = .ok () opened ∧
      ∀ later : List Window.Stroke, (∀ stroke ∈ later, stroke.IsPlain) →
        ∃ s added, later.forM Window.Stroke.act opened = .ok () s ∧
          s.2.calls.toList = drawn.2.calls.toList ++ added ∧
          Window.Mirrors scale.toNat w.palette s.1.bitmap added) ∧
    ∀ (config : MachineConfig Display) (before after : Host) (start : Emulator Display),
      config.display = .window drawn.1 → Machine.create config before = .ok start after →
      ∀ events, ∃ shown added, (start.run events).machine.display = .window shown ∧
        (start.run events).host.calls.toList = before.calls.toList ++ added ∧
        Window.Mirrors scale.toNat w.palette shown.bitmap added := by
  intro drawn
  obtain ⟨hpos, hsame, hstandard⟩ := Window.of_ofColours hw
  have hside : scale.toNat < 2 ^ 53 := by omega
  have hset : Window.IsSet scale.toNat w.palette host drawn :=
    Window.isSet_afterAll (s := (w, host)) ⟨hsame, rfl, hstandard, rfl⟩ htoolkit hside early
  have hscale' : drawn.1.scale < 2 ^ 53 := by
    rw [hset.scale]
    exact hside
  constructor
  · have htoolkit' : drawn.2.toolkit = true := (congrArg Host.toolkit hset.host :).trans htoolkit
    obtain ⟨opened, hpower, hshown⟩ := Window.shown_powerOn htoolkit' hscale' hset.standard
    rw [hset.scale, hset.palette] at hshown
    refine ⟨opened, hpower, fun later hplain => ?_⟩
    obtain ⟨s, hlater, hs⟩ := hshown.strokes (by omega) hside hplain
    obtain ⟨added, hcalls, hmirrors⟩ := hs.mirrors
    exact ⟨s, added, hlater, hcalls, hmirrors⟩
  · intro config before after start hdisplay hcreate events
    have hpainted : IsPainted (Display.Shows scale.toNat w.palette before.calls.toList) :=
      Display.isPainted_shows (by omega) hside
    have hready : ∀ s, Screen.powerOn (config.display, before) = .ok () s →
        Display.Shows scale.toNat w.palette before.calls.toList s := by
      intro s hs
      rw [hdisplay] at hs
      have hshows := Display.shows_of_powerOn hscale' hset.standard hs
      rwa [hset.scale, hset.palette] at hshows
    have hstart := Machine.staged_of_create hpainted hready
      (fun hs => Display.shows_of_isSound hs (Audio.asks_powerOn _)) hcreate
    obtain ⟨shown, hwindow, hshown⟩ :=
      (Emulator.staged_run Display.shows_of_isSound hpainted hstart events).shown
    obtain ⟨added, hcalls, hmirrors⟩ := hshown.mirrors
    exact ⟨shown, added, hwindow, hcalls, hmirrors⟩

/-- Each cell is a square of five pixels a side; one is drawn before the window is opened, and one
after. -/
theorem window_mirrors_bitmap_five : ∃ (w : Window) (opened s : Window × Host)
    (added : List HostCall),
    Window.ofColours 5 [[.whole 0, .whole 0, .whole 0], [.whole 255, .whole 255, .whole 255]]
      false Window.standardCaption = .ok w ∧
    Window.powerOn (Window.Stroke.afterAll [.draw 1 1 Number.one true] (w, {})) =
      .ok () opened ∧
    [Window.Stroke.draw 2 3 Number.one true].forM Window.Stroke.act opened = .ok () s ∧
    Window.Mirrors 5 w.palette s.1.bitmap added := by
  let w : Window := Window.ofScale 5
  have hw : Window.ofColours 5
      [[.whole 0, .whole 0, .whole 0], [.whole 255, .whole 255, .whole 255]] false
      Window.standardCaption = .ok w := rfl
  obtain ⟨⟨opened, hpower, hlater⟩, -⟩ :=
    window_mirrors_bitmap (by decide) hw {} rfl [.draw 1 1 Number.one true]
  obtain ⟨s, added, hdrawn, -, hmirrors⟩ :=
    hlater [.draw 2 3 Number.one true] (by
      intro stroke hstroke
      cases List.mem_singleton.mp hstroke
      exact ⟨rfl, by decide, by decide⟩)
  exact ⟨w, opened, s, added, hw, hpower, hdrawn, hmirrors⟩

end Chip8
