/-
  When the window is shown anew. Among the requests of a host, something is painted and not shown
  yet if a fill stands behind the last flip, or behind the first opening of a window where there
  was no flip (`Window.IsUnshown`). Once a window was opened with success, its flag tells just this
  (`Window.Tracks`). Every stroke keeps it so, whether the stroke succeeds or fails
  (`Window.Tracks.stroke`), so that presenting flips when it has to and only then
  (`flips_of_strokes`).
-/
import Chip8.Proofs.Display.Surface

namespace Chip8

namespace Window

/-! ## Paintings that are not shown -/

/-- A window was opened. -/
def HasOpened (calls : List HostCall) : Prop :=
  ∃ width height fullscreen, .openWindow width height fullscreen ∈ calls

/-- A window was opened, and painted after that. -/
def HasPainted (calls : List HostCall) : Prop :=
  ∃ before colour area after, calls = before ++ .fill colour area :: after ∧ HasOpened before

/-- Something was painted since the last flip, or since the first window was opened where nothing
was flipped. -/
def IsUnshown (calls : List HostCall) : Prop :=
  ∃ before colour area after, calls = before ++ .fill colour area :: after ∧
    .flip ∉ after ∧ (.flip ∈ before ∨ HasOpened before)

variable {calls : List HostCall} {c : HostCall}

theorem HasOpened.append (h : HasOpened calls) (added : List HostCall) :
    HasOpened (calls ++ added) := by
  obtain ⟨width, height, fullscreen, hmem⟩ := h
  exact ⟨width, height, fullscreen, List.mem_append_left added hmem⟩

theorem HasPainted.hasOpened (h : HasPainted calls) : HasOpened calls := by
  obtain ⟨before, colour, area, after, rfl, hopened⟩ := h
  exact hopened.append _

theorem HasPainted.append (h : HasPainted calls) (added : List HostCall) :
    HasPainted (calls ++ added) := by
  obtain ⟨before, colour, area, after, rfl, hopened⟩ := h
  exact ⟨before, colour, area, after ++ added, List.append_assoc .., hopened⟩

/-- Once a window was opened, each fill is to be shown. -/
theorem isUnshown_fill (h : HasOpened calls) (colour : Colour) (area : Option Rect) :
    IsUnshown (calls ++ [.fill colour area]) :=
  ⟨calls, colour, area, [], rfl, List.not_mem_nil, .inr h⟩

/-- After a flip everything is shown. -/
theorem not_isUnshown_flip (calls : List HostCall) : ¬ IsUnshown (calls ++ [.flip]) := by
  rintro ⟨before, colour, area, after, hsplit, hafter, -⟩
  rcases split_of_concat hsplit with ⟨hfill, -, -⟩ | ⟨rest, rfl, -⟩
  · cases hfill
  · exact hafter (List.mem_append_right rest List.mem_cons_self)

/-- Requests that neither paint nor flip do not matter. -/
theorem isUnshown_concat (hflip : c ≠ .flip) (hfill : ∀ colour area, c ≠ .fill colour area) :
    IsUnshown (calls ++ [c]) ↔ IsUnshown calls := by
  constructor
  · rintro ⟨before, colour, area, after, hsplit, hafter, hbefore⟩
    rcases split_of_concat hsplit with ⟨hsame, -, -⟩ | ⟨rest, rfl, hcalls⟩
    · exact absurd hsame (hfill colour area)
    · refine ⟨before, colour, area, rest, hcalls, fun h => ?_, hbefore⟩
      exact hafter (List.mem_append_left _ h)
  · rintro ⟨before, colour, area, after, rfl, hafter, hbefore⟩
    refine ⟨before, colour, area, after ++ [c], List.append_assoc .., fun h => ?_, hbefore⟩
    rcases List.mem_append.mp h with h | h
    · exact hafter h
    · exact hflip (List.mem_singleton.mp h).symm

/-- Where everything painted is shown, the last flip came after all fills. -/
theorem exists_last_flip (hpainted : HasPainted calls) (hshown : ¬ IsUnshown calls) :
    ∃ before after, calls = before ++ .flip :: after ∧
      ∀ colour area, .fill colour area ∉ after := by
  have hflip : .flip ∈ calls := by
    obtain ⟨before, colour, area, after, rfl, hopened⟩ := hpainted
    by_contra hnone
    refine hshown ⟨before, colour, area, after, rfl, fun h => hnone ?_, .inr hopened⟩
    exact List.mem_append_right before (List.mem_cons_of_mem _ h)
  obtain ⟨after, before, hsplit, hlast⟩ :=
    List.eq_append_cons_of_mem (List.mem_reverse.mpr hflip)
  have hcalls : calls = before.reverse ++ .flip :: after.reverse := by
    rw [← List.reverse_reverse calls, hsplit]
    simp
  refine ⟨before.reverse, after.reverse, hcalls, fun colour area hfill => ?_⟩
  obtain ⟨between, later, hlater⟩ := List.append_of_mem hfill
  refine hshown ⟨before.reverse ++ .flip :: between, colour, area, later, ?_, fun h => hlast ?_,
    .inl (List.mem_append_right _ List.mem_cons_self)⟩
  · rw [hcalls, hlater, List.append_assoc, List.cons_append]
  · rw [← List.mem_reverse, hlater]
    exact List.mem_append_right between (List.mem_cons_of_mem _ h)

/-! ## How the flag goes along -/

/-- An open window that was painted, with a flag for what is not shown yet. -/
structure Tracks (s : Window × Host) : Prop where
  opened : s.1.opened = true
  painted : HasPainted s.2.calls.toList
  dirty : s.1.dirty = true ↔ IsUnshown s.2.calls.toList

variable {s : Window × Host}

/-- Clearing an open window paints it. -/
theorem calls_clear {w : Window} (hopened : w.opened = true) (h : Host) :
    (clear (w, h)).2.calls.toList = h.calls.toList ++ [.fill w.palette.background none] := by
  simp [clear, hopened, Host.call]

theorem tracks_clear {w : Window} {h : Host} (hopened : w.opened = true)
    (hasked : HasOpened h.calls.toList) : Tracks (clear (w, h)) where
  opened := hopened
  painted := by
    rw [calls_clear hopened]
    exact ⟨_, _, _, [], rfl, hasked⟩
  dirty := by
    rw [calls_clear hopened]
    exact ⟨fun _ => isUnshown_fill hasked _ _, fun _ => rfl⟩

theorem hasOpened_of_isOpening {w : Window} {h h' : Host} (hh' : IsOpening w h h') :
    HasOpened h'.calls.toList := by
  rw [hh']
  exact ⟨_, _, _, List.mem_append_left _ (List.mem_append_right _ List.mem_cons_self)⟩

theorem isUnshown_of_isOpening {w : Window} {h h' : Host} (hh' : IsOpening w h h') :
    IsUnshown h'.calls.toList ↔ IsUnshown h.calls.toList := by
  rw [hh', isUnshown_concat (c := .caption w.caption) nofun nofun,
    isUnshown_concat (c := .openWindow w.size.1 w.size.2 w.fullscreen) nofun nofun]

/-- Once a window was opened with success, its flag tells what is not shown, whatever came
before. -/
theorem tracks_of_powerOn {s s' : Window × Host} (h : powerOn s = .ok () s') : Tracks s' := by
  obtain ⟨h', hh', rfl⟩ := (endsIn_powerOn s.1 s.2).of_ok h
  exact tracks_clear rfl (hasOpened_of_isOpening hh')

namespace Tracks

theorem powerOn (hs : Tracks s) : Tracks (stateOf (Window.powerOn s)) := by
  have hend := endsIn_powerOn s.1 s.2
  cases hpower : Window.powerOn s with
  | ok a s' => exact tracks_of_powerOn hpower
  | error fault s' =>
    obtain rfl | ⟨h', hh', rfl⟩ := hend.of_error hpower
    · exact hs
    · refine ⟨rfl, ?_, hs.dirty.trans (isUnshown_of_isOpening hh').symm⟩
      change HasPainted h'.calls.toList
      rw [hh']
      exact (hs.painted.append _).append _

theorem clear (hs : Tracks s) : Tracks (Window.clear s) :=
  tracks_clear hs.opened hs.painted.hasOpened

theorem drawPixel (hs : Tracks s) (x y : Int) (hint : Number) (on : Bool) :
    Tracks (stateOf (Window.drawPixel x y hint on s)) := by
  obtain ⟨w, h⟩ := s
  have hopened : w.opened = true := hs.opened
  unfold Window.drawPixel
  dsimp only
  cases w.bitmap.drawPixel x y on with
  | error fault => exact hs
  | ok f =>
    dsimp only
    rw [if_pos hopened]
    cases pixelSize w.scale hint with
    | error fault => exact ⟨hopened, hs.painted, hs.dirty⟩
    | ok side =>
      have hasked : HasOpened h.calls.toList := hs.painted.hasOpened
      refine ⟨hopened, ?_, ?_⟩
      · change HasPainted (h.calls.push _).toList
        rw [Array.toList_push]
        exact hs.painted.append _
      · change true = true ↔ IsUnshown (h.calls.push _).toList
        rw [Array.toList_push]
        exact ⟨fun _ => isUnshown_fill hasked _ _, fun _ => rfl⟩

/-- Presenting flips just where the flag says so. -/
theorem calls_present (hs : Tracks s) : (Window.present s).2.calls.toList =
    s.2.calls.toList ++ if s.1.dirty then [.flip] else [] := by
  obtain ⟨w, h⟩ := s
  have hopened : w.opened = true := hs.opened
  unfold Window.present
  dsimp only
  rw [hopened, Bool.and_true]
  split
  · exact Array.toList_push
  · exact (List.append_nil _).symm

theorem dirty_present (hs : Tracks s) : (Window.present s).1.dirty = false := by
  obtain ⟨w, h⟩ := s
  have hopened : w.opened = true := hs.opened
  unfold Window.present
  dsimp only
  rw [hopened, Bool.and_true]
  split
  · rfl
  · rename_i hclean
    exact Bool.eq_false_iff.mpr hclean

theorem opened_present (hs : Tracks s) : (Window.present s).1.opened = true := by
  obtain ⟨w, h⟩ := s
  unfold Window.present
  dsimp only
  split <;> exact hs.opened

theorem present (hs : Tracks s) : Tracks (Window.present s) := by
  refine ⟨hs.opened_present, ?_, ?_⟩
  · rw [hs.calls_present]
    exact hs.painted.append _
  · rw [hs.dirty_present, hs.calls_present]
    cases hdirty : s.1.dirty with
    | true => exact iff_of_false Bool.false_ne_true (not_isUnshown_flip _)
    | false =>
      rw [if_neg Bool.false_ne_true, List.append_nil, ← hs.dirty, hdirty]

/-- Presenting again does nothing. -/
theorem present_present (hs : Tracks s) :
    Window.present (Window.present s) = Window.present s := by
  have hclean := hs.dirty_present
  generalize Window.present s = s' at hclean ⊢
  unfold Window.present
  dsimp only
  rw [hclean]
  rfl

/-- Each stroke keeps what the flag tells, whether it succeeds or fails. -/
theorem stroke (hs : Tracks s) (stroke : Stroke) : Tracks (stateOf (stroke.act s)) := by
  cases stroke with
  | powerOn => exact hs.powerOn
  | clear => exact hs.clear
  | present => exact hs.present
  | draw x y hint on => exact hs.drawPixel x y hint on

theorem afterAll (hs : Tracks s) (strokes : List Stroke) : Tracks (Stroke.afterAll strokes s) := by
  induction strokes generalizing s with
  | nil => exact hs
  | cons first rest ih => exact ih (hs.stroke first)

end Tracks

end Window

open Window

/-- A window that was opened with success, and then any strokes, each of which may fail. The flag
tells whether something is painted that is not shown. Presenting flips just where the flag says
so; after it, the last flip stands behind all fills; and presenting again does nothing. -/
theorem flips_of_strokes {start opened : Window × Host} (h : Window.powerOn start = .ok () opened)
    (strokes : List Stroke) :
    let s := Stroke.afterAll strokes opened
    (s.1.dirty = true ↔ IsUnshown s.2.calls.toList) ∧
    (present s).2.calls.toList = s.2.calls.toList ++ (if s.1.dirty then [.flip] else []) ∧
    (∃ before after, (present s).2.calls.toList = before ++ .flip :: after ∧
      ∀ colour area, .fill colour area ∉ after) ∧
    present (present s) = present s := by
  intro s
  have hs : Tracks s := (tracks_of_powerOn h).afterAll strokes
  have hshown : ¬ IsUnshown (present s).2.calls.toList := by
    rw [← hs.present.dirty, hs.dirty_present]
    exact Bool.false_ne_true
  exact ⟨hs.dirty, hs.calls_present, exists_last_flip hs.present.painted hshown,
    hs.present_present⟩

/-- A window is opened, shown and cleared, and then a cell below it is drawn, which fails. -/
theorem flips_of_strokes_clear : ∃ opened s : Window × Host,
    Window.powerOn (Window.ofScale 5, {}) = .ok () opened ∧
    s = Stroke.afterAll [.present, .clear, .draw 0 32 Number.one true] opened ∧
    IsUnshown s.2.calls.toList ∧
    (present s).2.calls.toList = s.2.calls.toList ++ [.flip] := by
  obtain ⟨h', hpower, -, -⟩ := exists_powerOn (w := Window.ofScale 5) (h := {}) rfl (by decide)
  obtain ⟨hdirty, hpresent, -, -⟩ :=
    flips_of_strokes hpower [.present, .clear, .draw 0 32 Number.one true]
  have hset : (Stroke.afterAll [.present, .clear, .draw 0 32 Number.one true]
      ({ Window.ofScale 5 with opened := true, dirty := true }, h')).1.dirty = true := rfl
  exact ⟨_, _, hpower, rfl, hdirty.mp hset, hpresent⟩

end Chip8
