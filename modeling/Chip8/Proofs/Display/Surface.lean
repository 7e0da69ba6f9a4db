/-
  The window as it looks. A surface is the window's pixels as far as requests have painted them:
  opening a window gives a surface with nothing on it, and filling paints a rectangle, or all of
  it. Requests mirror a bitmap (`Mirrors`) if every cell's square has the colour of the cell and
  nothing was painted outside the window. A window that is opened mirrors its bitmap, whatever
  was drawn before (`shown_powerOn`), and clearing, presenting and drawing cells go on with it
  (`Shown.clear`, `Shown.present`, `Shown.drawPixel`): the squares of two cells have no pixel in
  common (`contains_square_iff`), so painting one leaves the others as they are.
-/
import Chip8.Proofs.Display.Frame

namespace Chip8

/-- Whether a rectangle has the pixel in column `x` of row `y`. -/
def Rect.Contains (r : Rect) (x y : Int) : Prop :=
  (r.left ≤ x ∧ x < r.left + r.width) ∧ r.top ≤ y ∧ y < r.top + r.height

instance (r : Rect) (x y : Int) : Decidable (r.Contains x y) := inferInstanceAs (Decidable (_ ∧ _))

/-- The pixels of a window. Those that were never painted have no colour. -/
structure Surface where
  width : Int := 0
  height : Int := 0
  colour? : Int → Int → Option Colour := fun _ _ => none

namespace Surface

/-- Paints the pixels of a rectangle and no others. -/
def fill (s : Surface) (colour : Colour) (r : Rect) : Surface :=
  { s with colour? := fun x y => if r.Contains x y then some colour else s.colour? x y }

/-- The surface after a request. -/
def after (s : Surface) : HostCall → Surface
  | .openWindow width height _ => { width, height }
  | .fill colour none => s.fill colour ⟨0, 0, s.width, s.height⟩
  | .fill colour (some r) => s.fill colour r
  | _ => s

/-- What requests have painted. -/
def ofCalls (calls : List HostCall) : Surface := calls.foldl after {}

theorem ofCalls_append (calls : List HostCall) (c : HostCall) :
    ofCalls (calls ++ [c]) = (ofCalls calls).after c := by
  rw [ofCalls, List.foldl_append]
  rfl

theorem after_of_not_isPainting (s : Surface) {c : HostCall} (h : c.isPainting = false) :
    s.after c = s := by
  cases c <;> first | rfl | cases h

theorem ofCalls_append_of_not_isPainting (calls : List HostCall) {added : List HostCall}
    (h : ∀ c ∈ added, c.isPainting = false) : ofCalls (calls ++ added) = ofCalls calls := by
  induction added generalizing calls with
  | nil => rw [List.append_nil]
  | cons c rest ih =>
    rw [List.append_cons, ih _ fun c' hc' => h c' (List.mem_cons_of_mem c hc'), ofCalls_append,
      after_of_not_isPainting _ (h c List.mem_cons_self)]

end Surface

namespace Window

/-! ## The squares of the cells -/

/-- Stretches of the same length that start at its multiples have nothing in common. -/
theorem stretch_iff {side : Nat} {k k' : Nat} {p : Int} (h : (k : Int) * side ≤ p)
    (h' : p < ((k : Int) + 1) * side) :
    ((k' : Int) * side ≤ p ∧ p < (k' : Int) * side + side) ↔ k' = k := by
  have hmul (j : Nat) : ((j : Int) + 1) * side = (j : Int) * side + side := by
    rw [Int.add_mul, Int.one_mul]
  have hle {i j : Nat} (hij : i < j) : ((i : Int) + 1) * side ≤ (j : Int) * side :=
    Int.mul_le_mul_of_nonneg_right (by omega) (by omega)
  constructor
  · rintro ⟨hlow, hhigh⟩
    rcases Nat.lt_trichotomy k' k with hlt | heq | hgt
    · have := hle hlt
      rw [hmul k'] at this
      omega
    · exact heq
    · have := hle hgt
      omega
  · rintro rfl
    rw [hmul k'] at h'
    exact ⟨h, h'⟩

/-- A pixel of a cell's square lies in no other cell's square. -/
theorem contains_square_iff {side x y x' y' : Nat} {px py : Int} (hx : (x : Int) * side ≤ px)
    (hx' : px < ((x : Int) + 1) * side) (hy : (y : Int) * side ≤ py)
    (hy' : py < ((y : Int) + 1) * side) :
    (square x' y' side).Contains px py ↔ x' = x ∧ y' = y :=
  and_congr (stretch_iff hx hx') (stretch_iff hy hy')

/-- The stretches up to a limit. -/
theorem stretch_le (side : Nat) {k limit : Nat} (hk : k < limit) :
    0 ≤ (k : Int) * side ∧ ((k : Int) + 1) * side ≤ (limit * side : Nat) := by
  rw [Int.natCast_mul]
  exact ⟨Int.mul_nonneg (by omega) (by omega),
    Int.mul_le_mul_of_nonneg_right (by omega) (by omega)⟩

/-! ## Mirroring -/

/-- A bitmap of the size of the machine's screen. -/
def IsStandard (f : FrameBuffer) : Prop := f.clear = default

/-- A window of the right size was opened, and nothing was painted outside it. -/
structure Fits (side : Nat) (calls : List HostCall) : Prop where
  width : (Surface.ofCalls calls).width = (FrameBuffer.standardWidth * side : Nat)
  height : (Surface.ofCalls calls).height = (FrameBuffer.standardHeight * side : Nat)
  inside : ∀ (colour : Colour) (r : Rect), .fill colour (some r) ∈ calls →
    (0 ≤ r.left ∧ 0 ≤ r.top) ∧
    r.left + r.width ≤ (FrameBuffer.standardWidth * side : Nat) ∧
    r.top + r.height ≤ (FrameBuffer.standardHeight * side : Nat)

/-- What was painted shows a bitmap, every cell as a square of the given side in the colour of the
cell. -/
structure Mirrors (side : Nat) (palette : Palette) (bitmap : FrameBuffer)
    (calls : List HostCall) : Prop extends Fits side calls where
  cell : ∀ x < FrameBuffer.standardWidth, ∀ y < FrameBuffer.standardHeight,
    ∃ lit, bitmap.getPixel x y = .ok lit ∧ ∀ px py : Int,
      (x : Int) * side ≤ px → px < ((x : Int) + 1) * side →
      (y : Int) * side ≤ py → py < ((y : Int) + 1) * side →
      (Surface.ofCalls calls).colour? px py =
        some (if lit then palette.foreground else palette.background)

theorem isStandard_default : IsStandard default := rfl

theorem pixel_default (x y : Nat) : (default : FrameBuffer).pixel x y = false := by
  change (FrameBuffer.blank FrameBuffer.standardWidth FrameBuffer.standardHeight).pixel x y = _
  exact FrameBuffer.pixel_blank ..

variable {f f' : FrameBuffer} {side : Nat} {palette : Palette} {calls added : List HostCall}

theorem IsStandard.width (h : IsStandard f) : f.width = FrameBuffer.standardWidth :=
  congrArg FrameBuffer.width h

theorem IsStandard.height (h : IsStandard f) : f.height = FrameBuffer.standardHeight :=
  congrArg FrameBuffer.height h

theorem IsStandard.isCountable (h : IsStandard f) : f.IsCountable := by
  unfold FrameBuffer.IsCountable
  rw [h.width, h.height]
  decide

theorem IsStandard.getPixel (h : IsStandard f) {x y : Nat} (hx : x < FrameBuffer.standardWidth)
    (hy : y < FrameBuffer.standardHeight) : f.getPixel x y = .ok (f.pixel x y) :=
  FrameBuffer.getPixel_of_lt h.isCountable (h.width ▸ hx) (h.height ▸ hy)

/-- Requests of other kinds do not matter. -/
theorem Fits.append (h : Fits side calls) (hadded : ∀ c ∈ added, c.isPainting = false) :
    Fits side (calls ++ added) where
  width := by rw [Surface.ofCalls_append_of_not_isPainting calls hadded, h.width]
  height := by rw [Surface.ofCalls_append_of_not_isPainting calls hadded, h.height]
  inside colour r hr := by
    rcases List.mem_append.mp hr with hr | hr
    · exact h.inside colour r hr
    · cases hadded _ hr

theorem Mirrors.append (h : Mirrors side palette f calls)
    (hadded : ∀ c ∈ added, c.isPainting = false) : Mirrors side palette f (calls ++ added) where
  toFits := h.toFits.append hadded
  cell x hx y hy := by
    rw [Surface.ofCalls_append_of_not_isPainting calls hadded]
    exact h.cell x hx y hy

/-- Opening a window of the right size. -/
theorem fits_openWindow (side : Nat) (fullscreen : Bool) :
    Fits side [.openWindow (FrameBuffer.standardWidth * side : Nat)
      (FrameBuffer.standardHeight * side : Nat) fullscreen] where
  width := rfl
  height := rfl
  inside _ _ hr := by simp at hr

/-- Painting all of the window, or a rectangle inside it. -/
theorem Fits.fill (h : Fits side calls) (colour : Colour) {place? : Option Rect}
    (hplace : ∀ r, place? = some r → (0 ≤ r.left ∧ 0 ≤ r.top) ∧
      r.left + r.width ≤ (FrameBuffer.standardWidth * side : Nat) ∧
      r.top + r.height ≤ (FrameBuffer.standardHeight * side : Nat)) :
    Fits side (calls ++ [.fill colour place?]) where
  width := by
    rw [Surface.ofCalls_append]
    cases place? <;> exact h.width
  height := by
    rw [Surface.ofCalls_append]
    cases place? <;> exact h.height
  inside colour r hr := by
    rcases List.mem_append.mp hr with hr | hr
    · exact h.inside colour r hr
    · simp only [List.mem_singleton, HostCall.fill.injEq] at hr
      exact hplace r hr.2.symm

/-- Painting all of the window shows a blank bitmap. -/
theorem Fits.mirrors_blank (h : Fits side calls) (palette : Palette) :
    Mirrors side palette default (calls ++ [.fill palette.background none]) where
  toFits := h.fill palette.background nofun
  cell x hx y hy := by
    refine ⟨_, isStandard_default.getPixel hx hy, fun px py hpx hpx' hpy hpy' => ?_⟩
    have hwide := stretch_le side hx
    have hhigh := stretch_le side hy
    have hcontains : Rect.Contains ⟨0, 0, (Surface.ofCalls calls).width,
        (Surface.ofCalls calls).height⟩ px py := by
      rw [h.width, h.height]
      refine ⟨⟨?_, ?_⟩, ?_, ?_⟩ <;> dsimp only <;> omega
    rw [Surface.ofCalls_append]
    change (if _ then some palette.background else _) = _
    rw [if_pos hcontains, pixel_default]
    rfl

/-- Painting the square of a cell that was drawn. -/
theorem Mirrors.fill_square (h : Mirrors side palette f calls) (hf : IsStandard f) {x y : Nat}
    (hx : x < FrameBuffer.standardWidth) (hy : y < FrameBuffer.standardHeight) {on : Bool}
    (hdraw : f.drawPixel x y on = .ok f') :
    Mirrors side palette f' (calls ++
      [.fill (if on then palette.foreground else palette.background)
        (some (square x y side))]) := by
  obtain ⟨f₁, hdraw₁, hsize, hpixel⟩ :=
    FrameBuffer.exists_drawPixel hf.isCountable (hf.width ▸ hx) (hf.height ▸ hy) on
  rw [hdraw] at hdraw₁
  cases hdraw₁
  constructor
  case toFits =>
    refine h.toFits.fill _ fun r hr => ?_
    cases hr
    have hwide := stretch_le side hx
    have hhigh := stretch_le side hy
    rw [Int.add_mul, Int.one_mul] at hwide hhigh
    unfold square
    dsimp only
    omega
  case cell =>
    intro x' hx' y' hy'
    have hf' : IsStandard f' := hsize.trans hf
    obtain ⟨lit, hread, hcolour⟩ := h.cell x' hx' y' hy'
    rw [hf.getPixel hx' hy'] at hread
    cases hread
    refine ⟨_, hf'.getPixel hx' hy', fun px py hpx hpx' hpy hpy' => ?_⟩
    rw [hpixel x' (hf.width ▸ hx') y' (hf.height ▸ hy'), Surface.ofCalls_append]
    change (if (square x y side).Contains px py then some _ else _) = _
    by_cases hsame : x = x' ∧ y = y'
    · rw [if_pos ((contains_square_iff hpx hpx' hpy hpy').mpr hsame)]
      obtain ⟨rfl, rfl⟩ := hsame
      rw [if_pos (⟨rfl, rfl⟩ : x = x ∧ y = y)]
    · have hother : ¬ (x' = x ∧ y' = y) := fun hc => hsame ⟨hc.1.symm, hc.2.symm⟩
      rw [if_neg fun hc => hsame ((contains_square_iff hpx hpx' hpy hpy').mp hc),
        hcolour px py hpx hpx' hpy hpy']
      simp only [hother, if_false]

/-! ## Opening the window -/

theorem exists_logSize {w : Window} {h : Host} (hsize : ∃ t, w.sizeText = .ok t) :
    ∃ h', logSize (w, h) = .ok ⟨⟩ (w, h') ∧ h'.flush = h.flush ∧ h'.calls = h.calls := by
  obtain ⟨t, ht⟩ := hsize
  rw [logSize_eq, ht, Host.tell_ok]
  exact ⟨_, rfl, h.flush_logged _ _, h.calls_logged _ _⟩

/-- With a toolkit, a window that can tell its size is opened. -/
theorem exists_powerOn {w : Window} {h : Host} (htoolkit : h.toolkit = true)
    (hscale : w.scale < 2 ^ 53) :
    ∃ h', powerOn (w, h) =
        .ok () ({ w with opened := true, dirty := true, bitmap := w.bitmap.clear }, h') ∧
      h'.flush = h.flush ∧
      h'.calls.toList = h.calls.toList ++ [.openWindow w.size.1 w.size.2 w.fullscreen] ++
        [.caption w.caption] ++ [.fill w.palette.background none] := by
  let w' : Window := { w with opened := true }
  let h₁ := (h.call (.openWindow w.size.1 w.size.2 w.fullscreen)).call (.caption w.caption)
  obtain ⟨h₂, hlog, hflush, hcalls⟩ :=
    exists_logSize (w := w') (h := h₁) (exists_sizeText (size_lt_of_lt hscale))
  refine ⟨h₂.call (.fill w.palette.background none), ?_, hflush, ?_⟩
  · unfold powerOn
    rw [Act.get_bind]
    dsimp only
    rw [htoolkit]
    exact Act.bind_ok hlog
  · simp [Host.call, hcalls, h₁]

/-! ## What the window shows -/

/-- An open window with a bitmap that mirrors it, by the requests that were made since `before`. -/
structure Shown (side : Nat) (colours : Palette) (before : List HostCall) (s : Window × Host) :
    Prop where
  scale : s.1.scale = side
  palette : s.1.palette = colours
  opened : s.1.opened = true
  standard : IsStandard s.1.bitmap
  mirrors : ∃ added, s.2.calls.toList = before ++ added ∧ Mirrors side colours s.1.bitmap added

variable {colours : Palette} {before : List HostCall} {w : Window} {h h' : Host} {s : Window × Host}

/-- Opening the window erases what was drawn before. -/
theorem shown_powerOn (htoolkit : h.toolkit = true) (hscale : w.scale < 2 ^ 53)
    (hstandard : IsStandard w.bitmap) :
    ∃ s, powerOn (w, h) = .ok () s ∧ Shown w.scale w.palette h.calls.toList s := by
  obtain ⟨h', hpower, -, hcalls⟩ := exists_powerOn (w := w) htoolkit hscale
  have hfits : Fits w.scale
      ([.openWindow w.size.1 w.size.2 w.fullscreen] ++ [.caption w.caption]) :=
    (fits_openWindow w.scale w.fullscreen).append (by simp [HostCall.isPainting])
  have hmirrors := hfits.mirrors_blank w.palette
  rw [← hstandard] at hmirrors
  exact ⟨_, hpower, rfl, rfl, rfl, hstandard, _, by simpa using hcalls, hmirrors⟩

theorem Shown.asks {kind : HostCall → Bool} (hs : Shown side colours before (w, h))
    (hasks : h.Asks kind h') (hkind : ∀ c, kind c = true → c.isPainting = false) :
    Shown side colours before (w, h') := by
  obtain ⟨added, hcalls, hmirrors⟩ := hs.mirrors
  obtain ⟨more, hmore, hadded⟩ := hasks
  refine ⟨hs.scale, hs.palette, hs.opened, hs.standard, added ++ more, ?_, ?_⟩
  · dsimp only at hcalls ⊢
    rw [hmore, hcalls, List.append_assoc]
  · exact hmirrors.append fun c hc => hkind c (hadded c hc)

theorem Shown.clear (hs : Shown side colours before s) :
    Shown side colours before (Window.clear s) := by
  obtain ⟨w, h⟩ := s
  obtain ⟨added, hcalls, hmirrors⟩ := hs.mirrors
  have hopened : w.opened = true := hs.opened
  have hpalette : w.palette = colours := hs.palette
  have hblank := hmirrors.toFits.mirrors_blank colours
  rw [← hs.standard] at hblank
  refine ⟨hs.scale, hs.palette, hs.opened, hs.standard, _, ?_, hblank⟩
  simp only [Window.clear, hopened, if_true, Host.call, Array.toList_push, hpalette]
  exact (congrArg (· ++ _) hcalls).trans (List.append_assoc ..)

theorem Shown.present (hs : Shown side colours before s) :
    Shown side colours before (Window.present s) := by
  obtain ⟨w, h⟩ := s
  unfold Window.present
  dsimp only
  split
  · have hasks : h.Asks (!·.isPainting) (h.call .flip) := h.asks_call rfl
    refine Shown.asks ?_ hasks (by simp)
    exact ⟨hs.scale, hs.palette, hs.opened, hs.standard, hs.mirrors⟩
  · exact hs

/-- Drawing a cell of the screen succeeds. -/
theorem Shown.drawPixel (hs : Shown side colours before s) (hpos : 0 < side)
    (hside : side < 2 ^ 53) {x y : Nat} (hx : x < FrameBuffer.standardWidth)
    (hy : y < FrameBuffer.standardHeight) (on : Bool) :
    ∃ s', Window.drawPixel x y Number.one on s = .ok () s' ∧ Shown side colours before s' := by
  obtain ⟨w, h⟩ := s
  obtain ⟨added, hcalls, hmirrors⟩ := hs.mirrors
  have hopened : w.opened = true := hs.opened
  have hstandard : IsStandard w.bitmap := hs.standard
  have hpalette : w.palette = colours := hs.palette
  have hscale : pixelSize w.scale Number.one = .ok (side : Int) := by
    rw [show w.scale = side from hs.scale]
    exact pixelSize_of_lt hpos hside
  obtain ⟨f, hdraw, hsize, -⟩ := FrameBuffer.exists_drawPixel hstandard.isCountable
    (hstandard.width ▸ hx) (hstandard.height ▸ hy) on
  have hfill := hmirrors.fill_square hstandard hx hy hdraw
  unfold Window.drawPixel
  simp only [hdraw, hopened, hscale, hpalette, if_true]
  refine ⟨_, rfl, hs.scale, rfl, rfl, hsize.trans hstandard, _, ?_, hfill⟩
  simp only [Host.call, Array.toList_push]
  exact (congrArg (· ++ _) hcalls).trans (List.append_assoc ..)

/-! ## Strokes -/

/-- What can be done to a window. -/
inductive Stroke where
  | powerOn
  | clear
  | present
  | draw (x y : Int) (hint : Number) (on : Bool)

namespace Stroke

def act : Stroke → Act (Window × Host) Unit
  | powerOn => Window.powerOn
  | clear => modify Window.clear
  | present => modify Window.present
  | draw x y hint on => Window.drawPixel x y hint on

/-- A stroke on an open window: what is drawn is a cell of the screen, in the window's scale. -/
def IsPlain : Stroke → Prop
  | powerOn => False
  | clear | present => True
  | draw x y hint _ => hint = Number.one ∧ (0 ≤ x ∧ x < FrameBuffer.standardWidth) ∧
      0 ≤ y ∧ y < FrameBuffer.standardHeight

/-- The window and its host after strokes, each of which may fail. -/
def afterAll (strokes : List Stroke) (s : Window × Host) : Window × Host :=
  strokes.foldl (fun s stroke => stateOf (stroke.act s)) s

end Stroke

/-- The window's settings and its host, apart from the logs. -/
structure IsSet (side : Nat) (colours : Palette) (host : Host) (s : Window × Host) : Prop where
  scale : s.1.scale = side
  palette : s.1.palette = colours
  standard : IsStandard s.1.bitmap
  host : s.2.flush = host.flush

variable {host : Host}

theorem isSet_powerOn (hs : IsSet side colours host s) (htoolkit : host.toolkit = true)
    (hside : side < 2 ^ 53) : IsSet side colours host (stateOf (powerOn s)) := by
  obtain ⟨w, h⟩ := s
  have htoolkit' : h.toolkit = true := (congrArg Host.toolkit hs.host :).trans htoolkit
  have hscale : w.scale < 2 ^ 53 := by
    rw [show w.scale = side from hs.scale]
    exact hside
  obtain ⟨h', hpower, hflush, -⟩ := exists_powerOn (w := w) htoolkit' hscale
  rw [hpower]
  exact ⟨hs.scale, hs.palette, hs.standard, hflush.trans hs.host⟩

theorem isSet_drawPixel (hs : IsSet side colours host s) (x y : Int) (hint : Number) (on : Bool) :
    IsSet side colours host (stateOf (Window.drawPixel x y hint on s)) := by
  obtain ⟨w, h⟩ := s
  unfold Window.drawPixel
  dsimp only
  cases hdraw : w.bitmap.drawPixel x y on with
  | error fault => exact hs
  | ok f =>
    have hstandard : IsStandard f := (FrameBuffer.clear_of_drawPixel hdraw).trans hs.standard
    dsimp only
    split
    · cases pixelSize w.scale hint with
      | error fault => exact ⟨hs.scale, hs.palette, hstandard, hs.host⟩
      | ok side => exact ⟨hs.scale, hs.palette, hstandard, hs.host⟩
    · exact ⟨hs.scale, hs.palette, hstandard, hs.host⟩

/-- No stroke changes the settings, whether it succeeds or fails. -/
theorem isSet_afterAll (hs : IsSet side colours host s) (htoolkit : host.toolkit = true)
    (hside : side < 2 ^ 53) (strokes : List Stroke) :
    IsSet side colours host (Stroke.afterAll strokes s) := by
  induction strokes generalizing s with
  | nil => exact hs
  | cons stroke rest ih =>
    refine ih (s := stateOf (stroke.act s)) ?_
    cases stroke with
    | powerOn => exact isSet_powerOn hs htoolkit hside
    | clear =>
      obtain ⟨w, h⟩ := s
      refine ⟨hs.scale, hs.palette, hs.standard, ?_⟩
      change (if w.opened then h.call _ else h).flush = host.flush
      split
      · exact hs.host
      · exact hs.host
    | present =>
      obtain ⟨w, h⟩ := s
      change IsSet side colours host (Window.present (w, h))
      unfold Window.present
      dsimp only
      split
      · exact ⟨hs.scale, hs.palette, hs.standard, hs.host⟩
      · exact hs
    | draw x y hint on => exact isSet_drawPixel hs x y hint on

/-- Plain strokes succeed, and the window goes on to mirror its bitmap. -/
theorem Shown.stroke (hs : Shown side colours before s) (hpos : 0 < side) (hside : side < 2 ^ 53)
    {stroke : Stroke} (hplain : stroke.IsPlain) :
    ∃ s', stroke.act s = .ok () s' ∧ Shown side colours before s' := by
  cases stroke with
  | powerOn => cases hplain
  | clear => exact ⟨_, rfl, hs.clear⟩
  | present => exact ⟨_, rfl, hs.present⟩
  | draw x y hint on =>
    obtain ⟨rfl, ⟨hx, hx'⟩, hy, hy'⟩ := hplain
    obtain ⟨x, rfl⟩ := Int.eq_ofNat_of_zero_le hx
    obtain ⟨y, rfl⟩ := Int.eq_ofNat_of_zero_le hy
    exact hs.drawPixel hpos hside (by omega) (by omega) on

theorem Shown.strokes (hs : Shown side colours before s) (hpos : 0 < side) (hside : side < 2 ^ 53)
    {strokes : List Stroke} (hplain : ∀ stroke ∈ strokes, stroke.IsPlain) :
    ∃ s', strokes.forM Stroke.act s = .ok () s' ∧ Shown side colours before s' := by
  induction strokes generalizing s with
  | nil => exact ⟨s, rfl, hs⟩
  | cons stroke rest ih =>
    obtain ⟨s₁, hfirst, hs₁⟩ := hs.stroke hpos hside (hplain stroke List.mem_cons_self)
    obtain ⟨s', hrest, hs'⟩ := ih hs₁ fun k hk => hplain k (List.mem_cons_of_mem stroke hk)
    exact ⟨s', (Act.bind_ok hfirst).trans hrest, hs'⟩

end Window

end Chip8
