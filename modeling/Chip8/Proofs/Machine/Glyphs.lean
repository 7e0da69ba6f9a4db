/-
  Glyphs on the screen. Where the font lies in memory, an instruction that points at a digit's glyph
  sets the index to its rows, and a sprite of five rows from there has the dots of the glyph
  (`PointsAtGlyph.spriteBit_eq`). Drawing it turns over the cells where the glyph has dots, and past
  the edges there are none. Only an open window whose cells are too large to paint gets no further
  than the first dot. The font is there in every run in which no instruction has stored to its bytes
  since the last reset, so all of this holds there. The main statement is `glyphs_of_run`.
-/
import Chip8.Proofs.Machine.DisplayCalls
import Chip8.Proofs.Machine.FontArea

namespace Chip8

namespace Font

/-- Whether a digit's glyph has a dot in a row and a column. There is none outside its rows and its
eight columns. -/
def hasDotAt (digit row col : Int) : Bool :=
  decide (0 ≤ row ∧ row < glyphRows ∧ 0 ≤ col ∧ col < 8) &&
    match glyph digit with
    | .ok rows => rows.getD row.toNat 0 &&& (0x80#8 >>> col.toNat) != 0#8
    | .error _ => false

/-- The rows of a glyph are five bytes of the font. -/
theorem exists_glyph {digit : Nat} (h : digit < 16) : ∃ rows, glyph digit = .ok rows ∧
    ∀ row < glyphRows, rows.getD row 0 = data.getD (digit * glyphRows + row) 0 := by
  refine ⟨_, if_pos (by omega), fun row hrow => ?_⟩
  rw [Int.toNat_natCast, List.getD_eq_getElem?_getD, List.getD_eq_getElem?_getD,
    List.getElem?_take_of_lt hrow, List.getElem?_drop]

end Font

namespace Machine

/-- Whether a digit's glyph has a dot at the coordinates, if its upper left corner is where the two
registers of a drawing word put it. -/
def hasGlyphDot (m : Machine Display) (w : Word) (digit : Int) (px py : Nat) : Bool :=
  Font.hasDotAt digit (py - (m.cpu.get w.y).toNat) (px - (m.cpu.get w.x).toNat)

/-- In the upper left corner of the screen the dots are where the glyph has them. -/
theorem hasGlyphDot_of_zero {m : Machine Display} {w : Word} (hx : m.cpu.get w.x = 0)
    (hy : m.cpu.get w.y = 0) (digit : Int) (px py : Nat) :
    m.hasGlyphDot w digit px py = Font.hasDotAt digit py px := by
  rw [hasGlyphDot, hx, hy]
  exact congr_arg₂ (Font.hasDotAt digit) (Int.sub_zero _) (Int.sub_zero _)

/-- The glyph has a dot at a place on the screen. -/
def ShowsDot (m : Machine Display) (w : Word) (digit : Int) (place : Nat × Nat) : Prop :=
  m.display.Has place ∧ m.hasGlyphDot w digit place.1 place.2 = true

/-- The font is in memory, and the index is where the glyph of a digit starts. -/
structure PointsAtGlyph (m : Machine Display) (digit : Nat) : Prop where
  font : m.memory.HasFont
  digit_lt : digit < 16
  index : m.cpu.i = (digit * Font.glyphRows : Nat)

variable {m : Machine Display} {limit : Int} {w : Word} {digit : Nat}

/-- A sprite of five rows has the dots of the glyph. -/
theorem PointsAtGlyph.spriteBit_eq (h : m.PointsAtGlyph digit) (hm : m.IsBounded limit)
    (hn : w.n = Font.glyphRows) (row col : Int) :
    m.spriteBit w row col = Font.hasDotAt digit row col := by
  unfold spriteBit Font.hasDotAt
  rw [hn]
  by_cases hin : 0 ≤ row ∧ row < Font.glyphRows ∧ 0 ≤ col ∧ col < 8
  · obtain ⟨row, rfl⟩ := Int.eq_ofNat_of_zero_le hin.1
    obtain ⟨rows, hrows, hrow⟩ := Font.exists_glyph h.digit_lt
    have hlt : digit * Font.glyphRows + row < Font.data.length := by
      have hdigit := h.digit_lt
      rw [Font.length_data]
      unfold Font.glyphRows at hin ⊢
      omega
    have hbyte : m.memory.load (m.cpu.i + row) =
        .ok (Font.data.getD (digit * Font.glyphRows + row) 0) := by
      have hbase : m.base = digit * Font.glyphRows := by
        rw [base, h.index, Int.toNat_natCast]
      rw [hm.canTransfer.load_of_lt, bytesAtIndex, hbase, h.font _ hlt]
      rw [hbase, hm.memory]
      exact Nat.lt_trans hlt (by decide)
    rw [hbyte, hrows]
    dsimp only
    rw [Int.toNat_natCast, hrow row (by omega)]
  · rw [decide_eq_false hin, Bool.false_and, Bool.false_and]

/-- Such a sprite lies in memory. -/
theorem PointsAtGlyph.add_le (h : m.PointsAtGlyph digit) (hn : w.n = Font.glyphRows) :
    m.cpu.i + w.n ≤ 0x1000 := by
  have hdigit := h.digit_lt
  rw [h.index, hn]
  unfold Font.glyphRows
  omega

/-- The places that drawing it goes through are those of the glyph's dots. -/
theorem PointsAtGlyph.mem_spriteDots_iff (h : m.PointsAtGlyph digit) (hm : m.IsBounded limit)
    (hn : w.n = Font.glyphRows) (place : Nat × Nat) :
    place ∈ m.spriteDots w ↔ m.ShowsDot w digit place := by
  rw [← hm.bitPlaces_eq_spriteDots (h.add_le hn), mem_bitPlaces, h.spriteBit_eq hm hn, ShowsDot,
    Display.Has, hasGlyphDot]

end Machine

namespace Display

variable {d d' : Display}

/-- The second display is the first one with some cells turned over, told by their coordinates. -/
structure TurnedOver (d d' : Display) (isTurned : Nat → Nat → Bool) : Prop where
  frame : d'.frame = d.frame
  cell : ∀ f, d.cells? = some f → ∃ f', d'.cells? = some f' ∧
    ∀ px < f.width, ∀ py < f.height, ∃ old, f.getPixel px py = .ok old ∧
      f'.getPixel px py = .ok (old ^^ isTurned px py)

theorem Flipped.turnedOver {places : List (Nat × Nat)} {isTurned : Nat → Nat → Bool}
    (h : d.Flipped places d') (hcount : d.IsCountable)
    (hplaces : ∀ px py, d.Has (px, py) → ((px, py) ∈ places ↔ isTurned px py = true)) :
    d.TurnedOver d' isTurned where
  frame := h.frame
  cell f hf := by
    refine ⟨f.flip places, by rw [h.cells, hf]; rfl, fun px hx py hy => ⟨f.pixel px py, ?_, ?_⟩⟩
    · exact FrameBuffer.getPixel_of_lt (hcount f hf) hx hy
    · have hturned : decide ((px, py) ∈ places) = isTurned px py := by
        rw [Bool.eq_iff_iff, decide_eq_true_iff]
        exact hplaces px py ((has_iff_of_cells? hf _).mpr ⟨hx, hy⟩)
      rw [← hturned, ← FrameBuffer.pixel_flip (f := f) places hx hy]
      exact FrameBuffer.getPixel_of_lt (f := f.flip places) (hcount f hf) hx hy

end Display

/-- A draw of five rows. -/
theorem Word.isDraw_of_five {w : Word} (h : w &&& 0xF00F = 0xD005) :
    w.IsDraw ∧ w.n = Font.glyphRows := by
  constructor
  · change w &&& (0xF00F &&& 0xF000) = 0xD000
    rw [← BitVec.and_assoc, h]
    rfl
  · have hn : w.n = (w &&& (0xF00F &&& 0xF)).toNat := by
      rw [BitVec.toNat_and]
      exact (Nat.and_two_pow_sub_one_eq_mod w.toNat 4).symm
    rw [hn, ← BitVec.and_assoc, h]
    rfl

namespace Emulator

variable {e : Emulator Display} {limit : Int} {w : Word}

/-- Pointing at a glyph sets the index and moves on. -/
theorem execute_point (htable : e.machine.table = some standardTable)
    (hw : w &&& 0xF0FF = 0xF029) : ∃ e', execute w e = .ok () e' ∧
      e'.machine = { e.machine with
        cpu := (e.machine.cpu.pointAtGlyph w.x).advance
        executed := e.machine.executed + 1 } :=
  ⟨_, execute_of_perform htable
    (Word.operation?_eq_some_iff.mpr hw : w.operation? = some .pointAtGlyph) rfl, rfl⟩

theorem isBounded_point (hm : e.machine.IsBounded limit) (x : Register) :
    ({ e.machine with
        cpu := (e.machine.cpu.pointAtGlyph x).advance
        executed := e.machine.executed + 1 } : Machine Display).IsBounded 0xFFFF where
  cpu := (hm.cpu.pointAtGlyph x).withPc (wrap16_nonneg _) (Int.le_of_lt_add_one (wrap16_lt _))
  memory := hm.memory
  table := hm.table
  hint := hm.hint

/-- A sprite that lies in memory is drawn, unless it has a dot on the screen of a window whose cells
are too large to paint. -/
theorem execute_draw_of_room (hm : e.machine.IsBounded limit)
    (hcount : e.machine.display.IsCountable) (hdraw : w.IsDraw)
    (hroom : e.machine.cpu.i + w.n ≤ 0x1000) : ∃ e',
      e.machine.display.Flipped (e.machine.drawnDots w) e'.machine.display ∧
      (∀ r, r ≠ flagRegister → e'.machine.cpu.get r = e.machine.cpu.get r) ∧
      execute w e =
        if e.machine.display.isOversized = true ∧ e.machine.spriteDots w ≠ [] then
          .error .numberTooLarge e'
        else .ok () e' := by
  have hop := Word.operation?_eq_draw_iff.mpr hdraw
  obtain ⟨e₁, hflipped, hget, hp⟩ : ∃ e₁,
      e.machine.display.Flipped (e.machine.drawnDots w) e₁.machine.display ∧
      (∀ r, r ≠ flagRegister → e₁.machine.cpu.get r = e.machine.cpu.get r) ∧
      perform .draw w (e.announce .draw w) = ended (e.machine.drawFault? w) e₁ := by
    obtain ⟨d, host, hflipped, hp⟩ := drawSprite_eq (e := e.announce .draw w) hm hcount w
    refine ⟨_, ?_, fun r hr => ?_, hp⟩
    · exact hflipped
    · exact Cpu.get_set_ne _ _ hr.symm
  have hrows : ¬ e.machine.readableRows w < e.machine.spriteRows w := by
    rw [hm.readableRows_eq hroom]
    exact Nat.lt_irrefl _
  rw [Machine.drawFault?, if_neg hrows] at hp
  by_cases hpaint : e.machine.display.isOversized = true ∧ e.machine.spriteDots w ≠ []
  · rw [if_pos hpaint] at hp
    refine ⟨e₁, hflipped, hget, ?_⟩
    rw [if_pos hpaint, execute_of_operation? hm.table hop]
    exact Act.bind_error hp
  · rw [if_neg hpaint] at hp
    refine ⟨complete Operation.draw.row e₁, ?_, fun r hr => ?_, ?_⟩
    · rwa [display_complete]
    · rw [get_complete, hget r hr]
    · rw [if_neg hpaint]
      exact execute_of_perform hm.table hop hp

/-- The glyph has a dot on the screen of a window whose cells are too large to paint. -/
def RefusesGlyph (e : Emulator Display) (draw : Word) (digit : Int) : Prop :=
  e.machine.display.isOversized = true ∧ ∃ place, e.machine.ShowsDot draw digit place

/-- What drawing a digit's glyph does. It turns over the cells where the glyph has dots, and reaches
no other register than the flag register. A window that refuses it fails at the first dot on its
screen, and turns over that one alone. -/
structure DrawsGlyph (e : Emulator Display) (draw : Word) (digit : Int) : Prop where
  drawn : ¬ e.RefusesGlyph draw digit → ∃ e', execute draw e = .ok () e' ∧
    (∀ r, r ≠ flagRegister → e'.machine.cpu.get r = e.machine.cpu.get r) ∧
    e.machine.display.TurnedOver e'.machine.display (e.machine.hasGlyphDot draw digit)
  refused : e.RefusesGlyph draw digit → ∃ first e', e.machine.ShowsDot draw digit first ∧
    (∀ place, e.machine.ShowsDot draw digit place → place ≠ first →
      Sprite.IsBefore first place) ∧
    execute draw e = .error .numberTooLarge e' ∧
    e.machine.display.TurnedOver e'.machine.display fun px py => decide ((px, py) = first)

theorem drawsGlyph_of_pointsAtGlyph {digit : Nat} (h : e.machine.PointsAtGlyph digit)
    (hm : e.machine.IsBounded limit) (hcount : e.machine.display.IsCountable)
    (hw : w &&& 0xF00F = 0xD005) : e.DrawsGlyph w digit := by
  obtain ⟨hdraw, hn⟩ := Word.isDraw_of_five hw
  have hmem := h.mem_spriteDots_iff hm hn
  have hsome : e.machine.spriteDots w ≠ [] ↔ ∃ place, e.machine.ShowsDot w digit place := by
    rw [Ne, List.eq_nil_iff_forall_not_mem, not_forall_not]
    exact exists_congr hmem
  have hrefuses : e.machine.display.isOversized = true ∧ e.machine.spriteDots w ≠ [] ↔
      e.RefusesGlyph w digit := and_congr_right fun _ => hsome
  obtain ⟨e', hflipped, hget, hexecute⟩ :=
    execute_draw_of_room hm hcount hdraw (h.add_le hn)
  rw [Machine.drawnDots] at hflipped
  refine ⟨fun hdrawn => ?_, fun hrefused => ?_⟩
  · have hreached : e.machine.display.isOversized = true → e.machine.spriteDots w = [] :=
      fun hover => by_contra fun hne => hdrawn (hrefuses.mp ⟨hover, hne⟩)
    rw [Sprite.reached_of_forall hreached] at hflipped
    rw [if_neg (hdrawn ∘ hrefuses.mp)] at hexecute
    refine ⟨e', hexecute, hget, hflipped.turnedOver hcount fun px py hhas => ?_⟩
    exact (hmem (px, py)).trans (and_iff_right hhas)
  · rw [if_pos (hrefuses.mpr hrefused)] at hexecute
    obtain ⟨first, rest, hdots⟩ := List.exists_cons_of_ne_nil (hrefuses.mpr hrefused).2
    have horder : (e.machine.spriteDots w).Pairwise Sprite.IsBefore := Sprite.pairwise_dots ..
    -- only the first place was reached, and all others come after it
    rw [hdots] at hmem horder hflipped
    rw [Sprite.reached_cons hrefused.1] at hflipped
    refine ⟨first, e', (hmem first).mp List.mem_cons_self, fun place hdot hne => ?_, hexecute,
      hflipped.turnedOver hcount fun px py _ => ?_⟩
    · exact List.rel_of_pairwise_cons horder
        ((List.mem_cons.mp ((hmem place).mpr hdot)).resolve_left hne)
    · rw [List.mem_singleton, decide_eq_true_iff]

/-- The index is set to a glyph, and the glyph is drawn. -/
theorem drawsGlyph_of_point (hm : e.machine.IsBounded limit)
    (hcount : e.machine.display.IsCountable) (hfont : e.machine.memory.HasFont) (point draw : Word)
    (hpoint : point &&& 0xF0FF = 0xF029) (hdraw : draw &&& 0xF00F = 0xD005)
    (hdigit : (e.machine.cpu.get point.x).toNat < 16) :
    ∃ e₁, execute point e = .ok () e₁ ∧
      (∀ r, e₁.machine.cpu.get r = e.machine.cpu.get r) ∧
      e₁.machine.display = e.machine.display ∧
      e₁.DrawsGlyph draw (e.machine.cpu.get point.x).toNat := by
  obtain ⟨e₁, hexecute, hmachine⟩ := execute_point hm.table hpoint
  have hm₁ : e₁.machine.IsBounded 0xFFFF := hmachine ▸ isBounded_point hm point.x
  have hdisplay : e₁.machine.display = e.machine.display := by rw [hmachine]
  have hget (r : Register) : e₁.machine.cpu.get r = e.machine.cpu.get r := by
    rw [hmachine]
    rfl
  have hpoints : e₁.machine.PointsAtGlyph (e.machine.cpu.get point.x).toNat := by
    rw [hmachine]
    exact ⟨hfont, hdigit, wrap16_of_mem (Int.natCast_nonneg _) (by omega)⟩
  exact ⟨e₁, hexecute, hget, hdisplay,
    drawsGlyph_of_pointsAtGlyph hpoints hm₁ (hdisplay ▸ hcount) hdraw⟩

end Emulator

section

variable {config : MachineConfig Display} {host host' : Host} {start : Emulator Display}

/-- In every run of a machine that was set up, the font is in memory if no instruction has stored to
it since the last reset, and an instruction that points at the glyph of a digit and one that draws
five rows draw the glyph, at the corner that two registers tell. -/
theorem glyphs_of_run (hcount : config.display.IsCountable)
    (h : Machine.create config host = .ok start host') (events : List Event)
    (hstores : ∀ m ∈ Moment.sinceReset (start.moments events), ∀ a < 80, ¬ m.StoresAt a) :
    let s := start.run events
    s.machine.memory.readBlock 0 80 = Font.data ∧
    ∀ point draw : Word, point &&& 0xF0FF = 0xF029 → draw &&& 0xF00F = 0xD005 →
      (s.machine.cpu.get point.x).toNat < 16 →
      ∃ s₁, Emulator.execute point s = .ok () s₁ ∧
        (∀ r, s₁.machine.cpu.get r = s.machine.cpu.get r) ∧
        s₁.machine.display = s.machine.display ∧
        s₁.DrawsGlyph draw (s.machine.cpu.get point.x).toNat := by
  intro s
  have hfresh := Machine.fresh_of_create h
  have hm : s.machine.IsBounded 0x1002 := (Emulator.sound_run hfresh.isSound events).bounded
  have hreach : s.IsReachable := ⟨config, host, host', start, events, hcount, h, rfl⟩
  have hfont : s.machine.memory.HasFont := Machine.hasFont_of_create h events hstores
  have hread : s.machine.memory.readBlock (0 : Nat) Font.data.length = Font.data := by
    refine Memory.readBlock_of_byte ?_ fun a ha => ?_
    · rw [hm.memory]
      decide
    · rw [Nat.zero_add]
      exact hfont a ha
  refine ⟨hread, fun point draw hpoint hdraw hdigit => ?_⟩
  exact Emulator.drawsGlyph_of_point hm hreach.isCountable hfont point draw hpoint hdraw hdigit

/-- On a bitmap of eight by four cells the last row of the first glyph is cut off. -/
theorem glyphs_of_run_zero : ∃ (e e₁ e₂ : Emulator Display) (host' : Host) (f : FrameBuffer),
    Machine.create { display := Display.bitmap (FrameBuffer.blank 8 4) } {} = .ok e host' ∧
    (e.run [.tick]).machine.memory.readBlock 0 80 = Font.data ∧
    Emulator.execute 0xF029 (e.run [.tick]) = .ok () e₁ ∧
    Emulator.execute 0xD005 e₁ = .ok () e₂ ∧ e₂.machine.display.cells? = some f ∧
    f.getPixel 3 0 = .ok true ∧ f.getPixel 1 3 = .ok false ∧ f.getPixel 3 3 = .ok true := by
  have hblank : (FrameBuffer.blank 8 4).IsCountable :=
    FrameBuffer.isCountable_of_blank? (w := 8) (h := 4) rfl
  have hcount : (Display.bitmap (FrameBuffer.blank 8 4)).IsCountable :=
    Display.isCountable_of_cells?_eq_some rfl hblank
  obtain ⟨e, host', h, -, hframe, hcells⟩ := Machine.exists_create
    { display := Display.bitmap (FrameBuffer.blank 8 4) } {} rfl rfl rfl (by decide)
  have hzero : (e.run [.tick]).machine.cpu.get 0 = 0 :=
    congrArg (Cpu.get · 0) (Machine.fresh_of_create h).cpu
  obtain ⟨hread, hglyphs⟩ := glyphs_of_run hcount h [.tick] fun m hm a _ hs => by
    obtain rfl : m = ⟨.tick, e⟩ := List.mem_singleton.mp ((List.rtakeWhile_suffix ..).subset hm)
    cases hs.1
  obtain ⟨e₁, hpoint, hget, hdisplay, hdraws⟩ := hglyphs 0xF029 0xD005 (by decide) (by decide)
    (Nat.lt_of_le_of_lt (congrArg BitVec.toNat hzero).le (by decide))
  have hdisplay' : e₁.machine.display = e.machine.display := hdisplay
  rw [show ((e.run [.tick]).machine.cpu.get (Word.x 0xF029)).toNat = 0 from
    congrArg BitVec.toNat hzero] at hdraws
  have hwhole : ¬ e₁.RefusesGlyph 0xD005 (0 : Nat) := by
    rintro ⟨hover, -⟩
    rw [hdisplay', ← Display.isOversized_frame, hframe] at hover
    cases hover
  obtain ⟨e₂, hdraw, -, hturned⟩ := hdraws.drawn hwhole
  obtain ⟨f, hf, hpixel⟩ := hturned.cell (FrameBuffer.blank 8 4) (hdisplay' ▸ hcells)
  have hshown (px py : Nat) (hx : px < 8) (hy : py < 4) :
      f.getPixel px py = .ok (Font.hasDotAt 0 py px) := by
    obtain ⟨old, hold, hnew⟩ := hpixel px hx py hy
    cases (FrameBuffer.getPixel_of_lt hblank hx hy).symm.trans hold
    rw [hnew, FrameBuffer.pixel_blank, Bool.false_xor,
      Machine.hasGlyphDot_of_zero (w := 0xD005) ((hget 0).trans hzero) ((hget 0).trans hzero)]
    rfl
  exact ⟨e, e₁, e₂, host', f, h, hread, hpoint, hdraw, hf, hshown 3 0 (by decide) (by decide),
    hshown 1 3 (by decide) (by decide), hshown 3 3 (by decide) (by decide)⟩

/-- In a window with cells too large to paint the first glyph loses all its dots but one. -/
theorem exists_glyph_cut : ∃ (e e₁ e₂ : Emulator Display) (host' : Host) (f f₂ : FrameBuffer),
    Machine.create { display := .window Window.oversized, rom := [0xD0, 0x05] } {} =
      .ok e host' ∧
    e.machine.cpu.get 0 = 0 ∧ Emulator.execute 0xF029 e = .ok () e₁ ∧
    Emulator.execute 0xD005 e₁ = .error .numberTooLarge e₂ ∧
    e.machine.display.cells? = some f ∧ e₂.machine.display.cells? = some f₂ ∧
    Font.hasDotAt 0 0 1 = true ∧ f.getPixel 1 0 = .ok false ∧ f₂.getPixel 1 0 = .ok false := by
  obtain ⟨e, host', h, hreach, hcpu, -, hover, hcells, -⟩ := Emulator.exists_oversized
  have hzero : e.machine.cpu.get 0 = 0 := congrArg (Cpu.get · 0) hcpu
  have hfont : e.machine.memory.HasFont :=
    Machine.hasFont_of_create h [] fun m hm => absurd hm List.not_mem_nil
  obtain ⟨e₁, hpoint, hget, hdisplay, hdraws⟩ := Emulator.drawsGlyph_of_point
    hreach.isBounded hreach.isCountable hfont 0xF029 0xD005 (by decide) (by decide)
    (Nat.lt_of_le_of_lt (congrArg BitVec.toNat hzero).le (by decide))
  rw [show (e.machine.cpu.get (Word.x 0xF029)).toNat = 0 from congrArg BitVec.toNat hzero] at hdraws
  have hcells₁ : e₁.machine.display.cells? = some (FrameBuffer.blank 64 32) := hdisplay ▸ hcells
  have hdot : e₁.machine.ShowsDot 0xD005 (0 : Nat) (0, 0) := by
    refine ⟨(Display.has_iff_of_cells? hcells₁ _).mpr (by decide), ?_⟩
    rw [Machine.hasGlyphDot_of_zero (w := 0xD005) ((hget 0).trans hzero) ((hget 0).trans hzero)]
    decide
  obtain ⟨first, e₂, -, hfirst, hdraw, hturned⟩ := hdraws.refused ⟨hdisplay ▸ hover, (0, 0), hdot⟩
  obtain ⟨f₂, hf₂, hpixel⟩ := hturned.cell _ hcells₁
  have hne : ((1, 0) : Nat × Nat) ≠ first := by
    rintro rfl
    exact absurd (hfirst (0, 0) hdot (by decide)) (by simp [Sprite.IsBefore])
  have hdark : (FrameBuffer.blank 64 32).getPixel 1 0 = .ok false := by decide
  obtain ⟨old, hold, hnew⟩ := hpixel 1 (by decide) 0 (by decide)
  cases hdark.symm.trans hold
  refine ⟨e, e₁, e₂, host', _, f₂, h, hzero, hpoint, hdraw, hcells, hf₂, by decide, hdark, ?_⟩
  rw [decide_eq_false hne] at hnew
  exact hnew

end

end Chip8
