/-
  The picture as a sum of sprites, on a bitmap alone. The dots of a word's sprite that lie on the
  screen (`Machine.sprite`) are told from the registers, the index and the memory that the word
  finds. Drawing with success flips the cells there (`display_of_draw`), and apart from blanking no
  other word changes a cell (`display_of_other`). So over words that are executed one after the
  other a cell is turned over once for each sprite with a dot there (`Executes.pixel`), in whatever
  order the sprites come, and a sprite that is drawn again is gone (`redraw`). The main statement
  is `picture_of_executions`.
-/
import Chip8.Proofs.Machine.Frame
import Chip8.Proofs.Sprite
import Mathlib.Algebra.Ring.Parity
import Mathlib.Data.Finset.Prod

namespace Chip8

namespace FrameBuffer

variable {f g : FrameBuffer}

/-- What a bitmap looks like after flipping depends on which places are flipped only. -/
theorem flip_congr (f : FrameBuffer) {places places' : List (Nat × Nat)}
    (h : ∀ place, place.1 < f.width → place.2 < f.height → (place ∈ places ↔ place ∈ places')) :
    f.flip places = f.flip places' := by
  refine ext_pixel rfl rfl fun x hx y hy => ?_
  rw [pixel_flip (f := f) places hx hy, pixel_flip (f := f) places' hx hy,
    decide_eq_decide.mpr (h (x, y) hx hy)]

/-- Flipping the same places again turns them back. -/
theorem flip_self (f : FrameBuffer) (places : List (Nat × Nat)) :
    (f.flip places).flip places = f := by
  refine ext_pixel rfl rfl fun x hx y hy => ?_
  rw [pixel_flip (f := f.flip places) places hx hy, pixel_flip (f := f) places hx hy,
    Bool.xor_assoc, Bool.xor_self, Bool.xor_false]

end FrameBuffer

namespace Sprite

/-! ## Drawing on a bitmap -/

variable {c : Canvas FrameBuffer} {places : List (Nat × Nat)}

/-- On a bitmap alone all places are flipped, whatever the hint, and the hit tells whether one of
them was lit. -/
theorem forM_flipAt_bitmap (hint : Number) (hcount : c.screen.1.IsCountable)
    (hnodup : places.Nodup)
    (hplaces : ∀ place ∈ places, place.1 < c.screen.1.width ∧ place.2 < c.screen.1.height) :
    places.forM (flipAt hint) c = .ok () ⟨(c.screen.1.flip places, c.screen.2),
      c.hit || places.any fun place => c.screen.1.pixel place.1 place.2⟩ := by
  induction places generalizing c with
  | nil =>
    rw [FrameBuffer.flip_nil, List.any_nil, Bool.or_false]
    rfl
  | cons place rest ih =>
    obtain ⟨⟨f, host⟩, hit⟩ := c
    rw [List.nodup_cons] at hnodup
    obtain ⟨hx, hy⟩ := hplaces place List.mem_cons_self
    have hrest := fun p hp => hplaces p (List.mem_cons_of_mem place hp)
    have hflip : flipAt hint place (⟨(f, host), hit⟩ : Canvas FrameBuffer) =
        .ok () ⟨(f.flip [place], host), hit || f.pixel place.1 place.2⟩ := by
      have hread := FrameBuffer.getPixel_of_lt hcount hx hy
      have hdraw := FrameBuffer.drawPixel_flip hcount hx hy
      unfold flipAt flipCell
      simp only [Screen.getPixel, Screen.drawPixel, hread, hdraw]
    -- the cells of the rest were not touched yet
    have hsame : (rest.any fun p => (f.flip [place]).pixel p.1 p.2) =
        rest.any fun p => f.pixel p.1 p.2 := by
      rw [Bool.eq_iff_iff, List.any_eq_true, List.any_eq_true]
      refine exists_congr fun p => and_congr_right fun hp => ?_
      have hne : p ≠ place := fun h => hnodup.1 (h ▸ hp)
      rw [FrameBuffer.pixel_flip [place] (hrest p hp).1 (hrest p hp).2]
      simp [hne]
    have hforM := ih (c := ⟨(f.flip [place], host), hit || f.pixel place.1 place.2⟩) hcount
      hnodup.2 hrest
    refine (Act.bind_ok hflip).trans (hforM.trans ?_)
    dsimp only
    rw [FrameBuffer.flip_flip _ hnodup.1, hsame, List.any_cons, Bool.or_assoc]

/-- A sprite is drawn as far as its rows can be read, hence all of them can if drawing succeeds. -/
theorem exists_row_of_draw {δ : Type} [Screen δ] {hint : Number} {row : Nat → Except Fault Byte}
    {left top width rows : Nat} {c c' : Canvas δ}
    (h : (List.range rows).forM (drawnRow hint row left top width) c = .ok () c') :
    ∀ i < rows, ∃ b, row i = .ok b := by
  induction rows generalizing c' with
  | zero =>
    intro i hi
    omega
  | succ rows ih =>
    rw [Act.forM_range_succ] at h
    obtain ⟨_, c₁, hfront, hlast⟩ := Act.of_bind_ok h
    intro i hi
    rcases Nat.lt_succ_iff_lt_or_eq.mp hi with hi | rfl
    · exact ih hfront i hi
    · obtain ⟨b, _, hrow, -⟩ := Act.of_bind_ok hlast
      cases hr : row i with
      | ok b => exact ⟨b, rfl⟩
      | error fault =>
        rw [hr] at hrow
        cases hrow

end Sprite

namespace Machine

variable {δ : Type}

/-- Whether the sprite that a word shows has a dot at a place. The upper left corner is where two
registers put it, and the rows are the bytes from the index on. -/
def hasDotAt (m : Machine δ) (w : Word) (place : Nat × Nat) : Bool :=
  let left := (m.cpu.get w.x).toNat
  let top := (m.cpu.get w.y).toNat
  decide (left ≤ place.1 ∧ place.1 < left + 8 ∧ top ≤ place.2 ∧ place.2 < top + w.n) &&
    match m.memory.load (m.cpu.i + (place.2 - top : Nat)) with
    | .ok row => Sprite.hasDot row (place.1 - left)
    | .error _ => false

variable {m m' : Machine FrameBuffer} {w : Word}

/-- The places on the screen where the word's sprite has a dot. -/
def sprite (m : Machine FrameBuffer) (w : Word) : Finset (Nat × Nat) :=
  (Finset.range m.display.width ×ˢ Finset.range m.display.height).filter (m.hasDotAt w ·)

theorem mem_sprite {place : Nat × Nat} : place ∈ m.sprite w ↔
    (place.1 < m.display.width ∧ place.2 < m.display.height) ∧ m.hasDotAt w place = true := by
  simp [sprite]

/-- The sprite is told from a few parts of the machine. -/
theorem sprite_congr (hx : m'.cpu.get w.x = m.cpu.get w.x) (hy : m'.cpu.get w.y = m.cpu.get w.y)
    (hi : m'.cpu.i = m.cpu.i) (hmemory : m'.memory = m.memory)
    (hsize : m'.display.clear = m.display.clear) : m'.sprite w = m.sprite w := by
  have hwidth : m'.display.width = m.display.width := congrArg (·.width) hsize
  have hheight : m'.display.height = m.display.height := congrArg (·.height) hsize
  have hdots : m'.hasDotAt w = m.hasDotAt w := by
    funext place
    unfold hasDotAt
    rw [hx, hy, hi, hmemory]
  rw [sprite, hwidth, hheight, hdots, sprite]

/-- Rows of the word's sprite that lie on the screen. -/
def shownRows (m : Machine FrameBuffer) (w : Word) : Nat :=
  Sprite.visibleRows w.n (m.cpu.get w.y).toNat m.display.height

/-- A dot of the word's sprite meets a lit cell. -/
def Collides (m : Machine FrameBuffer) (w : Word) : Prop :=
  ∃ place ∈ m.sprite w, m.display.pixel place.1 place.2 = true

instance (m : Machine FrameBuffer) (w : Word) : Decidable (m.Collides w) :=
  inferInstanceAs (Decidable (∃ place ∈ m.sprite w, m.display.pixel place.1 place.2 = true))

/-- The rows of the word's sprite that lie on the screen can all be read. -/
def HoldsRows (m : Machine FrameBuffer) (w : Word) : Prop :=
  ∀ i < m.shownRows w, ∃ b, m.memory.load (m.cpu.i + i) = .ok b

/-- The sprite has the dots of the rows that memory holds. -/
theorem mem_sprite_iff_mem_dots {bytes : Nat → Byte}
    (hread : ∀ i < m.shownRows w, m.memory.load (m.cpu.i + i) = .ok (bytes i))
    (place : Nat × Nat) :
    place ∈ m.sprite w ↔ place ∈ Sprite.dots bytes (m.cpu.get w.x).toNat (m.cpu.get w.y).toNat
      m.display.width (m.shownRows w) := by
  rw [mem_sprite, Sprite.mem_dots]
  unfold hasDotAt
  simp only [Bool.and_eq_true, decide_eq_true_eq]
  constructor
  · rintro ⟨⟨hwidth, hheight⟩, ⟨hleft, hright, htop, hbottom⟩, hdot⟩
    have hrow : place.2 - (m.cpu.get w.y).toNat < m.shownRows w := by
      unfold shownRows Sprite.visibleRows
      omega
    rw [hread _ hrow] at hdot
    refine ⟨_, hrow, Sprite.mem_rowDots.mpr ⟨place.1 - (m.cpu.get w.x).toNat, ?_⟩⟩
    refine ⟨by omega, hdot, by omega, ?_⟩
    exact Prod.ext (by simp only; omega) (by simp only; omega)
  · rintro ⟨i, hi, hplace⟩
    obtain ⟨col, hcol, hdot, hlt, rfl⟩ := Sprite.mem_rowDots.mp hplace
    have hload := hread i hi
    unfold shownRows Sprite.visibleRows at hi
    refine ⟨⟨hlt, by simp only; omega⟩, ⟨by simp only; omega, by simp only; omega,
      by simp only; omega, by simp only; omega⟩, ?_⟩
    simp only [Nat.add_sub_cancel_left, hload]
    exact hdot

end Machine

/-- Whether the word draws a sprite. -/
def Word.IsDraw (w : Word) : Prop := w &&& 0xF000 = 0xD000

instance (w : Word) : Decidable w.IsDraw := inferInstanceAs (Decidable (_ = _))

theorem Word.operation?_eq_draw_iff {w : Word} : w.operation? = some .draw ↔ w.IsDraw :=
  operation?_eq_some_iff

theorem Word.operation?_eq_clearScreen_iff {w : Word} :
    w.operation? = some .clearScreen ↔ w = 0x00E0 := by
  rw [operation?_eq_some_iff]
  change w &&& BitVec.allOnes 16 = 0x00E0 ↔ _
  rw [BitVec.and_allOnes]

namespace Emulator

variable {e e' : Emulator FrameBuffer} {w : Word}

/-! ## One word -/

/-- The operation that draws, as a loop over the rows on the screen. -/
theorem perform_draw (w : Word) (e : Emulator FrameBuffer) : perform .draw w e =
    resultWithin (fun s =>
        (e.withStage s.screen).mapCpu (·.set flagRegister (if s.hit then 1 else 0)))
      ((List.range (e.machine.shownRows w)).forM (Sprite.drawnRow e.machine.hint
        (fun row => e.machine.memory.load (e.machine.cpu.i + row)) (e.machine.cpu.get w.x).toNat
        (e.machine.cpu.get w.y).toNat e.machine.display.width) ⟨e.stage, false⟩) := rfl

/-- Where all rows on the screen can be read, drawing flips the cells of the sprite and sets the
flag register. -/
theorem perform_draw_of_holdsRows (hcount : e.machine.display.IsCountable)
    (hread : e.machine.HoldsRows w) :
    perform .draw w e = .ok () ⟨{ e.machine with
      cpu := e.machine.cpu.set flagRegister (if e.machine.Collides w then 1 else 0)
      display := e.machine.display.flip (e.machine.sprite w).toList }, e.host⟩ := by
  choose! bytes hbytes using hread
  let places := Sprite.dots bytes (e.machine.cpu.get w.x).toNat (e.machine.cpu.get w.y).toNat
    e.machine.display.width (e.machine.shownRows w)
  have hmem := Machine.mem_sprite_iff_mem_dots (w := w) hbytes
  have hplaces : ∀ place ∈ places,
      place.1 < e.machine.display.width ∧ place.2 < e.machine.display.height :=
    fun place hplace => (Machine.mem_sprite.mp ((hmem place).mpr hplace)).1
  have hdraw := Sprite.forM_flipAt_bitmap (c := ⟨e.stage, false⟩) e.machine.hint hcount
    (Sprite.nodup_dots ..) hplaces
  have hsame : e.machine.display.flip places =
      e.machine.display.flip (e.machine.sprite w).toList :=
    FrameBuffer.flip_congr _ fun place _ _ => by rw [Finset.mem_toList, hmem]
  have hhit : (places.any fun place => e.machine.display.pixel place.1 place.2) =
      decide (e.machine.Collides w) := by
    rw [Bool.eq_iff_iff, List.any_eq_true, decide_eq_true_iff]
    exact exists_congr fun place => and_congr_left fun _ => (hmem place).symm
  rw [perform_draw, Sprite.forM_drawnRow hbytes, hdraw]
  simp only [resultWithin, Bool.false_or, stage]
  rw [hhit, hsame]
  simp only [decide_eq_true_eq]
  rfl

theorem holdsRows_of_perform (h : perform .draw w e = .ok () e') : e.machine.HoldsRows w := by
  rw [perform_draw] at h
  cases hdraw : (List.range (e.machine.shownRows w)).forM (Sprite.drawnRow e.machine.hint
      (fun row => e.machine.memory.load (e.machine.cpu.i + row)) (e.machine.cpu.get w.x).toNat
      (e.machine.cpu.get w.y).toNat e.machine.display.width) ⟨e.stage, false⟩ with
  | ok a c => exact Sprite.exists_row_of_draw hdraw
  | error fault c =>
    rw [hdraw] at h
    cases h

/-- Drawing with success reads all rows on the screen. -/
theorem holdsRows_of_draw (htable : e.machine.table = some standardTable) (hdraw : w.IsDraw)
    (h : execute w e = .ok () e') : e.machine.HoldsRows w := by
  rw [execute_of_operation? htable (Word.operation?_eq_draw_iff.mpr hdraw)] at h
  obtain ⟨_, e₁, hp, -⟩ := Act.of_bind_ok h
  exact holdsRows_of_perform (e := e.announce .draw w) hp

/-- Where all rows on the screen can be read, drawing succeeds. It flips the cells of the sprite,
sets the flag register and changes nothing else but what every word does. -/
theorem execute_draw_of_holdsRows (htable : e.machine.table = some standardTable)
    (hdraw : w.IsDraw) (hcount : e.machine.display.IsCountable) (hread : e.machine.HoldsRows w) :
    ∃ e', execute w e = .ok () e' ∧ e'.machine = { e.machine with
      cpu := (e.machine.cpu.set flagRegister (if e.machine.Collides w then 1 else 0)).advance
      executed := e.machine.executed + 1
      display := e.machine.display.flip (e.machine.sprite w).toList } := by
  have hp := perform_draw_of_holdsRows (e := e.announce .draw w) hcount hread
  rw [execute_of_operation? htable (Word.operation?_eq_draw_iff.mpr hdraw)]
  exact ⟨_, Act.bind_ok hp, rfl⟩

theorem execute_of_holdsRows (htable : e.machine.table = some standardTable) (hdraw : w.IsDraw)
    (hcount : e.machine.display.IsCountable)
    (hread : e.machine.HoldsRows w) :
    ∃ e' flag, execute w e = .ok () e' ∧ e'.machine = { e.machine with
      cpu := (e.machine.cpu.set flagRegister flag).advance
      executed := e.machine.executed + 1
      display := e.machine.display.flip (e.machine.sprite w).toList } := by
  obtain ⟨e', hexecute, hmachine⟩ := execute_draw_of_holdsRows htable hdraw hcount hread
  exact ⟨e', _, hexecute, hmachine⟩

theorem machine_of_draw (htable : e.machine.table = some standardTable) (hdraw : w.IsDraw)
    (hcount : e.machine.display.IsCountable) (h : execute w e = .ok () e') :
    e'.machine = { e.machine with
      cpu := (e.machine.cpu.set flagRegister (if e.machine.Collides w then 1 else 0)).advance
      executed := e.machine.executed + 1
      display := e.machine.display.flip (e.machine.sprite w).toList } := by
  obtain ⟨e₁, hexecute, hmachine⟩ :=
    execute_draw_of_holdsRows htable hdraw hcount (holdsRows_of_draw htable hdraw h)
  rw [h] at hexecute
  cases hexecute
  exact hmachine

/-- A word that draws with success flips the cells of its sprite. -/
theorem display_of_draw (htable : e.machine.table = some standardTable) (hdraw : w.IsDraw)
    (hcount : e.machine.display.IsCountable) (h : execute w e = .ok () e') :
    e'.machine.display = e.machine.display.flip (e.machine.sprite w).toList := by
  rw [machine_of_draw htable hdraw hcount h]

/-- The words that neither draw nor blank the screen leave it as it is. -/
theorem display_of_other (htable : e.machine.table = some standardTable) (hdraw : ¬ w.IsDraw)
    (hclear : w ≠ 0x00E0) (h : execute w e = .ok () e') :
    e'.machine.display = e.machine.display := by
  obtain ⟨op, hop, honly⟩ := changesOnly_of_execute_ok htable h
  refine honly .display (not_or_intro (fun hop' => ?_) fun hop' => ?_)
  · exact hclear (Word.operation?_eq_clearScreen_iff.mp (hop' ▸ hop))
  · exact hdraw (Word.operation?_eq_draw_iff.mp (hop' ▸ hop))

/-- A sprite that is drawn twice leaves the screen as it was, unless the flag register tells where
it is. -/
theorem redraw {e₁ : Emulator FrameBuffer} (htable : e.machine.table = some standardTable)
    (hdraw : w.IsDraw) (hcount : e.machine.display.IsCountable) (hx : w.x ≠ flagRegister)
    (hy : w.y ≠ flagRegister) (h : execute w e = .ok () e')
    (htable₁ : e₁.machine.table = some standardTable)
    (hdisplay : e₁.machine.display = e'.machine.display)
    (hmemory : e₁.machine.memory = e'.machine.memory) (hi : e₁.machine.cpu.i = e'.machine.cpu.i)
    (hx₁ : e₁.machine.cpu.get w.x = e'.machine.cpu.get w.x)
    (hy₁ : e₁.machine.cpu.get w.y = e'.machine.cpu.get w.y) :
    ∃ e₂, execute w e₁ = .ok () e₂ ∧ e₂.machine.display = e.machine.display := by
  have hread := holdsRows_of_draw htable hdraw h
  rw [machine_of_draw htable hdraw hcount h] at hdisplay hmemory hi hx₁ hy₁
  have hkept (flag : Byte) {r : Register} (hr : r ≠ flagRegister) :
      ((e.machine.cpu.set flagRegister flag).advance).get r = e.machine.cpu.get r :=
    Cpu.get_set_ne _ flag hr.symm
  replace hx₁ := hx₁.trans (hkept _ hx)
  replace hy₁ := hy₁.trans (hkept _ hy)
  have hsize : e₁.machine.display.clear = e.machine.display.clear := by rw [hdisplay]; rfl
  have hsprite : e₁.machine.sprite w = e.machine.sprite w :=
    Machine.sprite_congr hx₁ hy₁ hi hmemory hsize
  have hheight : e₁.machine.display.height = e.machine.display.height := congrArg (·.height) hsize
  have hread₁ : e₁.machine.HoldsRows w := by
    intro i hrow
    rw [Machine.shownRows, hy₁, hheight] at hrow
    rw [hmemory, hi]
    exact hread i hrow
  have hcount₁ : e₁.machine.display.IsCountable := by
    rw [hdisplay]
    exact hcount
  obtain ⟨e₂, hexecute, hmachine₂⟩ := execute_draw_of_holdsRows htable₁ hdraw hcount₁ hread₁
  refine ⟨e₂, hexecute, ?_⟩
  rw [hmachine₂]
  dsimp only
  rw [hdisplay, hsprite, FrameBuffer.flip_self]

end Emulator

/-! ## Words one after the other -/

/-- A word with the emulator it is executed on. -/
structure Execution where
  word : Word
  before : Emulator FrameBuffer

/-- The sprites that the executions draw, in their order. -/
def sprites (executions : List Execution) : List (Finset (Nat × Nat)) :=
  (executions.filter (·.word.IsDraw)).map fun x => x.before.machine.sprite x.word

/-- Words that are executed with success on one bitmap. Each of them finds the cells that the one
before it left; everything else may have changed in between. -/
inductive Executes : FrameBuffer → List Execution → FrameBuffer → Prop
  | nil {f : FrameBuffer} : Executes f [] f
  | cons {x : Execution} {rest : List Execution} {e' : Emulator FrameBuffer} {f g : FrameBuffer}
    (htable : x.before.machine.table = some standardTable) (hdisplay : x.before.machine.display = f)
    (h : Emulator.execute x.word x.before = .ok () e')
    (hrest : Executes e'.machine.display rest g) : Executes f (x :: rest) g

variable {executions : List Execution} {f g : FrameBuffer}

theorem sprites_cons (x : Execution) (rest : List Execution) : sprites (x :: rest) =
    if x.word.IsDraw then x.before.machine.sprite x.word :: sprites rest else sprites rest := by
  unfold sprites
  rw [List.filter_cons]
  by_cases h : x.word.IsDraw <;> simp [h]

/-- Whether a number of sprites that have a dot at the place is odd. -/
def isOddAt (place : Nat × Nat) (shown : List (Finset (Nat × Nat))) : Bool :=
  decide (Odd (shown.countP (place ∈ ·)))

theorem isOddAt_cons (place : Nat × Nat) (s : Finset (Nat × Nat))
    (shown : List (Finset (Nat × Nat))) :
    isOddAt place (s :: shown) = (decide (place ∈ s) ^^ isOddAt place shown) := by
  have hodd (n : Nat) : decide (Odd (n + 1)) = !decide (Odd n) := by
    rw [← decide_not]
    exact decide_eq_decide.mpr Nat.odd_add_one
  unfold isOddAt
  rw [List.countP_cons]
  by_cases h : place ∈ s
  · simp only [h, decide_true, if_true, hodd, Bool.true_xor]
  · simp [h]

/-- Every sprite turns the cells over where it has dots, and nothing else turns a cell over. -/
theorem Executes.pixel (h : Executes f executions g) (hcount : f.IsCountable)
    (hclear : ∀ x ∈ executions, x.word ≠ 0x00E0) :
    g.clear = f.clear ∧ ∀ x < f.width, ∀ y < f.height,
      g.pixel x y = (f.pixel x y ^^ isOddAt (x, y) (sprites executions)) := by
  induction h with
  | nil => exact ⟨rfl, fun x _ y _ => by simp [isOddAt, sprites]⟩
  | @cons x rest e' f g htable hdisplay hexecute hrest ih =>
    subst hdisplay
    have hword := hclear x List.mem_cons_self
    have hafter := fun y hy => hclear y (List.mem_cons_of_mem x hy)
    rw [sprites_cons]
    by_cases hdraw : x.word.IsDraw
    · have hflip := Emulator.display_of_draw htable hdraw hcount hexecute
      rw [hflip] at ih
      obtain ⟨hsize, hpixel⟩ := ih hcount hafter
      refine ⟨hsize, fun px hx py hy => ?_⟩
      rw [hpixel px hx py hy, FrameBuffer.pixel_flip _ hx hy, if_pos hdraw, isOddAt_cons,
        Bool.xor_assoc]
      simp only [Finset.mem_toList]
    · have hsame := Emulator.display_of_other htable hdraw hword hexecute
      rw [hsame] at ih
      rw [if_neg hdraw]
      exact ih hcount hafter

/-- The picture does not depend on the order of the sprites. -/
theorem Executes.eq_of_perm {executions' : List Execution} {g' : FrameBuffer}
    (h : Executes f executions g) (h' : Executes f executions' g') (hcount : f.IsCountable)
    (hclear : ∀ x ∈ executions, x.word ≠ 0x00E0) (hclear' : ∀ x ∈ executions', x.word ≠ 0x00E0)
    (hperm : (sprites executions).Perm (sprites executions')) : g' = g := by
  obtain ⟨hsize, hpixel⟩ := h.pixel hcount hclear
  obtain ⟨hsize', hpixel'⟩ := h'.pixel hcount hclear'
  have hwidth : g'.width = f.width := congrArg (·.width) hsize'
  have hheight : g'.height = f.height := congrArg (·.height) hsize'
  have hsame : g'.clear = g.clear := hsize'.trans hsize.symm
  refine FrameBuffer.ext_pixel (congrArg (·.width) hsame) (congrArg (·.height) hsame)
    fun x hx y hy => ?_
  rw [hwidth] at hx
  rw [hheight] at hy
  rw [hpixel' x hx y hy, hpixel x hx y hy, isOddAt, isOddAt, hperm.countP_eq]

/-- The picture after words that are executed with success on a bitmap that was blank, none of
which blanks it again; the bitmap may have as many cells as an index can count. A cell is lit when
an odd number of the sprites have a dot there; the order of the sprites does not matter; and a
sprite that is drawn again, from the same registers, index and memory, leaves the picture as it was
before, unless the flag register is one of them. -/
theorem picture_of_executions {width height : Nat} {picture : FrameBuffer}
    {executions : List Execution} (hcount : (FrameBuffer.blank width height).IsCountable)
    (hrun : Executes (FrameBuffer.blank width height) executions picture)
    (hclear : ∀ x ∈ executions, x.word ≠ 0x00E0) :
    (∀ px < width, ∀ py < height, picture.getPixel px py =
      .ok (decide (Odd ((sprites executions).countP ((px, py) ∈ ·))))) ∧
    (∀ executions' picture', Executes (FrameBuffer.blank width height) executions' picture' →
      (∀ x ∈ executions', x.word ≠ 0x00E0) → (sprites executions).Perm (sprites executions') →
      picture' = picture) ∧
    (∀ (w : Word) (e e' e₁ : Emulator FrameBuffer), w.IsDraw → w.x ≠ flagRegister →
      w.y ≠ flagRegister → e.machine.table = some standardTable →
      e.machine.display.clear = FrameBuffer.blank width height →
      Emulator.execute w e = .ok () e' →
      e₁.machine.table = some standardTable → e₁.machine.display = e'.machine.display →
      e₁.machine.memory = e'.machine.memory → e₁.machine.cpu.i = e'.machine.cpu.i →
      e₁.machine.cpu.get w.x = e'.machine.cpu.get w.x →
      e₁.machine.cpu.get w.y = e'.machine.cpu.get w.y →
      ∃ e₂, Emulator.execute w e₁ = .ok () e₂ ∧ e₂.machine.display = e.machine.display) := by
  refine ⟨fun px hx py hy => ?_, fun executions' picture' hrun' hclear' hperm => ?_,
    fun w e e' e₁ hdraw hx hy htable hsize h => ?_⟩
  · obtain ⟨hsize, hpixel⟩ := hrun.pixel hcount hclear
    have hwidth : picture.width = width := congrArg (·.width) hsize
    have hheight : picture.height = height := congrArg (·.height) hsize
    rw [FrameBuffer.getPixel_of_lt (hcount.of_clear hsize) (hwidth ▸ hx) (hheight ▸ hy),
      hpixel px hx py hy, FrameBuffer.pixel_blank, Bool.false_xor]
    rfl
  · exact hrun.eq_of_perm hrun' hcount hclear hclear' hperm
  · exact Emulator.redraw htable hdraw (hcount.of_clear hsize) hx hy h

/-- One dot is drawn on a bitmap of eight by four cells, and drawn again. -/
theorem picture_of_executions_dot : ∃ (e e' : Emulator FrameBuffer) (picture : FrameBuffer),
    (FrameBuffer.blank 8 4).IsCountable ∧ Executes (FrameBuffer.blank 8 4) [⟨0xD011, e⟩] picture ∧
    Emulator.execute 0xD011 e = .ok () e' ∧
    (sprites [⟨0xD011, e⟩]).countP ((2, 3) ∈ ·) = 1 ∧ picture.getPixel 2 3 = .ok true ∧
    ∃ e₂, Emulator.execute 0xD011 e' = .ok () e₂ ∧
      e₂.machine.display = FrameBuffer.blank 8 4 := by
  let e : Emulator FrameBuffer :=
    { machine :=
        { cpu := (({} : Cpu).set 0 2).set 1 3
          memory := ⟨#[0x80]⟩
          display := FrameBuffer.blank 8 4
          keyboard := .latch 0
          audio := .counter {} }
      host := {} }
  have hcount : (FrameBuffer.blank 8 4).IsCountable := by decide
  have hread : e.machine.HoldsRows 0xD011 := by
    intro i hi
    obtain rfl : i = 0 := Nat.lt_one_iff.mp hi
    exact ⟨0x80, rfl⟩
  obtain ⟨e', flag, h, hmachine⟩ := Emulator.execute_of_holdsRows (w := 0xD011) rfl (by decide)
    hcount hread
  have hrun : Executes (FrameBuffer.blank 8 4) [⟨0xD011, e⟩] e'.machine.display :=
    .cons rfl rfl h .nil
  have hodd : (sprites [⟨0xD011, e⟩]).countP ((2, 3) ∈ ·) = 1 := by decide
  obtain ⟨hlit, -, hagain⟩ := picture_of_executions hcount hrun (by simp)
  refine ⟨e, e', _, hcount, hrun, h, hodd, ?_, ?_⟩
  · have hpixel := hlit 2 (by decide) 3 (by decide)
    rwa [hodd] at hpixel
  · have htable : e'.machine.table = some standardTable := by rw [hmachine]
    exact hagain 0xD011 e e' e' (by decide) (by decide) (by decide) rfl rfl h htable
      rfl rfl rfl rfl rfl

end Chip8
