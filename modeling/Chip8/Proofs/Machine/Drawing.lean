/-
  Drawing cell by cell, on a bitmap alone. The sprite of a word has a bit in a row and a column
  (`Machine.spriteBit`): its rows are the bytes from the index on, and a row goes from the most
  significant bit to the right. Where the upper left corner is comes from two registers, as they
  are before the flag register is cleared. A word that draws with success turns over the cells
  that get a bit of the sprite, tells in the flag register whether one of them was lit, and
  changes nothing else (`pixels_of_draw`). Bits past the right and the lower edge are left out.
-/
import Chip8.Proofs.Machine.Picture

namespace Chip8

namespace Machine

variable {δ : Type}

/-- The bit of the word's sprite in a row and a column. There is none outside its rows and its
eight columns. -/
def spriteBit (m : Machine δ) (w : Word) (row col : Int) : Bool :=
  decide (0 ≤ row ∧ row < w.n ∧ 0 ≤ col ∧ col < 8) &&
    match m.memory.load (m.cpu.i + row) with
    | .ok byte => byte &&& (0x80#8 >>> col.toNat) != 0#8
    | .error _ => false

theorem spriteBit_of_load {m : Machine δ} {w : Word} {row col : Nat} {byte : Byte}
    (hrow : row < w.n) (hcol : col < 8) (h : m.memory.load (m.cpu.i + row) = .ok byte) :
    m.spriteBit w row col = Sprite.hasDot byte col := by
  unfold spriteBit
  rw [decide_eq_true (by omega), h, Sprite.hasDot_eq byte hcol]
  rfl

/-- The dots of the sprite on the screen are its bits, counted from its upper left corner. -/
theorem hasDotAt_eq (m : Machine δ) (w : Word) (px py : Nat) :
    m.hasDotAt w (px, py) =
      m.spriteBit w (py - (m.cpu.get w.y).toNat) (px - (m.cpu.get w.x).toNat) := by
  unfold hasDotAt spriteBit
  dsimp only
  by_cases hin : (m.cpu.get w.x).toNat ≤ px ∧ px < (m.cpu.get w.x).toNat + 8 ∧
      (m.cpu.get w.y).toNat ≤ py ∧ py < (m.cpu.get w.y).toNat + w.n
  · have hrow : (py : Int) - (m.cpu.get w.y).toNat = (py - (m.cpu.get w.y).toNat : Nat) := by omega
    have hcol : (px : Int) - (m.cpu.get w.x).toNat = (px - (m.cpu.get w.x).toNat : Nat) := by omega
    have hbit : 0 ≤ (py : Int) - (m.cpu.get w.y).toNat ∧ (py : Int) - (m.cpu.get w.y).toNat < w.n ∧
        0 ≤ (px : Int) - (m.cpu.get w.x).toNat ∧ (px : Int) - (m.cpu.get w.x).toNat < 8 := by omega
    rw [decide_eq_true hin, decide_eq_true hbit, hrow, hcol, Int.toNat_natCast]
    cases m.memory.load (m.cpu.i + (py - (m.cpu.get w.y).toNat : Nat)) with
    | ok byte =>
      dsimp only
      rw [Sprite.hasDot_eq byte (by omega)]
    | error fault => rfl
  · have hbit : ¬ (0 ≤ (py : Int) - (m.cpu.get w.y).toNat ∧
        (py : Int) - (m.cpu.get w.y).toNat < w.n ∧
        0 ≤ (px : Int) - (m.cpu.get w.x).toNat ∧ (px : Int) - (m.cpu.get w.x).toNat < 8) := by
      omega
    rw [decide_eq_false hin, decide_eq_false hbit, Bool.false_and, Bool.false_and]

/-- A collision is a bit of the sprite on the screen that meets a lit cell. -/
theorem collides_iff {m : Machine FrameBuffer} {w : Word} :
    m.Collides w ↔ ∃ px < m.display.width, ∃ py < m.display.height,
      m.spriteBit w (py - (m.cpu.get w.y).toNat) (px - (m.cpu.get w.x).toNat) = true ∧
        m.display.pixel px py = true := by
  unfold Collides
  constructor
  · rintro ⟨⟨px, py⟩, hdot, hlit⟩
    obtain ⟨⟨hx, hy⟩, hbit⟩ := mem_sprite.mp hdot
    rw [hasDotAt_eq] at hbit
    exact ⟨px, hx, py, hy, hbit, hlit⟩
  · rintro ⟨px, hx, py, hy, hbit, hlit⟩
    rw [← hasDotAt_eq] at hbit
    exact ⟨(px, py), mem_sprite.mpr ⟨⟨hx, hy⟩, hbit⟩, hlit⟩

end Machine

open Emulator

variable {e e' : Emulator FrameBuffer} {w : Word}

/-- A word that draws with success on a bitmap, which may have as many cells as an index can count.
Each cell is what it was before, turned over where the sprite has a bit, and the flag register is
one if such a bit met a lit cell and zero if none did. The program counter moves on to the next
word, the instruction is counted, and nothing else is changed. -/
theorem pixels_of_draw (hcount : e.machine.display.IsCountable)
    (htable : e.machine.table = some standardTable) (hdraw : w.IsDraw)
    (h : execute w e = .ok () e') :
    let left : Int := (e.machine.cpu.get w.x).toNat
    let top : Int := (e.machine.cpu.get w.y).toNat
    ∃ (flag : Byte) (shown : FrameBuffer),
      e'.machine = { e.machine with
        cpu := { e.machine.cpu.set flagRegister flag with
          pc := (e.machine.cpu.pc + 2) % 65536 }
        executed := e.machine.executed + 1
        display := shown } ∧
      shown.clear = e.machine.display.clear ∧
      (∀ px < e.machine.display.width, ∀ py < e.machine.display.height, ∃ old,
        e.machine.display.getPixel px py = .ok old ∧
        shown.getPixel px py = .ok (old ^^ e.machine.spriteBit w (py - top) (px - left))) ∧
      ((∃ px < e.machine.display.width, ∃ py < e.machine.display.height,
        e.machine.spriteBit w (py - top) (px - left) = true ∧
        e.machine.display.getPixel px py = .ok true) → flag = 1) ∧
      ((¬ ∃ px < e.machine.display.width, ∃ py < e.machine.display.height,
        e.machine.spriteBit w (py - top) (px - left) = true ∧
        e.machine.display.getPixel px py = .ok true) → flag = 0) := by
  intro left top
  have hmachine := machine_of_draw htable hdraw hcount h
  have hread {px py : Nat} (hx : px < e.machine.display.width)
      (hy : py < e.machine.display.height) :
      e.machine.display.getPixel px py = .ok (e.machine.display.pixel px py) :=
    FrameBuffer.getPixel_of_lt hcount hx hy
  have hmeets : (∃ px < e.machine.display.width, ∃ py < e.machine.display.height,
      e.machine.spriteBit w (py - top) (px - left) = true ∧
      e.machine.display.getPixel px py = .ok true) ↔ e.machine.Collides w := by
    rw [Machine.collides_iff]
    refine exists_congr fun px => and_congr_right fun hx => exists_congr fun py =>
      and_congr_right fun hy => and_congr_right fun _ => ?_
    rw [hread hx hy, Except.ok.injEq]
  refine ⟨_, _, hmachine, rfl, fun px hx py hy => ⟨_, hread hx hy, ?_⟩,
    fun hmet => if_pos (hmeets.mp hmet), fun hmissed => if_neg (hmissed ∘ hmeets.mpr)⟩
  have hdot : decide ((px, py) ∈ (e.machine.sprite w).toList) =
      e.machine.spriteBit w (py - top) (px - left) := by
    rw [← Machine.hasDotAt_eq, Bool.eq_iff_iff, decide_eq_true_iff, Finset.mem_toList,
      Machine.mem_sprite]
    exact and_iff_right ⟨hx, hy⟩
  rw [← hdot, ← FrameBuffer.pixel_flip (f := e.machine.display) _ hx hy]
  exact FrameBuffer.getPixel_of_lt (f := e.machine.display.flip _) hcount hx hy

/-- A sprite of two rows in the lower right corner, with its column in the flag register. Two of
its dots lie on the screen, and one of them meets a lit cell. -/
theorem pixels_of_draw_corner : ∃ e e' : Emulator FrameBuffer,
    e.machine.display.IsCountable ∧ e.machine.display.clear = FrameBuffer.blank 8 4 ∧
    execute 0xDF12 e = .ok () e' ∧
    e.machine.cpu.get flagRegister = 6 ∧ e'.machine.cpu.get flagRegister = 1 ∧
    e.machine.display.getPixel 6 3 = .ok true ∧ e'.machine.display.getPixel 6 3 = .ok false ∧
    e'.machine.display.getPixel 7 3 = .ok true ∧ e'.machine.display.getPixel 0 3 = .ok false := by
  let e : Emulator FrameBuffer :=
    { machine :=
        { cpu := (({} : Cpu).set flagRegister 6).set 1 3
          memory := ⟨#[0xFF]⟩
          display := (FrameBuffer.blank 8 4).flip [(6, 3)]
          keyboard := .latch 0
          audio := .counter {} }
      host := {} }
  have hcount : e.machine.display.IsCountable := by decide
  have hread : e.machine.HoldsRows 0xDF12 := by
    intro i hi
    obtain rfl : i = 0 := Nat.lt_one_iff.mp hi
    exact ⟨0xFF, rfl⟩
  obtain ⟨e', h, -⟩ := execute_draw_of_holdsRows (w := 0xDF12) rfl (by decide) hcount hread
  obtain ⟨flag, shown, hmachine, -, hpixel, hmet, -⟩ :=
    pixels_of_draw (e := e) hcount rfl (by decide) h
  have hcell (px py : Nat) (hx : px < 8) (hy : py < 4) :
      e.machine.display.getPixel px py = .ok (e.machine.display.pixel px py) :=
    FrameBuffer.getPixel_of_lt hcount hx hy
  have hlit : e.machine.display.getPixel 6 3 = .ok true :=
    (hcell 6 3 (by decide) (by decide)).trans (congrArg _ (by decide))
  have hshown (px py : Nat) (hx : px < 8) (hy : py < 4) {on : Bool}
      (hon : (e.machine.display.pixel px py ^^ e.machine.spriteBit 0xDF12 (py - 3) (px - 6)) = on) :
      e'.machine.display.getPixel px py = .ok on := by
    obtain ⟨old, hold, hnew⟩ := hpixel px hx py hy
    cases (hcell px py hx hy).symm.trans hold
    rw [hmachine, ← hon]
    exact hnew
  refine ⟨e, e', hcount, rfl, h, rfl, ?_, hlit, hshown 6 3 (by decide) (by decide) (by decide),
    hshown 7 3 (by decide) (by decide) (by decide), hshown 0 3 (by decide) (by decide) (by decide)⟩
  rw [hmachine]
  exact (Cpu.get_set_same ..).trans (hmet ⟨6, by decide, 3, by decide, by decide, hlit⟩)

end Chip8
