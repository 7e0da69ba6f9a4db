/-
  How large a scale a window can paint with. The side of a cell's square is worked out with
  real numbers, so the scale must not be too large for one: below `overflowBound` there is a
  side (`exists_pixelSize`), from there on there is none (`pixelSize_of_le`). Up to `2 ^ 53` the
  side is the scale (`pixelSize_of_lt`).
-/
import Chip8.Display.Window
import Chip8.Proofs.Binary64
import Chip8.Proofs.Text.Numeral

namespace Chip8

namespace Number

theorem toReal_whole_of_le {n : Nat} (h : Binary64.overflowBound ≤ n) :
    (whole n).toReal = .error .numberTooLarge := by
  rw [toReal, Binary64.ofInt_of_le h]

theorem exists_toReal_whole {n : Nat} (h : n < Binary64.overflowBound) :
    ∃ s m e, (whole n).toReal = .ok (.finite s m e) ∧ m < Binary64.twoTo 53 ∧
      e ≤ Binary64.greatestExponent := by
  obtain ⟨m, e, hratio, hm, he⟩ := Binary64.exists_ofRatio_of_lt (decide ((n : Int) < 0))
    (show n < 1 * Binary64.overflowBound by omega)
  refine ⟨decide ((n : Int) < 0), m, e, ?_, hm, he⟩
  rw [toReal, Binary64.ofInt, Int.natAbs_natCast, hratio]

theorem mul_one_of_le {n : Nat} (h : Binary64.overflowBound ≤ n) :
    mul (whole n) one = .error .numberTooLarge := by
  change ((whole n).toReal >>= fun a => one.toReal >>= fun b =>
    Except.ok (real (Binary64.mul a b))) = _
  rw [toReal_whole_of_le h]
  rfl

theorem exists_mul_one {n : Nat} (h : n < Binary64.overflowBound) :
    ∃ s m e, mul (whole n) one = .ok (real (.finite s m e)) := by
  obtain ⟨s, m, e, hreal, hm, he⟩ := exists_toReal_whole h
  obtain ⟨s', m', e', hmul⟩ := Binary64.exists_mul_one s hm he
  refine ⟨s', m', e', ?_⟩
  change ((whole n).toReal >>= fun a => one.toReal >>= fun b =>
    Except.ok (real (Binary64.mul a b))) = _
  rw [hreal, ← hmul]
  rfl

/-- A whole number below `2 ^ 53` times one is itself. -/
theorem mul_one_of_lt {n : Nat} (hpos : 0 < n) (h : n < 2 ^ 53) :
    mul (whole n) one = .ok (real (Binary64.ofInt n)) := by
  have hreal : (whole n).toReal = .ok (Binary64.ofInt n) := by
    rw [toReal, Binary64.ofInt_whole hpos h]
  change ((whole n).toReal >>= fun a => one.toReal >>= fun b =>
    Except.ok (real (Binary64.mul a b))) = _
  rw [hreal]
  change Except.ok (real (Binary64.mul (Binary64.ofInt n) Binary64.one)) = _
  rw [Binary64.mul_one_whole hpos h]

theorem round_ofInt {n : Nat} (hpos : 0 < n) (h : n < 2 ^ 53) :
    (real (Binary64.ofInt n)).round = .ok (n : Int) := by
  rw [round, Binary64.round?_ofInt hpos h]
  rfl

end Number

namespace Window

/-- A window of a scale, and otherwise the usual one. -/
def ofScale (scale : Nat) : Window where
  scale := scale
  palette := Palette.monochrome
  fullscreen := false
  caption := standardCaption

theorem exists_pixelSize {scale : Nat} (h : scale < Binary64.overflowBound) :
    ∃ side, pixelSize scale Number.one = .ok side := by
  obtain ⟨s, m, e, hmul⟩ := Number.exists_mul_one h
  unfold pixelSize
  rw [hmul]
  exact ⟨_, rfl⟩

theorem pixelSize_of_le {scale : Nat} (h : Binary64.overflowBound ≤ scale) :
    pixelSize scale Number.one = .error .numberTooLarge := by
  unfold pixelSize
  rw [Number.mul_one_of_le h]
  rfl

/-- Below `2 ^ 53` the side is the scale itself. -/
theorem pixelSize_of_lt {scale : Nat} (hpos : 0 < scale) (h : scale < 2 ^ 53) :
    pixelSize scale Number.one = .ok (scale : Int) := by
  unfold pixelSize
  rw [Number.mul_one_of_lt hpos h]
  change (do return max 1 (← (Number.real (Binary64.ofInt scale)).round)) = _
  rw [Number.round_ofInt hpos h]
  change Except.ok (max 1 (scale : Int)) = _
  congr 1
  omega

/-- The size of a window can be told if its width has few enough digits. -/
theorem exists_sizeText {w : Window} (h : w.size.1 < 10 ^ Numeral.decimalDigitLimit) :
    ∃ t, w.sizeText = .ok t := by
  have hwidth : w.size.1 = 64 * w.scale := rfl
  have hheight : w.size.2 = 32 * w.scale := rfl
  obtain ⟨width, hw⟩ := exists_decimalText (n := w.size.1) h
  obtain ⟨height, hh⟩ := exists_decimalText (n := w.size.2) (by
    refine Nat.lt_of_le_of_lt ?_ h
    rw [Int.natAbs_natCast, hheight, hwidth]
    omega)
  obtain ⟨scale, hs⟩ := exists_decimalText (n := w.scale) (by
    refine Nat.lt_of_le_of_lt ?_ h
    rw [Int.natAbs_natCast, hwidth]
    omega)
  unfold sizeText
  rw [hw, hh, hs]
  exact ⟨_, rfl⟩

theorem sizeText_of_le {w : Window} (h : 10 ^ Numeral.decimalDigitLimit ≤ w.size.1) :
    w.sizeText = .error .numeralTooLong := by
  unfold sizeText
  rw [decimalText_of_le (n := w.size.1) h]
  rfl

theorem size_lt_of_lt {w : Window} (hscale : w.scale < 2 ^ 53) :
    w.size.1 < 10 ^ Numeral.decimalDigitLimit := by
  have hpow : 10 ^ 18 ≤ 10 ^ Numeral.decimalDigitLimit :=
    Nat.pow_le_pow_right (by decide) (by decide)
  refine Nat.lt_of_lt_of_le ?_ hpow
  change 64 * w.scale < 10 ^ 18
  omega

end Window

end Chip8
