/-
  Sample rates that can be told. A beeper of the standard frequency tells the rate it was readied
  with. A rate for which there is a wave is below `440 * 2 ^ 1025`, which is few enough digits
  (`Beeper.exists_rateText`).
-/
import Chip8.Audio.Beeper
import Chip8.Proofs.Display.Scale

namespace Chip8

open Binary64 (twoTo)

namespace Number

/-- A rate that has a wave at a whole frequency is a real number, and their quotient is finite. -/
theorem exists_toReal_of_ofFrequency {rate : Number} {n : Nat} {wave : SquareWave}
    (h : SquareWave.ofFrequency rate (real (Binary64.ofInt n)) = .ok wave) :
    ∃ x k, rate.toReal = .ok x ∧ (Binary64.div x (Binary64.ofInt n)).round? = some k := by
  have hdiv : div rate (real (Binary64.ofInt n)) =
      (rate.toReal >>= fun x => Except.ok (Binary64.div x (Binary64.ofInt n))) := by
    cases rate <;> rfl
  unfold SquareWave.ofFrequency at h
  rw [hdiv] at h
  cases hreal : rate.toReal with
  | error fault =>
    rw [hreal] at h
    cases h
  | ok x =>
    rw [hreal] at h
    refine ⟨x, ?_⟩
    cases hround : (Binary64.div x (Binary64.ofInt n)).round? with
    | some k => exact ⟨k, rfl, rfl⟩
    | none =>
      have hfault : (real (Binary64.div x (Binary64.ofInt n))).round =
          .error (notWhole (Binary64.div x (Binary64.ofInt n))) := by
        rw [round, hround]
        rfl
      change ((real (Binary64.div x (Binary64.ofInt n))).round >>= _) = _ at h
      rw [hfault] at h
      cases h

theorem exists_truncate_of_ofFrequency {rate : Number} {n : Nat} {wave : SquareWave} (hpos : 0 < n)
    (hn : n < twoTo 53) (h : SquareWave.ofFrequency rate (real (Binary64.ofInt n)) = .ok wave) :
    ∃ t, rate.truncate = .ok t ∧ t.natAbs < n * twoTo 1025 := by
  obtain ⟨x, k, hreal, hround⟩ := exists_toReal_of_ofFrequency h
  obtain ⟨t, htruncate, ht⟩ := Binary64.exists_truncate?_of_div hpos hn hround
  cases rate with
  | real y =>
    cases hreal
    exact ⟨t, by rw [truncate, htruncate]; rfl, ht⟩
  | whole m =>
    refine ⟨m, rfl, ?_⟩
    have hx : Binary64.ofInt m = x := by
      rw [toReal] at hreal
      split at hreal
      · cases hreal
      · exact Except.ok.inj hreal
    cases x with
    | infinite s => cases htruncate
    | nan => cases htruncate
    | finite s m' e =>
      have hlt := Binary64.lt_of_ofRatio_finite Nat.one_pos hx
      exact Nat.lt_of_lt_of_le hlt (Nat.mul_le_mul_right _ hpos)

end Number

theorem mul_twoTo_le {n i j count : Nat} (hn : n ≤ 10 ^ i) (hcount : i + j ≤ count) :
    n * twoTo j ≤ 10 ^ count := by
  calc n * 2 ^ j ≤ 10 ^ i * 10 ^ j := Nat.mul_le_mul hn (Nat.pow_le_pow_left (by decide) j)
    _ = 10 ^ (i + j) := (Nat.pow_add 10 i j).symm
    _ ≤ 10 ^ count := Nat.pow_le_pow_right (by decide) hcount

namespace Beeper

theorem exists_rateText {b : Beeper} (hb : b.frequency = standardFrequency) {rate : Number}
    {wave : SquareWave} (h : SquareWave.ofFrequency rate b.frequency = .ok wave) :
    ∃ t, b.rateText rate = .ok t := by
  rw [hb] at h
  obtain ⟨n, htruncate, hn⟩ :=
    Number.exists_truncate_of_ofFrequency (n := 440) (by decide) (by decide) h
  have hfew : 440 * twoTo 1025 ≤ 10 ^ Numeral.decimalDigitLimit :=
    mul_twoTo_le (i := 3) (by decide) (by decide)
  obtain ⟨text, htext⟩ := exists_decimalText (Nat.lt_of_lt_of_le hn hfew)
  unfold rateText
  rw [htruncate, hb]
  change ∃ t, (decimalText n >>= _) = _
  rw [htext]
  exact ⟨_, rfl⟩

end Beeper

end Chip8
