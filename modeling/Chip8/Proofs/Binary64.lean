/-
  Which quotients have a finite nearest number. The exponent is chosen so that the scaled
  quotient is below `2 ^ 53` (`scaled_exponentOf_lt`), and it stays in range for quotients
  below `2 ^ 1024` (`exponentOf_le`). What decides is the rounding at the top: a quotient is
  too large from half a place above the greatest number on (`overflowBound`). Below the bound
  the nearest number is finite (`exists_ofRatio_of_lt`), and integers from the bound on are
  infinite (`ofInt_of_le`). Whole numbers below `2 ^ 53` are exact (`ofInt_whole`), and times one
  they stay what they are (`mul_one_whole`).
-/
import Chip8.Binary64.Basic
import Mathlib.Tactic.Common
import Mathlib.Tactic.Ring

namespace Chip8

/-! ## Rounding to an integer -/

theorem roundHalfEven_le {n d k : Nat} (h : 2 * n < d * (2 * k + 1)) : roundHalfEven n d ≤ k := by
  have hd : 0 < d := by
    rcases Nat.eq_zero_or_pos d with rfl | hd
    · simp at h
    · exact hd
  have hn := Nat.div_add_mod n d
  have hr := Nat.mod_lt n hd
  have hq : n / d ≤ k := by
    by_contra hq
    have : d * (k + 1) ≤ d * (n / d) := Nat.mul_le_mul_left d (by omega)
    have : d * (2 * k + 1) ≤ 2 * (d * (k + 1)) := by
      rw [show 2 * (d * (k + 1)) = d * (2 * k + 1) + d by ring]
      omega
    omega
  unfold roundHalfEven
  dsimp only
  rcases Nat.lt_or_eq_of_le hq with hq | hq
  · split_ifs <;> omega
  · -- the remainder is less than half, so nothing is rounded up
    have : 2 * (n % d) < d := by
      have : d * (2 * k + 1) = 2 * (d * k) + d := by ring
      rw [hq] at hn
      omega
    rw [if_pos this]
    exact hq.le

theorem roundHalfEven_of_odd {n d k : Nat} (hk : k % 2 = 1) (h : d * (2 * k + 1) ≤ 2 * n)
    (h' : n < d * (k + 1)) : roundHalfEven n d = k + 1 := by
  have hd : 0 < d := by
    rcases Nat.eq_zero_or_pos d with rfl | hd
    · simp at h'
    · exact hd
  have hn := Nat.div_add_mod n d
  have htwice : d * (2 * k + 1) = 2 * (d * k) + d := by ring
  have hq : n / d = k := by
    apply Nat.div_eq_of_lt_le
    · rw [Nat.mul_comm]
      omega
    · rw [Nat.mul_comm]
      exact h'
  have hr : d ≤ 2 * (n % d) := by
    rw [hq] at hn
    omega
  unfold roundHalfEven
  dsimp only
  rw [if_neg (by omega), hq, hk]
  split_ifs <;> rfl

namespace Binary64

theorem twoTo_eq (n : Nat) : twoTo n = 2 ^ n := rfl

theorem twoTo_succ (n : Nat) : twoTo (n + 1) = 2 * twoTo n := by
  rw [twoTo_eq, Nat.pow_succ, Nat.mul_comm, twoTo_eq]

theorem twoTo_add (m n : Nat) : twoTo (m + n) = twoTo m * twoTo n := Nat.pow_add 2 m n

theorem twoTo_le {m n : Nat} (h : m ≤ n) : twoTo m ≤ twoTo n :=
  Nat.pow_le_pow_right (by decide) h

theorem twoTo_pos (n : Nat) : 0 < twoTo n := Nat.two_pow_pos n

/-- Half a place above the greatest finite number. -/
def overflowBound : Nat := (twoTo 54 - 1) * twoTo 970

/-! ## Scaling -/

/-- Scaling by `a - b` powers of two compares as multiplying by either power does. -/
theorem scaled_lt_iff {num den a b c k : Nat} :
    c * (scaled num den ((a : Int) - b)).1 < (scaled num den ((a : Int) - b)).2 * k ↔
      c * (num * twoTo b) < den * twoTo a * k := by
  have key {x y t : Nat} : x < y ↔ x * 2 ^ t < y * 2 ^ t :=
    (Nat.mul_lt_mul_right (Nat.two_pow_pos t)).symm
  unfold scaled
  simp only [twoTo_eq]
  split
  · rename_i h
    obtain ⟨t, rfl⟩ : ∃ t, b = a + t := ⟨b - a, by omega⟩
    have ht : ((a : Int) - (a + t : Nat)).natAbs = t := by omega
    rw [ht, key (t := a)]
    rw [show c * (num * 2 ^ t) * 2 ^ a = c * (num * 2 ^ (a + t)) by ring,
      show den * k * 2 ^ a = den * 2 ^ a * k by ring]
  · rename_i h
    obtain ⟨t, rfl⟩ : ∃ t, a = b + t := ⟨a - b, by omega⟩
    have ht : (((b + t : Nat) : Int) - b).natAbs = t := by omega
    rw [ht, key (t := b)]
    rw [show c * num * 2 ^ b = c * (num * 2 ^ b) by ring,
      show den * 2 ^ t * k * 2 ^ b = den * 2 ^ (b + t) * k by ring]

theorem scaled_lt_mono {num den c k : Nat} {e e' : Int} (he : e ≤ e')
    (h : c * (scaled num den e).1 < (scaled num den e).2 * k) :
    c * (scaled num den e').1 < (scaled num den e').2 * k := by
  obtain ⟨a, b, rfl⟩ : ∃ a b : Nat, e = a - b := ⟨e.toNat, (-e).toNat, by omega⟩
  obtain ⟨t, rfl⟩ : ∃ t : Nat, e' = (a + t : Nat) - b := ⟨(e' - (a - b)).toNat, by omega⟩
  rw [scaled_lt_iff] at h ⊢
  calc c * (num * twoTo b) < den * twoTo a * k := h
    _ ≤ den * twoTo (a + t) * k := by
      gcongr
      exact twoTo_le (by omega)

/-! ## The exponent -/

/-- The exponent that the lengths of numerator and denominator suggest. -/
theorem scaled_guess_lt {num den : Nat} (hden : 0 < den) :
    1 * (scaled num den ((num.log2 : Int) - (den.log2 + 52 : Nat))).1 <
      (scaled num den ((num.log2 : Int) - (den.log2 + 52 : Nat))).2 * twoTo 53 := by
  rw [scaled_lt_iff]
  have hn : num < 2 ^ (num.log2 + 1) := Nat.lt_log2_self
  have hd : 2 ^ den.log2 ≤ den := Nat.log2_self_le (by omega)
  simp only [twoTo_eq]
  calc 1 * (num * 2 ^ (den.log2 + 52)) < 2 ^ (num.log2 + 1) * 2 ^ (den.log2 + 52) := by
        rw [Nat.one_mul]
        exact Nat.mul_lt_mul_of_pos_right hn (Nat.two_pow_pos _)
    _ = 2 ^ den.log2 * 2 ^ num.log2 * 2 ^ 53 := by ring
    _ ≤ den * 2 ^ num.log2 * 2 ^ 53 := by gcongr

theorem scaled_exponentOf_lt (num : Nat) {den : Nat} (hden : 0 < den) :
    1 * (scaled num den (exponentOf num den)).1 <
      (scaled num den (exponentOf num den)).2 * twoTo 53 := by
  have hguess : (num.log2 : Int) - den.log2 - 52 = (num.log2 : Int) - (den.log2 + 52 : Nat) := by
    omega
  unfold exponentOf
  dsimp only
  rw [hguess]
  apply scaled_lt_mono (le_max_left ..)
  split
  · rename_i h
    have hlower : (num.log2 : Int) - (den.log2 + 52 : Nat) - 1 =
        (num.log2 : Int) - (den.log2 + 53 : Nat) := by omega
    rw [← Nat.one_mul (scaled ..).1, scaled_lt_iff] at h
    rw [hlower, scaled_lt_iff]
    simp only [twoTo_eq] at h ⊢
    calc 1 * (num * 2 ^ (den.log2 + 53)) = 2 * (1 * (num * 2 ^ (den.log2 + 52))) := by ring
      _ < 2 * (den * 2 ^ num.log2 * 2 ^ 52) := by omega
      _ = den * 2 ^ num.log2 * 2 ^ 53 := by ring
  · exact scaled_guess_lt hden

theorem exponentOf_le {num den t : Nat} (hnum : 0 < num) (h : num < den * twoTo (t + 53)) :
    exponentOf num den ≤ t := by
  have hn : 2 ^ num.log2 ≤ num := Nat.log2_self_le (by omega)
  have hd : den < 2 ^ (den.log2 + 1) := Nat.lt_log2_self
  have hlog : num.log2 < den.log2 + 1 + (t + 53) := by
    rw [← Nat.pow_lt_pow_iff_right (show 1 < 2 by decide)]
    calc 2 ^ num.log2 ≤ num := hn
      _ < den * 2 ^ (t + 53) := h
      _ ≤ 2 ^ (den.log2 + 1) * 2 ^ (t + 53) := by gcongr
      _ = 2 ^ (den.log2 + 1 + (t + 53)) := by ring
  unfold exponentOf leastExponent
  dsimp only
  split
  · omega
  · rename_i hguess
    -- the longest numerators are just the ones for which the guess is lowered
    have : num.log2 ≠ den.log2 + (t + 53) := by
      intro heq
      apply hguess
      rw [show (num.log2 : Int) - den.log2 - 52 = (num.log2 : Int) - (den.log2 + 52 : Nat) by omega,
        ← Nat.one_mul (scaled ..).1, scaled_lt_iff, heq]
      simp only [twoTo_eq] at h ⊢
      calc 1 * (num * 2 ^ (den.log2 + 52)) < den * 2 ^ (t + 53) * 2 ^ (den.log2 + 52) := by
            rw [Nat.one_mul]
            exact Nat.mul_lt_mul_of_pos_right h (Nat.two_pow_pos _)
        _ = den * 2 ^ (den.log2 + (t + 53)) * 2 ^ 52 := by ring
    omega

/-! ## Rounding at the top -/

theorem two_mul_overflowBound : 2 * overflowBound = (2 * (twoTo 53 - 1) + 1) * twoTo 971 := by
  have h : twoTo 971 = 2 * twoTo 970 := twoTo_succ 970
  have h' : twoTo 54 - 1 = 2 * (twoTo 53 - 1) + 1 := by decide
  rw [overflowBound, h, h']
  ring

theorem overflowBound_le : overflowBound ≤ twoTo (971 + 53) := by
  have h : 2 * overflowBound ≤ 2 * twoTo (971 + 53) := by
    rw [two_mul_overflowBound, twoTo_add, Nat.mul_comm (twoTo 971), ← Nat.mul_assoc]
    exact Nat.mul_le_mul_right _ (by decide)
  omega

theorem le_overflowBound : twoTo (53 + 970) ≤ overflowBound := by
  rw [twoTo_add, overflowBound]
  exact Nat.mul_le_mul_right _ (by decide)

/-- At the greatest exponent, a quotient below the bound is not rounded up to the next power. -/
theorem scaled_lt_of_top {num den : Nat} (h : num < den * overflowBound) :
    2 * (scaled num den (971 : Nat)).1 <
      (scaled num den (971 : Nat)).2 * (2 * (twoTo 53 - 1) + 1) := by
  rw [show ((971 : Nat) : Int) = (971 : Nat) - (0 : Nat) by omega, scaled_lt_iff]
  calc 2 * (num * twoTo 0) = 2 * num := by rw [twoTo_eq, Nat.pow_zero, Nat.mul_one]
    _ < 2 * (den * overflowBound) := by omega
    _ = den * (2 * overflowBound) := by rw [Nat.mul_left_comm]
    _ = den * twoTo 971 * (2 * (twoTo 53 - 1) + 1) := by
      rw [two_mul_overflowBound, Nat.mul_comm _ (twoTo 971), Nat.mul_assoc]

/-- The mantissa before a last carry into the exponent. -/
def mantissaOf (num den : Nat) : Nat :=
  roundHalfEven (scaled num den (exponentOf num den)).1 (scaled num den (exponentOf num den)).2

/-- Mantissa and exponent of a quotient after the last carry. -/
structure Rounded (num den m : Nat) (e : Int) : Prop where
  carry : mantissaOf num den = twoTo 53 → m = twoTo 52 ∧ e = exponentOf num den + 1
  keep : mantissaOf num den ≠ twoTo 53 → m = mantissaOf num den ∧ e = exponentOf num den

theorem exists_rounded (negative : Bool) {num : Nat} (den : Nat) (hnum : num ≠ 0) :
    ∃ m e, Rounded num den m e ∧
      ofRatio negative num den =
        if greatestExponent < e then infinite negative else finite negative m e := by
  have rounded {n d m : Nat} {e : Int} (hs : scaled num den (exponentOf num den) = (n, d))
      (h : (if roundHalfEven n d = twoTo 53 then (twoTo 52, exponentOf num den + 1)
        else (roundHalfEven n d, exponentOf num den)) = (m, e)) : Rounded num den m e := by
    have hm : mantissaOf num den = roundHalfEven n d := by rw [mantissaOf, hs]
    constructor
    · intro hcarry
      rw [if_pos (hm ▸ hcarry)] at h
      exact ⟨(congrArg Prod.fst h).symm, (congrArg Prod.snd h).symm⟩
    · intro hkeep
      rw [if_neg (hm ▸ hkeep)] at h
      exact ⟨hm ▸ (congrArg Prod.fst h).symm, (congrArg Prod.snd h).symm⟩
  fun_cases ofRatio negative num den
  case case1 h => exact absurd h hnum
  case case2 n d hs _ m e h hlt => exact ⟨m, e, rounded hs h, by rw [if_pos hlt]⟩
  case case3 n d hs _ m e h hlt => exact ⟨m, e, rounded hs h, by rw [if_neg hlt]⟩

theorem mantissaOf_le (num : Nat) {den : Nat} (hden : 0 < den) : mantissaOf num den ≤ twoTo 53 := by
  apply roundHalfEven_le
  have := scaled_exponentOf_lt num hden
  rw [Nat.mul_add, Nat.mul_left_comm]
  omega

/-- Below the bound the nearest number is finite, and no more than the greatest one. -/
theorem exists_ofRatio_of_lt (negative : Bool) {num den : Nat}
    (h : num < den * overflowBound) :
    ∃ m e, ofRatio negative num den = finite negative m e ∧ m < twoTo 53 ∧
      e ≤ greatestExponent := by
  have hden : 0 < den := by
    rcases Nat.eq_zero_or_pos den with rfl | hden
    · simp at h
    · exact hden
  rcases Nat.eq_zero_or_pos num with rfl | hnum
  · exact ⟨0, 0, rfl, twoTo_pos 53, by decide⟩
  · have he : exponentOf num den ≤ (971 : Nat) :=
      exponentOf_le hnum (h.trans_le (Nat.mul_le_mul_left den overflowBound_le))
    have hle := mantissaOf_le num hden
    obtain ⟨m, e, hrounded, hratio⟩ := exists_rounded negative den hnum.ne'
    have hme : m < twoTo 53 ∧ e ≤ greatestExponent := by
      by_cases hcarry : mantissaOf num den = twoTo 53
      · obtain ⟨rfl, rfl⟩ := hrounded.carry hcarry
        have hne : exponentOf num den ≠ (971 : Nat) := by
          intro heq
          rw [mantissaOf, heq] at hcarry
          have := roundHalfEven_le (scaled_lt_of_top h)
          have := twoTo_pos 53
          omega
        refine ⟨Nat.pow_lt_pow_right (by decide) (by decide), ?_⟩
        unfold greatestExponent
        omega
      · obtain ⟨rfl, rfl⟩ := hrounded.keep hcarry
        exact ⟨by omega, he⟩
    refine ⟨m, e, ?_, hme⟩
    rw [hratio, if_neg hme.2.not_gt]

theorem le_log2_of_twoTo_le {n k : Nat} (hn : n ≠ 0) (h : twoTo k ≤ n) : k ≤ n.log2 :=
  (Nat.le_log2 hn).mpr h

theorem twoTo_log2_le {n : Nat} (h : 0 < n) : twoTo n.log2 ≤ n := Nat.log2_self_le (by omega)

theorem exponentOf_one {n : Nat} (h : 0 < n) (h' : 53 ≤ n.log2) :
    exponentOf n 1 = (n.log2 - 52 : Nat) := by
  have hlog : (n.log2 : Int) - (Nat.log2 1 : Nat) - 52 = (n.log2 - 52 : Nat) := by
    rw [show Nat.log2 1 = 0 from rfl]
    omega
  have hguess : ¬ (scaled n 1 (n.log2 - 52 : Nat)).1 <
      (scaled n 1 (n.log2 - 52 : Nat)).2 * twoTo 52 := by
    rw [show ((n.log2 - 52 : Nat) : Int) = (n.log2 - 52 : Nat) - (0 : Nat) by omega,
      ← Nat.one_mul (scaled ..).1, scaled_lt_iff, Nat.mul_assoc 1 (twoTo (n.log2 - 52)),
      ← twoTo_add, show n.log2 - 52 + 52 = n.log2 by omega, twoTo_eq 0, Nat.pow_zero]
    have := twoTo_log2_le h
    omega
  unfold exponentOf leastExponent
  dsimp only
  rw [hlog, if_neg hguess]
  omega

theorem scaled_one (n t : Nat) : scaled n 1 (t : Nat) = (n, twoTo t) := by
  rw [scaled, if_neg (by omega), Int.natAbs_natCast, Nat.one_mul]

/-- An integer from the bound on is too large. -/
theorem ofRatio_of_le (negative : Bool) {n : Nat} (h : overflowBound ≤ n) :
    ofRatio negative n 1 = infinite negative := by
  have hpos : 0 < overflowBound := Nat.mul_pos (by decide) (twoTo_pos 970)
  have hn : n ≠ 0 := by omega
  have hlog : 53 + 970 ≤ n.log2 := le_log2_of_twoTo_le hn (le_overflowBound.trans h)
  have he := exponentOf_one (n := n) (by omega) (by omega)
  obtain ⟨m, e, hrounded, hratio⟩ := exists_rounded negative 1 hn
  have hinfinite : greatestExponent < e := by
    unfold greatestExponent
    by_cases hcarry : mantissaOf n 1 = twoTo 53
    · obtain ⟨-, rfl⟩ := hrounded.carry hcarry
      omega
    · obtain ⟨-, rfl⟩ := hrounded.keep hcarry
      rcases Nat.lt_or_eq_of_le hlog with hlt | heq
      · omega
      · -- of the longest integers that fit, this one is rounded up
        exfalso
        apply hcarry
        have hn : n < twoTo (n.log2 + 1) := Nat.lt_log2_self
        rw [← heq] at hn
        rw [mantissaOf, he, ← heq, scaled_one]
        have hround : roundHalfEven n (twoTo 971) = (twoTo 53 - 1) + 1 := by
          apply roundHalfEven_of_odd (by decide)
          · rw [Nat.mul_comm, ← two_mul_overflowBound]
            omega
          · rw [show twoTo 53 - 1 + 1 = twoTo 53 by decide, ← twoTo_add]
            exact hn
        rw [show 53 + 970 - 52 = 971 from rfl, hround]
        decide
  rw [hratio, if_pos hinfinite]

theorem ofInt_of_le {n : Nat} (h : overflowBound ≤ n) : ofInt n = infinite false := by
  have hnegative : decide ((n : Int) < 0) = false := by simp
  rw [ofInt, hnegative, Int.natAbs_natCast, ofRatio_of_le false h]

/-- An integer has no finite nearest number exactly from the bound on, on either side of zero. -/
theorem exists_ofInt_infinite_iff {n : Int} :
    (∃ negative, ofInt n = infinite negative) ↔ overflowBound ≤ n.natAbs := by
  refine ⟨fun ⟨negative, hinfinite⟩ => ?_, fun h => ⟨_, ofRatio_of_le _ h⟩⟩
  by_contra hlt
  have hlt : n.natAbs < 1 * overflowBound := by
    rw [Nat.one_mul]
    exact Nat.not_le.mp hlt
  obtain ⟨m, e, hfinite, -⟩ := exists_ofRatio_of_lt (decide (n < 0)) hlt
  rw [ofInt, hfinite] at hinfinite
  cases hinfinite

/-- What has a finite nearest number is not far above the greatest one. -/
theorem lt_of_ofRatio_finite {negative s : Bool} {num den m : Nat} {e : Int} (hden : 0 < den)
    (h : ofRatio negative num den = finite s m e) : num < den * twoTo 1025 := by
  by_contra hle
  have hle : den * twoTo 1025 ≤ num := Nat.not_lt.mp hle
  have hnum : num ≠ 0 := by
    have hpos := Nat.mul_pos hden (twoTo_pos 1025)
    generalize twoTo 1025 = bound at hle hpos
    omega
  have hlog : den.log2 + 1025 ≤ num.log2 := by
    apply le_log2_of_twoTo_le hnum
    calc twoTo (den.log2 + 1025) = twoTo den.log2 * twoTo 1025 := twoTo_add ..
      _ ≤ den * twoTo 1025 := Nat.mul_le_mul_right _ (twoTo_log2_le hden)
      _ ≤ num := hle
  have hexponent : greatestExponent + 1 ≤ exponentOf num den := by
    unfold exponentOf greatestExponent
    dsimp only
    apply le_max_of_le_left
    split <;> omega
  obtain ⟨m', e', hrounded, hratio⟩ := exists_rounded negative den hnum
  have hinfinite : greatestExponent < e' := by
    by_cases hcarry : mantissaOf num den = twoTo 53
    · obtain ⟨-, rfl⟩ := hrounded.carry hcarry
      omega
    · obtain ⟨-, rfl⟩ := hrounded.keep hcarry
      omega
  rw [hratio, if_pos hinfinite] at h
  cases h

/-! ## Multiplying by one -/

theorem one_eq : one = finite false (twoTo 52) (-52) := by decide

theorem fraction_lt {m : Nat} {e : Int} (hm : m < twoTo 53) (he : e ≤ greatestExponent) :
    (fraction m e).1 < (fraction m e).2 * overflowBound := by
  have hbound := le_overflowBound
  have hle : twoTo 53 ≤ twoTo (53 + 970) := by
    rw [twoTo_add]
    exact Nat.le_mul_of_pos_right _ (twoTo_pos 970)
  unfold fraction
  split
  · calc m < 1 * overflowBound := by omega
      _ ≤ twoTo e.natAbs * overflowBound := Nat.mul_le_mul_right _ (twoTo_pos _)
  · have hexp : twoTo e.natAbs ≤ twoTo 971 :=
      twoTo_le (by unfold greatestExponent at he; omega)
    have hprod : m * twoTo e.natAbs ≤ (twoTo 53 - 1) * twoTo 971 :=
      Nat.mul_le_mul (by omega) hexp
    have htop := two_mul_overflowBound
    have hpos := twoTo_pos 971
    rw [Nat.add_mul, Nat.one_mul, Nat.mul_assoc] at htop
    generalize twoTo 971 = top at hprod htop hpos
    omega

/-- A finite number times one is finite. -/
theorem exists_mul_one (s : Bool) {m : Nat} {e : Int} (hm : m < twoTo 53)
    (he : e ≤ greatestExponent) : ∃ s' m' e', mul (finite s m e) one = finite s' m' e' := by
  have hlt := fraction_lt hm he
  rw [one_eq]
  obtain ⟨m', e', h, -⟩ := exists_ofRatio_of_lt (s != false)
    (show (fraction m e).1 * twoTo 52 < (fraction m e).2 * twoTo 52 * overflowBound by
      rw [Nat.mul_right_comm]
      exact Nat.mul_lt_mul_of_pos_right hlt (twoTo_pos 52))
  exact ⟨_, m', e', h⟩

/-! ## Whole numbers below `2 ^ 53` -/

theorem log2_mul_twoTo {n : Nat} (hn : 0 < n) (j : Nat) : (n * twoTo j).log2 = n.log2 + j := by
  have hlow : 2 ^ n.log2 ≤ n := Nat.log2_self_le (by omega)
  have hhigh : n < 2 ^ (n.log2 + 1) := Nat.lt_log2_self
  rw [twoTo_eq, Nat.log2_eq_iff (Nat.mul_pos hn (Nat.two_pow_pos j)).ne']
  constructor
  · rw [Nat.pow_add]
    exact Nat.mul_le_mul_right _ hlow
  · rw [show n.log2 + j + 1 = n.log2 + 1 + j by omega, Nat.pow_add 2 (n.log2 + 1)]
    exact Nat.mul_lt_mul_of_pos_right hhigh (Nat.two_pow_pos j)

variable {n : Nat}

theorem log2_le_of_lt (hpos : 0 < n) (hn : n < twoTo 53) : n.log2 ≤ 52 :=
  Nat.lt_succ_iff.mp ((Nat.log2_lt (by omega)).mpr hn)

theorem exponentOf_whole (hpos : 0 < n) (j : Nat) :
    exponentOf (n * twoTo j) (twoTo j) = (n.log2 : Int) - (52 : Nat) := by
  have hlow : twoTo n.log2 ≤ n := twoTo_log2_le hpos
  have hlog : ((n * twoTo j).log2 : Int) - ((twoTo j).log2 : Nat) - 52 =
      (n.log2 : Int) - (52 : Nat) := by
    rw [log2_mul_twoTo hpos, twoTo_eq, Nat.log2_two_pow]
    omega
  have hguess : ¬ (scaled (n * twoTo j) (twoTo j) ((n.log2 : Int) - (52 : Nat))).1 <
      (scaled (n * twoTo j) (twoTo j) ((n.log2 : Int) - (52 : Nat))).2 * twoTo 52 := by
    rw [← Nat.one_mul (scaled ..).1, scaled_lt_iff, Nat.one_mul, Nat.mul_comm (twoTo j)]
    exact Nat.not_lt.mpr (Nat.mul_le_mul_right _ (Nat.mul_le_mul_right _ hlow))
  unfold exponentOf leastExponent
  dsimp only
  rw [hlog, if_neg hguess]
  omega

theorem mantissaOf_whole (hpos : 0 < n) (hn : n < twoTo 53) (j : Nat) :
    mantissaOf (n * twoTo j) (twoTo j) = n * twoTo (52 - n.log2) := by
  have hlog := log2_le_of_lt hpos hn
  have habs : ((n.log2 : Int) - (52 : Nat)).natAbs = 52 - n.log2 := by omega
  rw [mantissaOf, exponentOf_whole hpos, scaled, habs]
  split
  · rw [Nat.mul_right_comm]
    exact roundHalfEven_mul _ (twoTo_pos j)
  · rw [show 52 - n.log2 = 0 by omega, show twoTo 0 = 1 from rfl, Nat.mul_one, Nat.mul_one]
    exact roundHalfEven_mul n (twoTo_pos j)

/-- Such a number is a real number as it is, however the quotient is written. -/
theorem ofRatio_whole (hpos : 0 < n) (hn : n < twoTo 53) (j : Nat) :
    ofRatio false (n * twoTo j) (twoTo j) =
      finite false (n * twoTo (52 - n.log2)) ((n.log2 : Int) - (52 : Nat)) := by
  have hlog := log2_le_of_lt hpos hn
  have hmantissa := mantissaOf_whole hpos hn j
  have hlt : n * twoTo (52 - n.log2) < twoTo 53 := by
    calc n * twoTo (52 - n.log2) < twoTo (n.log2 + 1) * twoTo (52 - n.log2) :=
        Nat.mul_lt_mul_of_pos_right Nat.lt_log2_self (twoTo_pos _)
      _ = twoTo 53 := by rw [← twoTo_add, show n.log2 + 1 + (52 - n.log2) = 53 by omega]
  obtain ⟨m, e, hrounded, hratio⟩ :=
    exists_rounded false (twoTo j) (Nat.mul_pos hpos (twoTo_pos j)).ne'
  obtain ⟨rfl, rfl⟩ := hrounded.keep (by omega)
  rw [hratio, hmantissa, exponentOf_whole hpos, if_neg]
  unfold greatestExponent
  omega

theorem fraction_whole (hpos : 0 < n) (hn : n < twoTo 53) :
    fraction (n * twoTo (52 - n.log2)) ((n.log2 : Int) - (52 : Nat)) =
      (n * twoTo (52 - n.log2), twoTo (52 - n.log2)) := by
  have hlog := log2_le_of_lt hpos hn
  have habs : ((n.log2 : Int) - (52 : Nat)).natAbs = 52 - n.log2 := by omega
  rw [fraction, habs]
  split
  · rfl
  · rw [show 52 - n.log2 = 0 by omega, show twoTo 0 = 1 from rfl, Nat.mul_one, Nat.mul_one]

theorem ofInt_whole (hpos : 0 < n) (hn : n < twoTo 53) :
    ofInt n = finite false (n * twoTo (52 - n.log2)) ((n.log2 : Int) - (52 : Nat)) := by
  have hratio := ofRatio_whole hpos hn 0
  rw [show twoTo 0 = 1 from rfl, Nat.mul_one] at hratio
  rw [ofInt, show decide ((n : Int) < 0) = false by simp, Int.natAbs_natCast, hratio]

/-- Times one it stays what it is. -/
theorem mul_one_whole (hpos : 0 < n) (hn : n < twoTo 53) : mul (ofInt n) one = ofInt n := by
  have hone : fraction (twoTo 52) (-52) = (twoTo 52, twoTo 52) := rfl
  rw [ofInt_whole hpos hn, one_eq, mul, fraction_whole hpos hn, hone]
  dsimp only
  rw [← twoTo_add, Nat.mul_assoc, ← twoTo_add]
  exact ofRatio_whole hpos hn _

theorem round?_ofInt (hpos : 0 < n) (hn : n < twoTo 53) : (ofInt n).round? = some (n : Int) := by
  rw [ofInt_whole hpos hn, round?, fraction_whole hpos hn]
  dsimp only
  rw [roundHalfEven_mul n (twoTo_pos _)]
  rfl

/-- What such a number divides with a finite quotient has an integer part, which is not far above
the greatest number times the divisor. -/
theorem exists_truncate?_of_div (hpos : 0 < n) (hn : n < twoTo 53) {x : Binary64} {k : Int}
    (h : (div x (ofInt n)).round? = some k) :
    ∃ t, x.truncate? = some t ∧ t.natAbs < n * twoTo 1025 := by
  rw [ofInt_whole hpos hn] at h
  cases x with
  | infinite s => cases h
  | nan => cases h
  | finite s m e =>
    have hden : 0 < (fraction m e).2 := by
      unfold fraction
      split
      · exact twoTo_pos _
      · exact Nat.one_pos
    let j := twoTo (52 - n.log2)
    have hratio : div (finite s m e) (finite false (n * j) ((n.log2 : Int) - (52 : Nat))) =
        ofRatio (s != false) ((fraction m e).1 * j) ((fraction m e).2 * (n * j)) := by
      change ofRatio (s != false)
        ((fraction m e).1 * (fraction (n * j) ((n.log2 : Int) - (52 : Nat))).2)
        ((fraction m e).2 * (fraction (n * j) ((n.log2 : Int) - (52 : Nat))).1) = _
      rw [fraction_whole hpos hn]
    rw [hratio] at h
    have hlt : (fraction m e).1 * j < (fraction m e).2 * (n * j) * twoTo 1025 := by
      cases hr : ofRatio (s != false) ((fraction m e).1 * j) ((fraction m e).2 * (n * j)) with
      | infinite s => rw [hr] at h; cases h
      | nan => rw [hr] at h; cases h
      | finite s m e =>
        exact lt_of_ofRatio_finite (Nat.mul_pos hden (Nat.mul_pos hpos (twoTo_pos _))) hr
    have hquotient : (fraction m e).1 / (fraction m e).2 < n * twoTo 1025 := by
      apply Nat.div_lt_of_lt_mul
      apply Nat.lt_of_mul_lt_mul_right (a := j)
      calc (fraction m e).1 * j < (fraction m e).2 * (n * j) * twoTo 1025 := hlt
        _ = (fraction m e).2 * (n * twoTo 1025) * j := by ring
    let q : Int := ((fraction m e).1 / (fraction m e).2 : Nat)
    have htruncate : (finite s m e).truncate? = some (if s then -q else q) := rfl
    refine ⟨_, htruncate, ?_⟩
    split
    · rwa [Int.natAbs_neg, Int.natAbs_natCast]
    · rwa [Int.natAbs_natCast]

end Binary64

end Chip8
