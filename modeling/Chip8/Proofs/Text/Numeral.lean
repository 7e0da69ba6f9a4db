/-
  Numerals. In base sixteen `padded` gives the digits of a number filled up with zeros, as they are
  written; its lowest digits are found one by one (`padded_mod`). A number that is written in
  capitals is read back (`read_hexUpper`), and is as long as it is asked to be if its digits are
  not too many (`length_hexUpper`). In decimal a number of too many digits is not written at all
  (`decimalText_eq_error_iff`).
-/
import Chip8.Fault
import Chip8.Proofs.Text.Blank
import Chip8.Text.Numeral
import Mathlib.Data.Nat.Digits.Defs

namespace Chip8

namespace Numeral

/-- Hexadecimal digits, filled up with zeros. -/
def padded (count n : Nat) : List Char :=
  List.replicate (count - (Nat.toDigits 16 n).length) '0' ++ Nat.toDigits 16 n

theorem padded_one {n : Nat} (h : n < 16) : padded 1 n = [Nat.digitChar n] := by
  unfold padded
  rw [Nat.toDigits_of_lt_base h]
  rfl

/-- The last digit stands behind the others. -/
theorem padded_succ {count : Nat} (hcount : 0 < count) (n : Nat) :
    padded (count + 1) n = padded count (n / 16) ++ [Nat.digitChar (n % 16)] := by
  unfold padded
  rcases Nat.lt_or_ge n 16 with h | h
  · rw [Nat.toDigits_of_lt_base h, Nat.div_eq_of_lt h, Nat.mod_eq_of_lt h,
      Nat.toDigits_of_lt_base (by decide)]
    change List.replicate count '0' ++ _ = (List.replicate (count - 1) '0' ++ ['0']) ++ _
    rw [← List.replicate_succ', Nat.sub_add_cancel hcount]
  · rw [Nat.toDigits_of_base_le (by decide) h, List.length_append, List.length_singleton,
      Nat.add_sub_add_right, List.append_assoc]

/-- The lowest digits of a number, the highest of them first. -/
theorem padded_mod {count : Nat} (hcount : 0 < count) (n : Nat) :
    padded count (n % 16 ^ count) =
      (List.range count).reverse.map fun place => Nat.digitChar (n / 16 ^ place % 16) := by
  induction count, hcount using Nat.le_induction generalizing n with
  | base =>
    change padded 1 (n % 16) = [Nat.digitChar (n / 1 % 16)]
    rw [padded_one (Nat.mod_lt n (by decide)), Nat.div_one]
  | succ count hcount ih =>
    have hlast : n % 16 ^ (count + 1) % 16 = n % 16 :=
      Nat.mod_mod_of_dvd n (Dvd.intro_left _ (Nat.pow_succ ..).symm)
    have hfront : n % 16 ^ (count + 1) / 16 = n / 16 % 16 ^ count := by
      rw [Nat.pow_succ', Nat.mod_mul_right_div_self]
    have hshift (place : Nat) : n / 16 / 16 ^ place = n / 16 ^ (place + 1) := by
      rw [Nat.div_div_eq_div_mul, Nat.pow_succ']
    rw [padded_succ hcount, hfront, ih, hlast, List.range_succ_eq_map]
    simp [hshift]

/-! ## Reading back -/

/-- A digit in capitals. -/
def capital (d : Nat) : Char := (Nat.digitChar d).toUpper

/-- Reading a digit gives its value. -/
theorem digitBelow?_capital : ∀ d < 16, Text.digitBelow? 16 (capital d) = some d := by
  decide

/-- A digit counts as itself. -/
theorem plain_capital : ∀ d < 16, plain (capital d) = capital d := by
  decide

/-- A digit is no blank, sign, separator or mark. -/
theorem capital_ne : ∀ d < 16, Text.isAsciiBlank (capital d) = false ∧ capital d ≠ '-' ∧
    capital d ≠ '+' ∧ capital d ≠ '_' ∧ capital d ≠ 'x' ∧ capital d ≠ 'X' := by
  decide

/-- The number that digits in base sixteen stand for. -/
def value (ds : List Nat) : Nat := ds.foldl (fun value d => value * 16 + d) 0

theorem value_append (ds : List Nat) (d : Nat) : value (ds ++ [d]) = value ds * 16 + d := by
  rw [value, List.foldl_append]
  rfl

theorem value_replicate_append (count : Nat) (ds : List Nat) :
    value (List.replicate count 0 ++ ds) = value ds := by
  induction count with
  | zero => rfl
  | succ count ih =>
    rw [List.replicate_succ, List.cons_append, ← ih]
    rfl

/-- Some digits in base sixteen, as they are written in capitals. -/
structure Writes (n : Nat) (ds : List Nat) (cs : List Char) : Prop where
  ne_nil : ds ≠ []
  lt : ∀ d ∈ ds, d < 16
  value : value ds = n
  capitals : cs.map Char.toUpper = ds.map capital

theorem exists_toDigits (n : Nat) : ∃ ds, Writes n ds (Nat.toDigits 16 n) := by
  induction n using Nat.strongRecOn with
  | ind n ih =>
    rcases Nat.lt_or_ge n 16 with h | h
    · refine ⟨[n], List.cons_ne_nil _ _, by simpa using h, Nat.zero_add n, ?_⟩
      rw [Nat.toDigits_of_lt_base h]
      rfl
    · obtain ⟨ds, -, hlt, hvalue, hcapitals⟩ := ih (n / 16) (by omega)
      refine ⟨ds ++ [n % 16], by simp, ?_, ?_, ?_⟩
      · intro d hd
        rcases List.mem_append.mp hd with hd | hd
        · exact hlt d hd
        · rw [List.mem_singleton.mp hd]
          exact Nat.mod_lt n (by decide)
      · rw [value_append, hvalue]
        omega
      · rw [Nat.toDigits_of_base_le (by decide) h, List.map_append, hcapitals, List.map_append]
        rfl

theorem exists_padded (count n : Nat) : ∃ ds, Writes n ds (padded count n) := by
  obtain ⟨ds, hne, hlt, hvalue, hcapitals⟩ := exists_toDigits n
  refine ⟨List.replicate (count - (Nat.toDigits 16 n).length) 0 ++ ds, by simp [hne], ?_,
    by rw [value_replicate_append, hvalue], ?_⟩
  · intro d hd
    rcases List.mem_append.mp hd with hd | hd
    · rw [List.eq_of_mem_replicate hd]
      decide
    · exact hlt d hd
  · rw [padded, List.map_append, hcapitals, List.map_append, List.map_replicate,
      List.map_replicate]
    rfl

theorem readDigits_capitals {ds : List Nat} (hne : ds ≠ []) (hlt : ∀ d ∈ ds, d < 16) :
    readDigits 16 (ds.map capital) = some ds := by
  induction ds with
  | nil => exact absurd rfl hne
  | cons d rest ih =>
    have hd := digitBelow?_capital d (hlt d List.mem_cons_self)
    cases rest with
    | nil => simp [readDigits, hd]
    | cons d' rest =>
      obtain ⟨-, -, -, hseparator, -⟩ := capital_ne d' (hlt d' (by simp))
      have hrest := ih (List.cons_ne_nil _ _) fun c hc => hlt c (List.mem_cons_of_mem d hc)
      rw [List.map_cons] at hrest ⊢
      rw [List.map_cons, readDigits, hd, hrest]
      · rfl
      · intro h
        cases h
      · intro behind h
        exact hseparator (List.cons.inj h).1

theorem dropMark_capitals {ds : List Nat} (hlt : ∀ d ∈ ds, d < 16) :
    dropMark (ds.map capital) = ds.map capital := by
  rcases ds with - | ⟨d, - | ⟨d', rest⟩⟩
  · rfl
  · exact dropMark.eq_5 _ (by simp) (by simp) (by simp) (by simp)
  · obtain ⟨-, -, -, -, hsmall, hlarge⟩ := capital_ne d' (hlt d' (by simp))
    refine dropMark.eq_5 _ ?_ ?_ ?_ ?_ <;> simp [hsmall, hlarge]

/-- Digits in capitals are read as the number that they stand for. -/
theorem read_capitals {ds : List Nat} (hne : ds ≠ []) (hlt : ∀ d ∈ ds, d < 16) :
    read 16 (Text.ofChars (ds.map capital)) = some (value ds : Int) := by
  have hplain : (Text.ofChars (ds.map capital)).map plain = ds.map capital := by
    simp only [Text.ofChars, List.map_map]
    exact List.map_congr_left fun d hd => plain_capital d (hlt d hd)
  have htrim : Text.trimWhere Text.isAsciiBlank (ds.map capital) = ds.map capital := by
    refine Text.trimWhere_eq_self fun c hc => ?_
    obtain ⟨d, hd, rfl⟩ := List.mem_map.mp hc
    exact (capital_ne d (hlt d hd)).1
  have hnatural : readNatural 16 (ds.map capital) = some (value ds) := by
    unfold readNatural
    rw [if_pos (by rfl), dropMark_capitals hlt, readDigits_capitals hne hlt]
    rfl
  unfold read
  rw [hplain, htrim]
  cases ds with
  | nil => exact absurd rfl hne
  | cons d rest =>
    obtain ⟨-, hminus, hplus, -⟩ := capital_ne d (hlt d List.mem_cons_self)
    rw [List.map_cons] at hnatural ⊢
    split
    · rename_i h
      exact absurd (List.cons.inj h).1 hminus
    · rename_i h
      exact absurd (List.cons.inj h).1 hplus
    · rw [hnatural]
      rfl

theorem toList_hexUpper (count n : Nat) :
    (hexUpper count n).toList = (padded count n).map Char.toUpper := by
  have hpositive : ¬ (n : Int) < 0 := by omega
  unfold hexUpper padded NumeralStyle.write
  rw [String.toList_ofList]
  simp [NumeralStyle.mark, NumeralStyle.digits, hpositive]

/-- A natural number that is written in capitals is read back. -/
theorem read_hexUpper (count n : Nat) : read 16 (hexUpper count n : Text) = some (n : Int) := by
  obtain ⟨ds, hne, hlt, hvalue, hcapitals⟩ := exists_padded count n
  change read 16 (Text.ofChars (hexUpper count n).toList) = _
  rw [toList_hexUpper, hcapitals, read_capitals hne hlt, hvalue]

theorem length_hexUpper {count n : Nat} (hcount : 0 < count) (h : n < 16 ^ count) :
    (hexUpper count n).length = count := by
  have hdigits : padded count (n % 16 ^ count) = _ := padded_mod hcount n
  rw [Nat.mod_eq_of_lt h] at hdigits
  rw [← String.length_toList, toList_hexUpper, List.length_map, hdigits, List.length_map,
    List.length_reverse, List.length_range]

end Numeral

/-! ## Numbers in decimal -/

theorem length_digits_le_iff {n count : Nat} (hcount : 0 < count) :
    (({} : NumeralStyle).digits n).length ≤ count ↔ n < 10 ^ count :=
  Nat.length_toDigits_le_iff (by decide) hcount

theorem exists_decimalText {n : Int} (h : n.natAbs < 10 ^ Numeral.decimalDigitLimit) :
    ∃ t, decimalText n = .ok t := by
  unfold decimalText Numeral.decimal?
  rw [if_neg (Nat.not_lt.mpr ((length_digits_le_iff (by decide)).mpr h))]
  exact ⟨_, rfl⟩

theorem decimalText_of_le {n : Int} (h : 10 ^ Numeral.decimalDigitLimit ≤ n.natAbs) :
    decimalText n = .error .numeralTooLong := by
  unfold decimalText Numeral.decimal?
  rw [if_pos]
  · rfl
  · rw [← Nat.not_le, length_digits_le_iff (by decide)]
    exact Nat.not_lt.mpr h

/-- A number has no decimal numeral exactly if it has too many digits. -/
theorem decimalText_eq_error_iff {n : Int} {fault : Fault} : decimalText n = .error fault ↔
    10 ^ Numeral.decimalDigitLimit ≤ n.natAbs ∧ fault = .numeralTooLong := by
  rcases Nat.lt_or_ge n.natAbs (10 ^ Numeral.decimalDigitLimit) with hfew | hmany
  · obtain ⟨t, ht⟩ := exists_decimalText hfew
    rw [ht]
    exact ⟨nofun, fun h => absurd h.1 (Nat.not_le.mpr hfew)⟩
  · rw [decimalText_of_le hmany]
    exact ⟨fun h => ⟨hmany, (Except.error.inj h).symm⟩, fun h => congrArg _ h.2.symm⟩

end Chip8
