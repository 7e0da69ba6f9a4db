/-
  Code points, which text is made of. A code point is a character or one of the 2048 surrogates:
  codes that no character has, but that text from outside can hold. Code points and the numbers
  below 0x110000 are the same thing (`ofCode_code`, `code_ofCode`).
-/

namespace Chip8

inductive CodePoint where
  | char (c : Char)
  /-- A surrogate, by its distance from the first one. -/
  | surrogate (distance : Fin 2048)
deriving DecidableEq, Repr, Inhabited

namespace CodePoint

instance : Coe Char CodePoint := ⟨char⟩

/-- The code of the first surrogate. -/
def firstSurrogate : Nat := 0xD800

def code : CodePoint → Nat
  | char c => c.toNat
  | surrogate d => firstSurrogate + d.val

/-- The code point of a code below 0x110000. -/
def ofCode (code : Nat) : CodePoint :=
  if h : firstSurrogate ≤ code ∧ code < firstSurrogate + 2048 then
    surrogate ⟨code - firstSurrogate, by omega⟩
  else char (Char.ofNat code)

def isSurrogate : CodePoint → Bool
  | char _ => false
  | surrogate _ => true

/-- The character that a code point is, if it is one. -/
def char? : CodePoint → Option Char
  | char c => some c
  | surrogate _ => none

/-- Whether a code point is one of the characters of ASCII. -/
def isAscii (p : CodePoint) : Bool := p.code < 128

theorem ofCode_code (p : CodePoint) : ofCode p.code = p := by
  cases p with
  | char c =>
    have v : c.toNat.isValidChar := c.valid
    simp only [Nat.isValidChar] at v
    have h : ¬ (firstSurrogate ≤ c.toNat ∧ c.toNat < firstSurrogate + 2048) := by
      simp only [firstSurrogate]; omega
    simp only [code, ofCode, dif_neg h, Char.ofNat_toNat]
  | surrogate d =>
    have h : firstSurrogate ≤ firstSurrogate + d.val ∧
        firstSurrogate + d.val < firstSurrogate + 2048 := by
      have := d.isLt; omega
    simp only [code, ofCode, dif_pos h, Nat.add_sub_cancel_left]

theorem code_ofCode {n : Nat} (h : n < 0x110000) : (ofCode n).code = n := by
  by_cases hs : firstSurrogate ≤ n ∧ n < firstSurrogate + 2048
  · simp only [ofCode, dif_pos hs, code]
    omega
  · have v : n.isValidChar := by
      simp only [firstSurrogate] at hs
      simp only [Nat.isValidChar]; omega
    have hn : (Char.ofNat n).toNat = n := by
      unfold Char.ofNat
      rw [dif_pos v]
      rfl
    simp only [ofCode, dif_neg hs, code, hn]

end CodePoint

end Chip8
