/-
  Bytes, instruction words and the fields of a word.
-/

namespace Chip8

abbrev Byte := BitVec 8

/-- A 16-bit instruction word. -/
abbrev Word := BitVec 16

/-- The index of one of the sixteen registers. -/
abbrev Register := Fin 16

/-- The register of a number, which is reduced to one digit. -/
def Register.ofNat (n : Nat) : Register := ⟨n % 16, Nat.mod_lt n (by decide)⟩

/-- The register that receives carry, borrow, shifted-out bit and collision. -/
def flagRegister : Register := 15

/-- The byte with the low eight bits of an integer. -/
def Byte.ofInt (n : Int) : Byte := BitVec.ofInt 8 n

/-- An integer reduced to sixteen bits, as addresses wrap. -/
def wrap16 (n : Int) : Int := n % 65536

theorem wrap16_nonneg (n : Int) : 0 ≤ wrap16 n := by unfold wrap16; omega

theorem wrap16_lt (n : Int) : wrap16 n < 65536 := by unfold wrap16; omega

theorem wrap16_of_mem {n : Int} (h : 0 ≤ n) (h' : n < 65536) : wrap16 n = n := by
  unfold wrap16; omega

namespace Word

/-- The word with the low sixteen bits of an integer. -/
def ofInt (n : Int) : Word := BitVec.ofInt 16 n

/-- The word of two bytes, the more significant one first. -/
def ofBytes (high low : Byte) : Word := BitVec.ofNat 16 (high.toNat * 256 + low.toNat)

/-- The leading hexadecimal digit, which selects the instruction's family. -/
def family (w : Word) : Fin 16 := ⟨w.toNat / 4096, by have := w.isLt; omega⟩

/-- The second hexadecimal digit. -/
def x (w : Word) : Register := ⟨w.toNat / 256 % 16, by omega⟩

/-- The third hexadecimal digit. -/
def y (w : Word) : Register := ⟨w.toNat / 16 % 16, by omega⟩

/-- The last hexadecimal digit. -/
def n (w : Word) : Nat := w.toNat % 16

/-- The low byte. -/
def kk (w : Word) : Byte := BitVec.ofNat 8 w.toNat

/-- The low twelve bits, an address. -/
def nnn (w : Word) : Nat := w.toNat % 4096

theorem n_lt (w : Word) : w.n < 16 := by unfold n; omega

theorem nnn_lt (w : Word) : w.nnn < 4096 := by unfold nnn; omega

theorem toNat_ofInt (n : Int) : (ofInt n).toNat = (n % 65536).toNat := by
  simp [ofInt, BitVec.toNat_ofInt]

theorem toNat_ofBytes (high low : Byte) :
    (ofBytes high low).toNat = high.toNat * 256 + low.toNat := by
  have h := high.isLt
  have l := low.isLt
  simp only [ofBytes, BitVec.toNat_ofNat]
  omega

theorem toNat_kk (w : Word) : w.kk.toNat = w.toNat % 256 := by
  simp [kk]

/-- The fields by the names that templates use. -/
def field? (w : Word) : String → Option Int
  | "x" => some w.x.val
  | "y" => some w.y.val
  | "n" => some w.n
  | "kk" => some w.kk.toNat
  | "nnn" => some w.nnn
  | _ => none

end Word

end Chip8
