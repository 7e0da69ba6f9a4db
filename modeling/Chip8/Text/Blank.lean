/-
  White space in Unicode text: the characters that count as blank, trimming them off both ends,
  and splitting a line into words.
-/
import Chip8.Text

namespace Chip8.Text

/-- The characters that separate words: the ASCII blanks and separators, the next-line
control, and the space and line separators of Unicode. -/
def isBlank (p : CodePoint) : Bool :=
  let n := p.code
  (9 ≤ n && n ≤ 13) || (28 ≤ n && n ≤ 32) || n == 133 || n == 160 || n == 5760 ||
    (8192 ≤ n && n ≤ 8202) || n == 8232 || n == 8233 || n == 8239 || n == 8287 || n == 12288

/-- The blanks of ASCII text: the space, the tabs and the line and page breaks. -/
def isAsciiBlank (c : Char) : Bool := c == ' ' || (9 ≤ c.toNat && c.toNat ≤ 13)

/-- Without the elements of a kind at both ends. -/
def trimWhere {α : Type} (drop : α → Bool) (l : List α) : List α :=
  ((l.dropWhile drop).reverse.dropWhile drop).reverse

/-- Without the blanks at both ends. -/
def trim (t : Text) : Text := trimWhere isBlank t

/-- The maximal runs of characters that are not blank, in order. -/
def words (t : Text) : List Text :=
  (t.splitBy fun a b => isBlank a == isBlank b).filter fun run => !run.all isBlank

theorem trim_eq_nil_of_all_blank {t : Text} (h : ∀ p ∈ t, isBlank p = true) :
    trim t = [] := by
  have : t.dropWhile isBlank = [] := by
    induction t with
    | nil => rfl
    | cons p t ih =>
      rw [List.dropWhile_cons, if_pos (h p (by simp))]
      exact ih fun q hq => h q (by simp [hq])
  simp [trim, trimWhere, this]

end Chip8.Text
