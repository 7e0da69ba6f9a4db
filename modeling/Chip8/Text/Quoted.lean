/-
  Quoted text: a text between quotation marks, with escapes for the mark, the backslash, line
  breaks and whatever is not shown as it is. Single marks are used unless the text holds single
  marks and no double ones.
-/
import Chip8.Text.Numeral
import Chip8.Text.Printed

namespace Chip8.Text

/-- The mark that a text is quoted with. -/
def quoteMark (t : Text) : CodePoint :=
  if t.contains '\'' && !t.contains '"' then '"' else '\''

/-- A code point by its code, in as few of two, four or eight digits as it takes. -/
def escapeCode (p : CodePoint) : Text :=
  if p.code < 256 then "\\x" ++ Numeral.hex 2 p.code
  else if p.code < 65536 then "\\u" ++ Numeral.hex 4 p.code
  else "\\U" ++ Numeral.hex 8 p.code

/-- One code point inside quotation marks. -/
def escapePoint (mark p : CodePoint) : Text :=
  if p == mark || p == '\\' then ['\\', p]
  else if p == '\t' then "\\t"
  else if p == '\n' then "\\n"
  else if p == '\r' then "\\r"
  else if isPrinted p then [p]
  else escapeCode p

/-- The text between quotation marks. -/
def quote (t : Text) : Text :=
  let mark := quoteMark t
  mark :: t.flatMap (escapePoint mark) ++ [mark]

/-- A text with the code points beyond ASCII escaped. -/
def asciiOnly (t : Text) : Text := t.flatMap fun p => if p.isAscii then [p] else escapeCode p

theorem asciiOnly_of_all {t : Text} (h : ∀ p ∈ t, p.isAscii = true) : asciiOnly t = t := by
  induction t with
  | nil => rfl
  | cons p t ih =>
    have ih := ih fun q hq => h q (by simp [hq])
    simp only [asciiOnly] at ih
    simp [asciiOnly, h p (by simp), ih]

end Chip8.Text
