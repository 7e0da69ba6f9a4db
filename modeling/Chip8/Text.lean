/-
  Text: code points in a row. A string or a row of characters is a text as it stands, and a text
  without surrogates is a string.
-/
import Chip8.CodePoint

namespace Chip8

abbrev Text := List CodePoint

namespace Text

def ofChars (cs : List Char) : Text := cs.map .char

def ofString (s : String) : Text := ofChars s.toList

instance : Coe String Text := ⟨ofString⟩

/-- The characters of a text that holds no surrogates. -/
def chars? : Text → Option (List Char)
  | [] => some []
  | .char c :: rest => (chars? rest).map (c :: ·)
  | .surrogate _ :: _ => none

/-- The string that a text is, if it holds no surrogates. -/
def string? (t : Text) : Option String := t.chars?.map String.ofList

/-- Texts one behind the other, with a separator between them. -/
def joinWith (separator : Text) (texts : List Text) : Text :=
  (texts.intersperse separator).flatten

/-- A text as a string, with a mark in the place of each surrogate. -/
def displayed (t : Text) : String := String.ofList (t.map fun p => p.char?.getD '\ufffd')

theorem ofString_append (s s' : String) : ofString (s ++ s') = ofString s ++ ofString s' := by
  simp [ofString, ofChars, String.toList_append]

theorem chars?_ofChars (cs : List Char) : chars? (ofChars cs) = some cs := by
  induction cs with
  | nil => rfl
  | cons c cs ih =>
    simp only [ofChars] at ih
    simp [ofChars, chars?, ih]

theorem string?_ofString (s : String) : string? (ofString s) = some s := by
  simp [string?, ofString, chars?_ofChars]

end Text

end Chip8
