/-
  Text as bytes. A character becomes its one to four bytes. 128 of the surrogates stand for bytes
  that are part of no character, one each, and the other surrogates cannot be encoded. Coming
  back, bytes that together form a character are that character, whatever they stood for before.
-/
import Chip8.Text

namespace Chip8.Text

/-- The byte that a code point stands for, if it is part of no character. -/
def byte? : CodePoint → Option Nat
  | .char _ => none
  | .surrogate d => if 0x480 ≤ d.val ∧ d.val < 0x500 then some (d.val - 0x400) else none

/-- Whether a code point can be encoded. -/
def isEncodable (p : CodePoint) : Bool := !p.isSurrogate || (byte? p).isSome

/-- Surrogates in a row, of which the first is refused. -/
structure SurrogateRun where
  code : Nat
  /-- The place of the first one in the text. -/
  start : Nat
  count : Nat
deriving DecidableEq, Repr

/-- The first surrogates of a text, where those that are taken are passed over. -/
def refused? (takes : CodePoint → Bool) (t : Text) : Option SurrogateRun :=
  match t.dropWhile takes with
  | [] => none
  | p :: rest =>
    some ⟨p.code, (t.takeWhile takes).length, (rest.takeWhile (·.isSurrogate)).length + 1⟩

/-- The first surrogates of a text that cannot be encoded. -/
def unencodable? (t : Text) : Option SurrogateRun := t.refused? isEncodable

/-- The number of bytes that a code point takes. -/
def pointSize : CodePoint → Nat
  | .char c => c.utf8Size
  | .surrogate _ => 1

/-- The number of bytes that a text takes when it is encoded. -/
def encodedSize (t : Text) : Nat := t.foldl (fun size p => size + pointSize p) 0

/-- A byte inside a character's encoding, without its mark. -/
def continuation? (byte : Nat) : Option Nat :=
  if 0x80 ≤ byte && byte < 0xC0 then some (byte - 0x80) else none

/-- How a character's encoding starts: how many bytes follow, what the first byte gives, and the
least code that is written so. -/
def lead? (byte : Nat) : Option (Nat × Nat × Nat) :=
  if 0xC0 ≤ byte && byte < 0xE0 then some (1, byte - 0xC0, 0x80)
  else if 0xE0 ≤ byte && byte < 0xF0 then some (2, byte - 0xE0, 0x800)
  else if 0xF0 ≤ byte && byte < 0xF8 then some (3, byte - 0xF0, 0x10000)
  else none

/-- The character that bytes at the start of a text form, and how many bytes follow the first. -/
def formed? (t : Text) : Option (Char × Nat) := do
  let first ← t.head?
  let (count, high, least) ← lead? (← byte? first)
  let following := (t.drop 1).take count
  let lows ← following.mapM fun p => (byte? p).bind continuation?
  let code := lows.foldl (fun n low => n * 64 + low) high
  if lows.length = count ∧ least ≤ code ∧ code.isValidChar then some (Char.ofNat code, count)
  else none

/-- The text after some code points are left out, with bytes that together form a character joined
to it. -/
def joinFrom : Nat → Text → Text
  | _, [] => []
  | skipped + 1, _ :: rest => joinFrom skipped rest
  | 0, p :: rest =>
    match formed? (p :: rest) with
    | some (joined, count) => joined :: joinFrom count rest
    | none => p :: joinFrom 0 rest

/-- The text as it comes back once it has been encoded. -/
def joinBytes (t : Text) : Text := joinFrom 0 t

end Chip8.Text
