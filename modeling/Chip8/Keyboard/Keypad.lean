/-
  The hexadecimal keypad on a host keyboard. Held keys are kept in the order of their last
  press; the latch shows the latest of them, and zero when none is held.
-/
import Chip8.Host

namespace Chip8

/-- A key of the pad, `1` to `9` and `a` to `f`; there is no key for zero. -/
structure PadKey where
  index : Fin 15
deriving DecidableEq, Repr

namespace PadKey

/-- The digit on the key. -/
def code (k : PadKey) : Byte := BitVec.ofNat 8 (k.index.val + 1)

def name (k : PadKey) : String := Numeral.hex 1 (k.index.val + 1 : Nat)

/-- The key of a small character. -/
def ofChar? (c : Char) : Option PadKey :=
  if h : '1'.toNat ≤ c.toNat ∧ c.toNat ≤ '9'.toNat then
    some ⟨⟨c.toNat - '1'.toNat, by have : '9'.toNat = '1'.toNat + 8 := rfl; omega⟩⟩
  else if h : 'a'.toNat ≤ c.toNat ∧ c.toNat ≤ 'f'.toNat then
    some ⟨⟨c.toNat - 'a'.toNat + 9, by have : 'f'.toNat = 'a'.toNat + 5 := rfl; omega⟩⟩
  else none

/-- A host key's name in lower case, with the number pad's `[1]` to `[9]` read as the digits. -/
def canonical (name : Text) : Text :=
  match name.lower with
  | [.char '[', .char c, .char ']'] => if '1' ≤ c ∧ c ≤ '9' then [c] else ['[', c, ']']
  | t => t

/-- The key that a host key stands for. -/
def ofName? (name : Text) : Option PadKey :=
  match canonical name with
  | [.char c] => ofChar? c
  | _ => none

theorem code_ne_zero (k : PadKey) : k.code ≠ 0 := by
  obtain ⟨⟨i, hi⟩⟩ := k
  intro h
  have := congrArg BitVec.toNat h
  simp [code] at this
  omega

end PadKey

structure Keypad where
  key : Byte := 0
  /-- The held keys, the latest press last. -/
  held : List PadKey := []
deriving DecidableEq, Repr, Inhabited

namespace Keypad

/-- The latch for a list of held keys. -/
def latchOf (held : List PadKey) : Byte :=
  match held.getLast? with
  | some k => k.code
  | none => 0

/-- Sets the latch from a character code; what is no key clears it. -/
def assign (k : Keypad) (code : Int) : Keypad :=
  let char := Char.ofNat (code % 256).toNat
  let pad := if code = 0 then none else match Text.lowerChar char with
    | [c] => PadKey.ofChar? c
    | _ => none
  { k with key := (pad.map PadKey.code).getD 0 }

def keyText (action : String) (k : PadKey) (key : Byte) : String :=
  action ++ "=" ++ k.name ++ " key=" ++ Numeral.hexUpper 0 key.toNat

def unmappedText (name : Text) : Text := "unmapped_press=" ++ name

def press (name : Text) : Act (Keypad × Host) Unit :=
  match PadKey.ofName? name with
  | none => Host.beside (Host.tryLog "input" (unmappedText name))
  | some k => modify fun (p, h) =>
    (⟨k.code, p.held.erase k ++ [k]⟩, h.log "input" (keyText "press" k k.code))

def release (name : Text) (s : Keypad × Host) : Keypad × Host :=
  let (p, h) := s
  match PadKey.ofName? name with
  | none => (p, h)
  | some k =>
    if k ∈ p.held then
      let held := p.held.erase k
      let key := latchOf held
      (⟨key, held⟩, h.log "input" (keyText "release" k key))
    else (p, h)

end Keypad

end Chip8
