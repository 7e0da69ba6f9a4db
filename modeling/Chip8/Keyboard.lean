/-
  The keyboards: a latch that holds whatever it is given, with or without a host, and the keypad,
  which alone takes host keys. The machine sees only the latched code; zero means that nothing is
  pressed.
-/
import Chip8.Keyboard.Keypad

namespace Chip8

inductive Keyboard where
  | latch (key : Byte)
  /-- The latch of a machine that runs without a host. -/
  | headless (key : Byte)
  | keypad (pad : Keypad)
deriving DecidableEq, Repr, Inhabited

namespace Keyboard

/-- The latched code. -/
def key : Keyboard → Byte
  | latch k => k
  | headless k => k
  | keypad p => p.key

/-- Nothing pressed. -/
def reset : Keyboard → Keyboard
  | latch _ => latch 0
  | headless _ => headless 0
  | keypad _ => keypad {}

/-- Sets the latch: to the low byte of a code, or to the key of a character code. -/
def assign (code : Int) : Keyboard → Keyboard
  | latch _ => latch (Byte.ofInt code)
  | headless _ => headless (Byte.ofInt code)
  | keypad p => keypad (p.assign code)

/-- An act on the keypad. The latches have no such part. -/
def onKeypad (part : String) (act : Act (Keypad × Host) Unit) : Act (Keyboard × Host) Unit := fun
  | (keypad p, h) => resultWithin (fun s => (keypad s.1, s.2)) (act (p, h))
  | (latch k, h) => .error (.partMissing "LatchKeyboard" part) (latch k, h)
  | (headless k, h) => .error (.partMissing "NullKeyboard" part) (headless k, h)

/-- A host key pressed, by name. -/
def press (name : Text) : Act (Keyboard × Host) Unit := onKeypad "press" (Keypad.press name)

/-- A host key released, by name. -/
def release (name : Text) : Act (Keyboard × Host) Unit :=
  onKeypad "release" (modify (Keypad.release name))

end Keyboard

end Chip8
