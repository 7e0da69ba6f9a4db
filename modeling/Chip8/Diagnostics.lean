/-
  Diagnostics by category. A setting names the categories that are on, separated by commas;
  `all` and `*` stand for every category. The setting is read at the first question after a
  reload and remembered until the next one.
-/
import Chip8.Fault
import Chip8.Text.Blank
import Chip8.Text.Lowercase

namespace Chip8

/-- The categories that are on. -/
structure Categories where
  names : List Text := []
deriving DecidableEq, Repr, Inhabited

namespace Categories

/-- The texts between commas. -/
def items (setting : Text) : List Text := setting.splitOn ','

/-- The categories of a setting: its items without blanks around them, in lower case; blank
items count for nothing. -/
def parse (setting : Text) : Categories :=
  ⟨((items setting).map fun item => item.trim.lower).filter (!·.isEmpty)⟩

def isEmpty (c : Categories) : Bool := c.names.isEmpty

/-- Whether every category is on. -/
def isWild (c : Categories) : Bool :=
  c.names.contains "all" || c.names.contains "*"

def isOn (c : Categories) (category : Text) : Bool :=
  !c.isEmpty && (c.isWild || c.names.contains category.lower)

/-- Whether the category is on; without a category, whether any is. -/
def isEnabled (c : Categories) (category : Option Text) : Bool :=
  match category with
  | none => !c.isEmpty
  | some name => c.isOn name

/-- The names without repetition, in the order of their code points. -/
def sorted (c : Categories) : List Text :=
  c.names.eraseDups.mergeSort fun a b =>
    (compare (a.map CodePoint.code) (b.map CodePoint.code)).isLE

/-- A message as it is printed. -/
def line (category message : Text) : Text := "[CHIP8][" ++ category ++ "] " ++ message

end Categories

/-- The setting of the environment and what is remembered of it. -/
structure Diagnostics where
  setting : Option Text := none
  remembered : Option Categories := none
deriving DecidableEq, Repr, Inhabited

namespace Diagnostics

/-- The categories in force. -/
def current (d : Diagnostics) : Categories :=
  d.remembered.getD (Categories.parse (d.setting.getD ""))

/-- After a question: the categories in force are remembered. -/
def remember (d : Diagnostics) : Diagnostics := { d with remembered := some d.current }

/-- Forgets what was read, so that the next question reads the setting again. -/
def reload (d : Diagnostics) : Diagnostics := { d with remembered := none }

/-- Changes the setting to one that a host can keep; what is remembered stays. -/
def assign (d : Diagnostics) (setting : Option Text) : Except Fault Diagnostics :=
  match setting.bind Fault.ofHostText? with
  | some fault => .error fault
  | none => .ok { d with setting := setting.map Text.joinBytes }

/-- Whether a category is on, and the diagnostics after the question. -/
def ask (d : Diagnostics) (category : Option Text) : Bool × Diagnostics :=
  (d.current.isEnabled category, d.remember)

theorem current_assign (d changed : Diagnostics) (setting : Option Text)
    (h : d.assign setting = .ok changed) (hd : d.remembered.isSome) :
    changed.current = d.current := by
  obtain ⟨c, hc⟩ := Option.isSome_iff_exists.mp hd
  unfold assign at h
  split at h
  · simp at h
  · injection h with h
    subst h
    simp [current, hc]

end Diagnostics

end Chip8
