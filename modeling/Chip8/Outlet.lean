/-
  Where printed text goes. Characters can go anywhere; whether surrogates can depends on how text is
  encoded on its way out. A text with a surrogate that is refused is not printed at all.
-/
import Chip8.Fault

namespace Chip8

inductive Outlet where
  /-- Encodes characters, and nothing else. -/
  | characters
  /-- Encodes characters, and gives out the byte that a surrogate stands for. -/
  | bytes
  /-- Keeps any text as it stands. -/
  | points
deriving DecidableEq, Repr, Inhabited

namespace Outlet

def takes : Outlet → CodePoint → Bool
  | characters, p => !p.isSurrogate
  | bytes, p => Text.isEncodable p
  | points, _ => true

/-- Why a text is not printed, if it is not. -/
def refusal? (o : Outlet) (t : Text) : Option Fault := (t.refused? o.takes).map .unencodable

/-- The outlet takes every code point of the text. -/
def Takes (o : Outlet) (t : Text) : Prop := ∀ p ∈ t, o.takes p = true

instance (o : Outlet) (t : Text) : Decidable (o.Takes t) :=
  inferInstanceAs (Decidable (∀ p ∈ t, o.takes p = true))

variable {o : Outlet} {t u : Text}

theorem refusal?_eq_none_iff : o.refusal? t = none ↔ o.Takes t := by
  rw [refusal?, Option.map_eq_none_iff, Text.refused?, Takes]
  induction t with
  | nil => simp
  | cons p rest ih =>
    rw [List.forall_mem_cons, List.dropWhile_cons]
    by_cases hp : o.takes p = true
    · simp only [hp, if_true, true_and, ← ih]
      split <;> simp
    · simp [hp]

theorem takes_char (o : Outlet) (c : Char) : o.takes (.char c) = true := by
  cases o <;> rfl

@[simp]
theorem takes_append : o.Takes (t ++ u) ↔ o.Takes t ∧ o.Takes u := List.forall_mem_append

theorem takes_joinWith {separator : Text} (hseparator : o.Takes separator) {texts : List Text}
    (htexts : ∀ u ∈ texts, o.Takes u) : o.Takes (Text.joinWith separator texts) := by
  induction texts with
  | nil => exact List.forall_mem_nil _
  | cons u rest ih =>
    obtain ⟨hu, hrest⟩ := List.forall_mem_cons.mp htexts
    cases rest with
    | nil => exact takes_append.mpr ⟨hu, List.forall_mem_nil _⟩
    | cons v rest => exact takes_append.mpr ⟨hu, takes_append.mpr ⟨hseparator, ih hrest⟩⟩

/-- Characters are never refused. -/
@[simp]
theorem takes_ofChars (o : Outlet) (cs : List Char) : o.Takes (Text.ofChars cs) := by
  intro p hp
  obtain ⟨c, -, rfl⟩ := List.mem_map.mp hp
  exact o.takes_char c

@[simp]
theorem takes_ofString (o : Outlet) (s : String) : o.Takes s := o.takes_ofChars s.toList

end Outlet

end Chip8
