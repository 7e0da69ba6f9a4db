/-
  Blanks around a text. Trimming takes off all of them, whatever else changes, and nothing is left
  of a text only if it is blank (`trim_eq_nil_iff`).
-/
import Chip8.Text.Blank
import Mathlib.Data.List.DropRight
import Mathlib.Data.List.TakeWhile

namespace Chip8.Text

variable {α : Type} {drop : α → Bool} {l : List α} {t : Text}

/-- There is nothing in the text but blanks. -/
def IsBlank (t : Text) : Prop := ∀ p ∈ t, isBlank p = true

theorem trimWhere_eq_rdropWhile : trimWhere drop l = (l.dropWhile drop).rdropWhile drop := rfl

/-- Nothing is trimmed off where there is nothing to trim. -/
theorem trimWhere_eq_self (h : ∀ a ∈ l, drop a = false) : trimWhere drop l = l := by
  have hfront (l : List α) (h : ∀ a ∈ l, drop a = false) : l.dropWhile drop = l := by
    rw [List.dropWhile_eq_self_iff]
    intro hlt
    simp [h]
  rw [trimWhere, hfront l h, hfront l.reverse (by simpa using h), List.reverse_reverse]

theorem trimWhere_map {β : Type} {f : β → α} (l : List β) :
    trimWhere drop (l.map f) = (trimWhere (drop ∘ f) l).map f := by
  simp only [trimWhere, List.dropWhile_map, ← List.map_reverse]

theorem trim_eq_nil_iff : t.trim = [] ↔ t.IsBlank := by
  refine ⟨fun h => ?_, trim_eq_nil_of_all_blank⟩
  rw [trim, trimWhere_eq_rdropWhile, List.rdropWhile_eq_nil_iff] at h
  -- what is left in front is blank, and it does not start with a blank
  have hfront : t.dropWhile isBlank = [] := by
    by_contra hne
    have hhead := List.head_dropWhile_not isBlank hne
    exact absurd (h _ (List.head_mem hne)) (by simp [hhead])
  exact List.dropWhile_eq_nil_iff.mp hfront

theorem trim_padded {before behind : Text} (hbefore : before.IsBlank) (hbehind : behind.IsBlank) :
    trim (before ++ t ++ behind) = t.trim := by
  rw [trim, trim, trimWhere_eq_rdropWhile, trimWhere_eq_rdropWhile, List.append_assoc,
    List.dropWhile_append_of_pos hbefore]
  by_cases ht : t.dropWhile isBlank = []
  · rw [ht, List.dropWhile_append_of_pos (List.dropWhile_eq_nil_iff.mp ht),
      List.dropWhile_eq_nil_iff.mpr hbehind]
  · rw [List.dropWhile_append, if_neg (by simpa using ht), List.rdropWhile, List.rdropWhile,
      List.reverse_append, List.dropWhile_append_of_pos (by simpa [IsBlank] using hbehind)]

theorem isBlank_padded {before behind : Text} (hbefore : before.IsBlank)
    (hbehind : behind.IsBlank) : (before ++ t ++ behind : Text).IsBlank ↔ t.IsBlank := by
  rw [← trim_eq_nil_iff, ← trim_eq_nil_iff, trim_padded hbefore hbehind]

end Chip8.Text
