/-
  The texts of the standard instructions. Their templates are made of plain texts and of five
  number fields (`Mnemonic.fields`), each of which every word can fill, so that every word has
  a text by every standard row (`exists_format`).
-/
import Chip8.Proofs.Opcode.Standard
import Chip8.Proofs.Template
import Mathlib.Data.List.TakeWhile

namespace Chip8

namespace Mnemonic

/-- The fields that the standard templates use. -/
def fields : List TemplatePart :=
  [field "x" "X", field "y" "X", field "kk" "#04x", field "nnn" "#05x", field "n" "#03x"]

/-- A plain text or one of the fields. -/
def isStandard : TemplatePart → Bool
  | .text t => (TemplatePart.text t).isPlain
  | .field name conversion style => fields.contains (.field name conversion style)
  | .broken _ => false

/-- A name without parts behind it stands for the value that it gives. -/
theorem valueOf_of_named {value? : String → Option Int} {name : Text} {v : FieldValue}
    (hname : ∀ p ∈ name, Template.startsPart p = false)
    (hv : Template.named value? name = .ok v) : Template.valueOf value? name = .ok v := by
  have hall : ∀ p ∈ name, (!Template.startsPart p) = true := fun p hp => by simp [hname p hp]
  rw [Template.valueOf, List.takeWhile_eq_self_iff.mpr hall, hv,
    List.dropWhile_eq_nil_iff.mpr hall]
  change Template.follow v [] = .ok v
  rw [Template.follow]

/-- A field without parts and conversion writes the number that its name gives. -/
theorem renderPart_of_number {w : Word} {name style : Text} {n : Int}
    (hname : ∀ p ∈ name, Template.startsPart p = false)
    (hv : Template.named w.field? name = .ok (.number n))
    (hstyle : Template.nestedStyle w.field? style = .ok style) :
    Template.renderPart w.field? (Template.nestedStyle w.field?) (.field name none style) =
      (FieldValue.number n).write style := by
  rw [Template.renderPart, valueOf_of_named hname hv]
  change (Template.nestedStyle w.field? style >>= (FieldValue.number n).write) = _
  rw [hstyle]
  rfl

theorem exists_renderPart_field (w : Word) {part : TemplatePart} (h : part ∈ fields) :
    ∃ t, Template.renderPart w.field? (Template.nestedStyle w.field?) part = .ok t := by
  simp only [fields, List.mem_cons, List.not_mem_nil, or_false] at h
  rcases h with rfl | rfl | rfl | rfl | rfl
  · exact ⟨_, renderPart_of_number (by decide) rfl rfl⟩
  · exact ⟨_, renderPart_of_number (by decide) rfl rfl⟩
  · exact ⟨_, renderPart_of_number (by decide) rfl rfl⟩
  · exact ⟨_, renderPart_of_number (by decide) rfl rfl⟩
  · exact ⟨_, renderPart_of_number (by decide) rfl rfl⟩

theorem exists_renderParts (w : Word) {parts : List TemplatePart}
    (h : ∀ part ∈ parts, isStandard part = true) :
    ∃ t, Template.renderParts w.field? (Template.nestedStyle w.field?) parts = .ok t := by
  induction parts with
  | nil => exact ⟨_, rfl⟩
  | cons part rest ih =>
    obtain ⟨behind, hbehind⟩ := ih fun q hq => h q (List.mem_cons_of_mem part hq)
    obtain ⟨front, hfront⟩ : ∃ t, Template.renderPart w.field?
        (Template.nestedStyle w.field?) part = .ok t := by
      have hpart := h part List.mem_cons_self
      cases part with
      | text t => exact ⟨_, rfl⟩
      | field name conversion style =>
        exact exists_renderPart_field w (List.contains_iff_mem.mp hpart)
      | broken fault => cases hpart
    rw [Template.renderParts, hfront, hbehind]
    exact ⟨_, rfl⟩

theorem isPlain_of_isStandard {part : TemplatePart} (h : isStandard part = true) :
    part.isPlain = true := by
  have hfields : ∀ part ∈ fields, part.isPlain = true := by decide
  cases part with
  | text t => exact h
  | field name conversion style => exact hfields _ (List.contains_iff_mem.mp h)
  | broken fault => cases h

end Mnemonic

/-- The template of a standard row as its pieces. -/
theorem Operation.mnemonic_row (op : Operation) :
    ∃ parts, op.row.mnemonic = Template.ofParts parts ∧
      ∀ part ∈ parts, Mnemonic.isStandard part = true := by
  cases op <;> exact ⟨_, rfl, by decide⟩

/-- Every word has a text by every standard row. -/
theorem Operation.exists_format (op : Operation) (w : Word) :
    ∃ text, op.row.format w = .ok text := by
  obtain ⟨parts, hparts, hall⟩ := op.mnemonic_row
  obtain ⟨t, ht⟩ := Mnemonic.exists_renderParts w hall
  refine ⟨t.get, ?_⟩
  rw [Opcode.format, hparts,
    Template.render_ofParts fun part hp => Mnemonic.isPlain_of_isStandard (hall part hp), ht]
  rfl

end Chip8
