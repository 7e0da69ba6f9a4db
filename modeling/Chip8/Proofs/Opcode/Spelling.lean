/-
  How the standard instructions are spelled. The text of a word by a standard row is a row of
  cells, each of which is a fixed character or a hexadecimal digit of the word
  (`Operation.text_eq`). The cells of two operations differ in length or in a character, so a
  text belongs to one operation only (`Operation.eq_of_text`), and every digit that a text shows
  can be read off it (`Operation.digit_eq_of_text`). Apart from the shift, which leaves the third
  digit out, an operation shows the digits that its mask leaves open (`Operation.isOpen_shown`), so
  that its text tells the word (`Operation.word_eq_of_text`).
-/
import Chip8.Outlet
import Chip8.Proofs.Opcode.Mnemonic
import Chip8.Proofs.Text.Numeral

namespace Chip8

/-! ## Digits -/

namespace Word

/-- A hexadecimal digit of a word, by its place from the right. -/
def digit (w : Word) (place : Nat) : Fin 16 :=
  ⟨w.toNat / 16 ^ place % 16, Nat.mod_lt _ (by decide)⟩

theorem ext_digit {a b : Word} (h : ∀ place < 4, a.digit place = b.digit place) : a = b := by
  have h₀ : a.toNat / 1 % 16 = b.toNat / 1 % 16 := congrArg Fin.val (h 0 (by decide))
  have h₁ : a.toNat / 16 % 16 = b.toNat / 16 % 16 := congrArg Fin.val (h 1 (by decide))
  have h₂ : a.toNat / 256 % 16 = b.toNat / 256 % 16 := congrArg Fin.val (h 2 (by decide))
  have h₃ : a.toNat / 4096 % 16 = b.toNat / 4096 % 16 := congrArg Fin.val (h 3 (by decide))
  have ha := a.isLt
  have hb := b.isLt
  apply BitVec.eq_of_toNat_eq
  omega

/-- Under a mask that covers a digit the digit stays. -/
theorem digit_and {mask : Word} {place : Nat} (h : mask.digit place = 15) (w : Word) :
    (w &&& mask).digit place = w.digit place := by
  have hmask : mask.toNat / (2 ^ 4) ^ place % 2 ^ 4 = 2 ^ 4 - 1 := congrArg Fin.val h
  apply Fin.ext
  change (w.toNat &&& mask.toNat) / (2 ^ 4) ^ place % 2 ^ 4 = w.toNat / (2 ^ 4) ^ place % 2 ^ 4
  rw [← Nat.pow_mul] at hmask ⊢
  rw [Nat.and_div_two_pow, Nat.and_mod_two_pow, hmask, Nat.and_two_pow_sub_one_eq_mod, Nat.mod_mod]

end Word

/-! ## Writing fields -/

namespace FieldStyle

/-- The style of hexadecimal digits behind their mark, filled up with zeros. -/
def marked16 (count : Nat) : FieldStyle where
  fill := '0'
  align := .afterSign
  marked := true
  width := count + 2
  code := some 'x'

theorem writeNumber_marked16 {count : Nat} (hcount : count ≤ 3) (n : Nat) :
    ∃ t, (marked16 count).writeNumber .number n = .ok t ∧
      t.get = .char '0' :: .char 'x' :: Text.ofChars (Numeral.padded count n) := by
  have hwidth : ¬ greatestLength < (marked16 count).width := by
    change ¬ 281474976710656 < count + 2
    omega
  refine ⟨_, if_neg hwidth, ?_⟩
  change (marked16 count).aligned ['0', 'x'] (Text.ofChars (Nat.toDigits 16 n) ++ []) = _
  rw [List.append_nil]
  change ([.char '0', .char 'x'] : Text) ++
    List.replicate (count + 2 - (2 + _)) (CodePoint.char '0') ++ _ = _
  rw [Nat.add_comm 2, Nat.add_sub_add_right]
  simp [Numeral.padded, Text.ofChars]

theorem writeNumber_digit {n : Nat} (h : n < 16) :
    ∃ t, writeNumber { code := some 'X' } .number n = .ok t ∧
      t.get = [.char (Nat.digitChar n).toUpper] := by
  refine ⟨_, rfl, ?_⟩
  change List.replicate (0 - (0 + _)) (CodePoint.char ' ') ++ [] ++
    (Text.ofChars ((Nat.toDigits 16 n).map Char.toUpper) ++ []) = _
  rw [Nat.zero_sub, Nat.toDigits_of_lt_base h]
  rfl

end FieldStyle

/-! ## Cells -/

/-- A place in the text of an instruction: a fixed character, or a digit of the word. -/
inductive Cell where
  | mark (p : CodePoint)
  | digit (place : Nat) (upper : Bool)
deriving DecidableEq, Repr

namespace Cell

/-- A hexadecimal digit as it is written. -/
def glyph (upper : Bool) (d : Fin 16) : CodePoint :=
  .char (if upper then (Nat.digitChar d).toUpper else Nat.digitChar d)

theorem eq_of_glyph :
    ∀ {upper : Bool} {d d' : Fin 16}, glyph upper d = glyph upper d' → d = d' := by
  decide

/-- What a cell shows of a word. -/
def spell (w : Word) : Cell → CodePoint
  | mark p => p
  | digit place upper => glyph upper (w.digit place)

/-- Whether a cell shows a character, whatever the word is. -/
def isCharacter : Cell → Bool
  | mark p => !p.isSurrogate
  | digit _ _ => true

theorem exists_char_of_isCharacter {c : Cell} (h : c.isCharacter = true) (w : Word) :
    ∃ char, c.spell w = .char char := by
  cases c with
  | digit place upper => exact ⟨_, rfl⟩
  | mark p =>
    cases p with
    | char char => exact ⟨char, rfl⟩
    | surrogate distance => cases h

/-- The lowest digits of a word behind their mark. -/
def marked (count : Nat) : List Cell :=
  mark '0' :: mark 'x' :: (List.range count).reverse.map (digit · false)

/-- The cells of a piece of a standard template. -/
def ofPart : TemplatePart → List Cell
  | .text t => t.map mark
  | .field name _ _ =>
    if name = "x" then [digit 2 true]
    else if name = "y" then [digit 1 true]
    else if name = "kk" then marked 2
    else if name = "nnn" then marked 3
    else marked 1
  | .broken _ => []

theorem map_spell_marked (count : Nat) (hcount : 0 < count) (w : Word) :
    (marked count).map (spell w) = .char '0' :: .char 'x' ::
      Text.ofChars (Numeral.padded count (w.toNat % 16 ^ count)) := by
  rw [Numeral.padded_mod hcount]
  simp [marked, spell, glyph, Word.digit, Text.ofChars]

/-- Whether two rows of cells differ in length or in a fixed character. -/
def clash : List Cell → List Cell → Bool
  | [], [] => false
  | mark p :: a, mark q :: b => p != q || clash a b
  | _ :: a, _ :: b => clash a b
  | _, _ => true

/-- Rows that clash never show the same. -/
theorem map_spell_ne {a b : List Cell} (h : clash a b = true) (w w' : Word) :
    a.map (spell w) ≠ b.map (spell w') := by
  intro heq
  fun_induction clash a b with
  | case1 => cases h
  | case2 p a q b ih =>
    obtain ⟨hmark, hrest⟩ := List.cons.inj heq
    have hmark : p = q := hmark
    simp only [Bool.or_eq_true, bne_iff_ne] at h
    exact ih (h.resolve_left fun hne => hne hmark) hrest
  | case3 c a d b hmarks ih => exact ih h (List.cons.inj heq).2
  | case4 a b hnil hmarks hcons =>
    cases a with
    | nil =>
      cases b with
      | nil => exact hnil rfl rfl
      | cons d b => cases heq
    | cons c a =>
      cases b with
      | nil => cases heq
      | cons d b => exact hcons _ _ _ _ rfl rfl

end Cell

namespace Mnemonic

theorem map_get_of {r : Except TemplateFault (Thunk Text)} {t : Text}
    (h : ∃ u, r = .ok u ∧ u.get = t) : r.map Thunk.get = .ok t := by
  obtain ⟨u, rfl, rfl⟩ := h
  rfl

/-- A field shows its cells. -/
theorem renderPart_field (w : Word) {part : TemplatePart} (h : part ∈ fields) :
    (Template.renderPart w.field? (Template.nestedStyle w.field?) part).map Thunk.get =
      .ok ((Cell.ofPart part).map (Cell.spell w)) := by
  simp only [fields, List.mem_cons, List.not_mem_nil, or_false] at h
  have hkk : w.kk.toNat = w.toNat % 16 ^ 2 := w.toNat_kk
  rcases h with rfl | rfl | rfl | rfl | rfl
  · rw [field, renderPart_of_number (n := w.x.val) (by decide) rfl rfl]
    exact map_get_of (FieldStyle.writeNumber_digit w.x.isLt)
  · rw [field, renderPart_of_number (n := w.y.val) (by decide) rfl rfl]
    exact map_get_of (FieldStyle.writeNumber_digit w.y.isLt)
  · rw [field, renderPart_of_number (n := w.kk.toNat) (by decide) rfl rfl, hkk]
    exact (map_get_of (FieldStyle.writeNumber_marked16 (by decide) _)).trans
      (congrArg Except.ok (Cell.map_spell_marked 2 (by decide) w).symm)
  · rw [field, renderPart_of_number (n := w.nnn) (by decide) rfl rfl]
    exact (map_get_of (FieldStyle.writeNumber_marked16 (by decide) _)).trans
      (congrArg Except.ok (Cell.map_spell_marked 3 (by decide) w).symm)
  · rw [field, renderPart_of_number (n := w.n) (by decide) rfl rfl]
    exact (map_get_of (FieldStyle.writeNumber_marked16 (by decide) _)).trans
      (congrArg Except.ok (Cell.map_spell_marked 1 (by decide) w).symm)

theorem renderParts_standard (w : Word) {parts : List TemplatePart}
    (h : ∀ part ∈ parts, isStandard part = true) :
    (Template.renderParts w.field? (Template.nestedStyle w.field?) parts).map Thunk.get =
      .ok ((parts.flatMap Cell.ofPart).map (Cell.spell w)) := by
  induction parts with
  | nil => rfl
  | cons part rest ih =>
    have hpart : (Template.renderPart w.field? (Template.nestedStyle w.field?) part).map
        Thunk.get = .ok ((Cell.ofPart part).map (Cell.spell w)) := by
      have hstandard := h part List.mem_cons_self
      cases part with
      | text t =>
        change Except.ok t = Except.ok ((t.map Cell.mark).map (Cell.spell w))
        rw [List.map_map]
        exact congrArg Except.ok (List.map_id t).symm
      | field name conversion style =>
        exact renderPart_field w (List.contains_iff_mem.mp hstandard)
      | broken fault => cases hstandard
    rw [Template.renderParts_cons, hpart, ih fun q hq => h q (List.mem_cons_of_mem part hq),
      List.flatMap_cons, List.map_append]
    rfl

end Mnemonic

namespace Opcode

/-- What the texts by a row are made of. -/
def cells (o : Opcode) : List Cell := (Template.parse o.mnemonic).flatMap Cell.ofPart

/-- Whether the row's template is made of plain texts and standard fields. -/
def HasStandardText (o : Opcode) : Prop :=
  ∀ part ∈ Template.parse o.mnemonic, Mnemonic.isStandard part = true

instance (o : Opcode) : Decidable o.HasStandardText := inferInstanceAs (Decidable (∀ _ ∈ _, _))

theorem format_eq {o : Opcode} (h : o.HasStandardText) (w : Word) :
    o.format w = .ok (o.cells.map (Cell.spell w)) := by
  have hrender : Template.render w.field? o.mnemonic = .ok (o.cells.map (Cell.spell w)) :=
    Mnemonic.renderParts_standard w h
  unfold format
  rw [hrender]

end Opcode

/-! ## The texts of the operations -/

/-- The text of a word by an operation's row. -/
def Operation.text (op : Operation) (w : Word) : Text := (op.row.format w).toOption.getD []

theorem Operation.format_row (op : Operation) (w : Word) :
    op.row.format w = .ok (op.text w) := by
  obtain ⟨t, ht⟩ := op.exists_format w
  rw [text, ht]
  rfl

theorem disassemble_of_operation? {w : Word} {op : Operation} (h : w.operation? = some op) :
    standardTable.disassemble w = .ok (op.text w) :=
  (OpcodeTable.disassemble_of_lookup (lookup_of_operation? h)).trans (op.format_row w)

theorem disassemble_of_none {w : Word} (h : w.operation? = none) :
    standardTable.disassemble w = .ok OpcodeTable.unknownText :=
  OpcodeTable.disassemble_of_lookup_none (lookup_of_none h)

namespace Operation

/-- What the text of an operation is made of. -/
def cells (op : Operation) : List Cell := op.row.cells

theorem hasStandardText (op : Operation) : op.row.HasStandardText := by
  cases op <;> decide

theorem text_eq (op : Operation) (w : Word) : op.text w = op.cells.map (Cell.spell w) := by
  unfold text
  rw [Opcode.format_eq op.hasStandardText]
  rfl

/-- The texts of the operations are made of characters, which every outlet takes. -/
theorem takes_text (o : Outlet) (op : Operation) (w : Word) : o.Takes (op.text w) := by
  have hcells : ∀ c ∈ op.cells, c.isCharacter = true := by cases op <;> decide
  rw [op.text_eq]
  intro p hp
  obtain ⟨c, hc, rfl⟩ := List.mem_map.mp hp
  obtain ⟨char, hchar⟩ := Cell.exists_char_of_isCharacter (hcells c hc) w
  rw [hchar]
  exact o.takes_char char

theorem clash_cells : all.Pairwise fun a b => Cell.clash a.cells b.cells = true := by
  decide

/-- A text belongs to one operation only. -/
theorem eq_of_text {a b : Operation} {w w' : Word} (h : a.text w = b.text w') : a = b := by
  by_contra hne
  have hdiffer : all.Pairwise fun a b => ∀ w w', a.text w ≠ b.text w' :=
    clash_cells.imp fun {a b} hclash w w' => by
      rw [a.text_eq, b.text_eq]
      exact Cell.map_spell_ne hclash w w'
  have : Std.Symm fun a b : Operation => ∀ w w', a.text w ≠ b.text w' :=
    ⟨fun _ _ h w w' => (h w' w).symm⟩
  exact hdiffer.forall (mem_all a) (mem_all b) hne w w' h

/-- No instruction has the text of the words without one. -/
theorem text_ne_unknownText (op : Operation) (w : Word) : op.text w ≠ OpcodeTable.unknownText := by
  have hclash : Cell.clash op.cells (OpcodeTable.unknownText.map .mark) = true := by
    cases op <;> decide
  rw [op.text_eq]
  exact Cell.map_spell_ne hclash w w

/-- A digit that the text shows can be read off the text. -/
theorem digit_eq_of_text {op : Operation} {a b : Word} (h : op.text a = op.text b) {place : Nat}
    {upper : Bool} (hshown : Cell.digit place upper ∈ op.cells) :
    a.digit place = b.digit place := by
  rw [op.text_eq, op.text_eq] at h
  exact Cell.eq_of_glyph (List.map_inj_left.mp h _ hshown)

/-- The digits that the mask leaves open are shown, apart from the third one of the shift. -/
theorem isOpen_shown {op : Operation} (h : op ≠ .shiftRight) : ∀ place < 4,
    op.row.mask.digit place = 15 ∨ ∃ upper, Cell.digit place upper ∈ op.cells := by
  cases op
  case shiftRight => exact absurd rfl h
  all_goals decide

/-- The text of an operation other than the shift tells the word. -/
theorem word_eq_of_text {op : Operation} (hop : op ≠ .shiftRight) {a b : Word}
    (ha : a.operation? = some op) (hb : b.operation? = some op) (h : op.text a = op.text b) :
    a = b := by
  refine Word.ext_digit fun place hplace => ?_
  rcases isOpen_shown hop place hplace with hcovered | ⟨upper, hshown⟩
  · rw [← Word.digit_and hcovered a, ← Word.digit_and hcovered b,
      Word.operation?_eq_some_iff.mp ha, Word.operation?_eq_some_iff.mp hb]
  · exact digit_eq_of_text h hshown

/-- The text of a shift tells its register. -/
theorem x_eq_of_text_shiftRight {a b : Word} (h : text .shiftRight a = text .shiftRight b) :
    a.x = b.x :=
  digit_eq_of_text h (by decide : Cell.digit 2 true ∈ cells .shiftRight)

end Operation

/-- A word has no text exactly if it stands for no operation. -/
theorem disassemble_eq_unknown_iff {w : Word} :
    standardTable.disassemble w = .ok OpcodeTable.unknownText ↔ w.operation? = none := by
  constructor
  · intro h
    cases hop : w.operation? with
    | none => rfl
    | some op =>
      rw [disassemble_of_operation? hop] at h
      exact absurd (Except.ok.inj h) (op.text_ne_unknownText w)
  · exact disassemble_of_none

end Chip8
