/-
  The order of rows. Two rows disagree on a bit that both of them look at exactly when no word
  matches both (`disjoint_iff`): where they do not, the bits of both patterns together make a word
  that both match. Among rows of which any two disagree, at most one matches a word, so a scan finds
  it wherever it stands (`find?_eq_some_iff`) and every order of the rows makes a table that finds
  the same (`exists_ofOpcodes_of_perm`). The standard rows are of this kind. The main statement is
  `lookup_of_perm`.
-/
import Chip8.Proofs.Machine.Execute
import Chip8.Proofs.Opcode.Registration

namespace Chip8

namespace Opcode

variable {a b o : Opcode} {rows rows' : List Opcode} {w : Word}

/-! ## Two rows -/

/-- A row matches the bits of its pattern and of another one that agrees with it where both look. -/
theorem isMatch_or (h : ¬ a.Disjoint b) : a.isMatch (a.pattern ||| b.pattern) = true := by
  have hagree : (a.pattern ^^^ b.pattern) &&& (a.mask &&& b.mask) = 0 := not_not.mp h
  rw [isMatch_iff]
  ext i hi
  have ha := congrArg (·[i]) a.pattern_within
  have hb := congrArg (·[i]) b.pattern_within
  have hbit := congrArg (·[i]) hagree
  simp only [BitVec.getElem_and, BitVec.getElem_or, BitVec.getElem_xor, BitVec.ofNat_eq_ofNat,
    BitVec.getElem_zero] at ha hb hbit ⊢
  revert ha hb hbit
  cases a.pattern[i] <;> cases b.pattern[i] <;> cases a.mask[i] <;> cases b.mask[i] <;> decide

theorem disjoint_iff : a.Disjoint b ↔ ∀ w, ¬ (a.isMatch w = true ∧ b.isMatch w = true) := by
  constructor
  · intro h w hboth
    exact not_disjoint hboth.1 hboth.2 h
  · intro h
    by_contra hagree
    have hagree' : ¬ b.Disjoint a := fun hb => hagree hb.symm
    refine h (a.pattern ||| b.pattern) ⟨isMatch_or hagree, ?_⟩
    rw [BitVec.or_comm]
    exact isMatch_or hagree'

/-! ## Many rows -/

/-- Of rows that all disagree, a scan finds the one that matches, wherever it stands. -/
theorem filter_eq_find? (h : rows.Pairwise Disjoint) (w : Word) :
    rows.filter (·.isMatch w) = (rows.find? (·.isMatch w)).toList := by
  induction rows with
  | nil => rfl
  | cons o rest ih =>
    rw [List.pairwise_cons] at h
    cases hm : o.isMatch w with
    | false =>
      rw [List.filter_cons_of_neg (by simp [hm]), List.find?_cons_of_neg (by simp [hm]), ih h.2]
    | true =>
      rw [List.filter_cons_of_pos (by simpa using hm), List.find?_cons_of_pos (by simpa using hm)]
      have hrest : rest.filter (·.isMatch w) = [] := by
        rw [List.filter_eq_nil_iff]
        intro other hother hmatch
        exact not_disjoint hm hmatch (h.1 other hother)
      rw [hrest]
      rfl

theorem find?_eq_some_iff (h : rows.Pairwise Disjoint) :
    rows.find? (·.isMatch w) = some o ↔ o ∈ rows ∧ o.isMatch w = true := by
  rw [← Option.mem_toList, ← filter_eq_find? h, List.mem_filter]

theorem find?_of_perm (h : rows.Pairwise Disjoint) (hperm : rows'.Perm rows) (w : Word) :
    rows'.find? (·.isMatch w) = rows.find? (·.isMatch w) := by
  have h' : rows'.Pairwise Disjoint := (hperm.pairwise_iff Disjoint.symm).mpr h
  ext o
  rw [find?_eq_some_iff h, find?_eq_some_iff h', hperm.mem_iff]

end Opcode

namespace OpcodeTable

variable {rows rows' : List Opcode} {t : OpcodeTable}

/-- Every order of rows that all disagree makes a table, and all of them find the same. -/
theorem exists_ofOpcodes_of_perm (h : rows.Pairwise Opcode.Disjoint) (ht : ofOpcodes rows = .ok t)
    (hperm : rows'.Perm rows) :
    ∃ t', ofOpcodes rows' = .ok t' ∧ ∀ w, t'.lookup w = t.lookup w := by
  have h' : rows'.Pairwise Opcode.Disjoint := (hperm.pairwise_iff Opcode.Disjoint.symm).mpr h
  obtain ⟨t', ht'⟩ := exists_ofOpcodes (h'.imp Opcode.Disjoint.sameBits_eq_false)
  refine ⟨t', ht', fun w => ?_⟩
  rw [lookup_ofOpcodes ht', lookup_ofOpcodes ht, Opcode.find?_of_perm h hperm]

end OpcodeTable

/-- Two rows that select by different bits make a table in either order. If no bit tells them apart,
a word that both match goes to the row that comes first. -/
theorem exists_ofOpcodes_pair {a b : Opcode} (hbits : a.sameBits b = false)
    (h : ¬ a.Disjoint b) : ∃ t, OpcodeTable.ofOpcodes [a, b] = .ok t ∧
      t.lookup (a.pattern ||| b.pattern) = some a := by
  have hrows : [a, b].Pairwise fun a b => a.sameBits b = false := by simpa using hbits
  obtain ⟨t, ht⟩ := OpcodeTable.exists_ofOpcodes hrows
  refine ⟨t, ht, ?_⟩
  rw [OpcodeTable.lookup_ofOpcodes ht,
    List.find?_cons_of_pos (by simpa using Opcode.isMatch_or h)]

/-! ## The standard rows -/

theorem disjoint_standardOpcodes : standardOpcodes.Pairwise Opcode.Disjoint := by
  rw [standardOpcodes_eq, List.pairwise_map]
  exact disjoint_rows

namespace Emulator

variable {δ : Type} [Screen δ]

/-- Only what the table finds matters for executing a word. -/
theorem execute_of_table {e : Emulator δ} {t : OpcodeTable} (htable : e.machine.table = some t)
    (w : Word) : execute w e = match t.lookup w with
      | none => .error (.unknownInstruction w) e
      | some row => executeRow row w e := by
  cases h : t.lookup w with
  | none => exact execute_of_lookup_none htable h
  | some row => exact execute_of_lookup htable h

end Emulator

/-- Rows of which any two disagree on a bit that both look at make a table in every order, and all
of these tables find the same: the one row that matches, if there is one. Two rows that select by
different bits and do not disagree make a table in either order, and some word is found as a
different row in each. The standard rows are of the first kind, so for every order of them each word
is executed by the same row. -/
theorem lookup_of_perm :
    (∀ rows : List Opcode, rows.Pairwise Opcode.Disjoint →
      ∃ t, OpcodeTable.ofOpcodes rows = .ok t ∧
        (∀ raw : Int, (t.lookupRaw raw).toList = rows.filter fun o =>
          (raw % 65536).toNat &&& o.mask.toNat == o.pattern.toNat) ∧
        ∀ rows', rows'.Perm rows → ∃ t', OpcodeTable.ofOpcodes rows' = .ok t' ∧
          ∀ raw : Int, t'.lookupRaw raw = t.lookupRaw raw) ∧
    (∀ a b : Opcode, ¬ (a.mask = b.mask ∧ a.pattern = b.pattern) → ¬ a.Disjoint b →
      ∃ t t' w, OpcodeTable.ofOpcodes [a, b] = .ok t ∧ OpcodeTable.ofOpcodes [b, a] = .ok t' ∧
        t.lookup w = some a ∧ t'.lookup w = some b) ∧
    standardOpcodes.Pairwise Opcode.Disjoint ∧
    ∀ rows, rows.Perm standardOpcodes → ∃ t, OpcodeTable.ofOpcodes rows = .ok t ∧
      ∀ (δ : Type) [Screen δ] (e : Emulator δ) w, e.machine.table = some t →
        Emulator.execute w e = match standardTable.lookup w with
          | none => .error (.unknownInstruction w) e
          | some row => Emulator.executeRow row w e := by
  refine ⟨fun rows h => ?_, fun a b hbits h => ?_, disjoint_standardOpcodes, fun rows hperm => ?_⟩
  · obtain ⟨t, ht⟩ := OpcodeTable.exists_ofOpcodes (h.imp Opcode.Disjoint.sameBits_eq_false)
    refine ⟨t, ht, fun raw => ?_, fun rows' hperm => ?_⟩
    · simp only [← Opcode.isMatch_ofInt]
      rw [OpcodeTable.lookupRaw, OpcodeTable.lookup_ofOpcodes ht, Opcode.filter_eq_find? h]
    · obtain ⟨t', ht', hsame⟩ := OpcodeTable.exists_ofOpcodes_of_perm h ht hperm
      exact ⟨t', ht', fun raw => hsame _⟩
  · have hsame : a.sameBits b = false := by
      rwa [← Opcode.sameBits_iff, Bool.not_eq_true] at hbits
    have hsame' : b.sameBits a = false := by
      rwa [eq_comm, @eq_comm _ a.pattern, ← Opcode.sameBits_iff, Bool.not_eq_true] at hbits
    obtain ⟨t, ht, hfirst⟩ := exists_ofOpcodes_pair hsame h
    obtain ⟨t', ht', hfirst'⟩ := exists_ofOpcodes_pair hsame' fun hb => h hb.symm
    rw [BitVec.or_comm] at hfirst'
    exact ⟨t, t', _, ht, ht', hfirst, hfirst'⟩
  · obtain ⟨t, ht, hsame⟩ :=
      OpcodeTable.exists_ofOpcodes_of_perm disjoint_standardOpcodes ofOpcodes_standard hperm
    refine ⟨t, ht, fun δ _ e w htable => ?_⟩
    rw [Emulator.execute_of_table htable, hsame]

/-- A row for a whole family. -/
def arithmeticRow : Opcode :=
  { mask := familyMask, pattern := 0x8000, mnemonic := "ALU", handler := "op_ld_vx_vy"
    family_covered := BitVec.and_self }

/-- The standard rows in reverse order find what they find in theirs, and leave the same words
unknown; a row for the whole family of the arithmetic instructions hides the addition, if it comes
first. -/
theorem lookup_of_perm_reverse :
    (∃ t, OpcodeTable.ofOpcodes standardOpcodes.reverse = .ok t ∧
      ∀ raw : Int, t.lookupRaw raw = standardTable.lookupRaw raw) ∧
    (∃ t t' w, OpcodeTable.ofOpcodes [arithmeticRow, Operation.add.row] = .ok t ∧
      OpcodeTable.ofOpcodes [Operation.add.row, arithmeticRow] = .ok t' ∧
      t.lookup w = some arithmeticRow ∧ t'.lookup w = some Operation.add.row) ∧
    ∃ (t : OpcodeTable) (e : Emulator FrameBuffer),
      OpcodeTable.ofOpcodes standardOpcodes.reverse = .ok t ∧ e.machine.table = some t ∧
        Emulator.execute 0x0000 e = .error (.unknownInstruction 0x0000) e := by
  obtain ⟨horders, hpairs, hstandard, hdispatch⟩ := lookup_of_perm
  refine ⟨?_, hpairs _ _ (by decide) (by decide), ?_⟩
  · obtain ⟨t, ht, -, hreorder⟩ := horders standardOpcodes hstandard
    have hsame : t = standardTable := Except.ok.inj (ht.symm.trans ofOpcodes_standard)
    rw [hsame] at hreorder
    exact hreorder _ (List.reverse_perm _)
  · obtain ⟨t, ht, hexecute⟩ := hdispatch _ (List.reverse_perm _)
    let e : Emulator FrameBuffer :=
      { machine :=
          { display := FrameBuffer.blank 8 4
            keyboard := .latch 0
            audio := .counter {}
            table := t }
        host := {} }
    have hunknown : standardTable.lookup 0x0000 = none :=
      lookup_of_none (Word.operation?_eq_none_iff.mpr fun op => by cases op <;> decide)
    have hfails := hexecute FrameBuffer e 0x0000 rfl
    rw [hunknown] at hfails
    exact ⟨t, e, ht, rfl, hfails⟩

end Chip8
