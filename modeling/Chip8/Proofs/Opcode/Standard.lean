/-
  The standard instruction set as a decoder. Each operation has one row (`Operation.row`), the
  rows select disjoint sets of words (`disjoint_rows`), and so a word belongs to an operation
  exactly when its bits under the row's mask are the row's pattern (`operation?_eq_some_iff`).
  `lookup_standardTable` says that the standard table finds this row and no other.
-/
import Chip8.Opcode.Standard
import Chip8.Proofs.Opcode.Lookup
import Mathlib.Data.List.Pairwise

namespace Chip8

/-- The row of an operation: operations and standard rows are listed in the same order. -/
def Operation.row (op : Operation) : Opcode :=
  standardOpcodes.get ⟨op.ctorIdx, by cases op <;> decide⟩

theorem standardOpcodes_eq : standardOpcodes = Operation.all.map Operation.row := by rfl

theorem Operation.handler_row (op : Operation) : op.row.handler = Text.ofString op.name := by
  cases op <;> rfl

/-- The operation that a word stands for in the standard instruction set, if there is one. -/
def Word.operation? (w : Word) : Option Operation :=
  Operation.all.find? fun op => op.row.isMatch w

/-- Whether two rows disagree on a bit that both of them look at. -/
def Opcode.Disjoint (a b : Opcode) : Prop := (a.pattern ^^^ b.pattern) &&& (a.mask &&& b.mask) ≠ 0

instance (a b : Opcode) : Decidable (a.Disjoint b) := inferInstanceAs (Decidable (_ ≠ _))

theorem Opcode.Disjoint.symm {a b : Opcode} (h : a.Disjoint b) : b.Disjoint a := by
  unfold Disjoint
  rwa [BitVec.xor_comm, BitVec.and_comm b.mask]

/-- Rows that select by the same bits do not differ anywhere. -/
theorem Opcode.Disjoint.sameBits_eq_false {a b : Opcode} (h : a.Disjoint b) :
    a.sameBits b = false := by
  by_contra hsame
  simp only [Opcode.sameBits, Bool.not_eq_false, Bool.and_eq_true, beq_iff_eq] at hsame
  apply h
  rw [hsame.2, BitVec.xor_self, BitVec.zero_and]
  rfl

theorem disjoint_rows : Operation.all.Pairwise fun a b => a.row.Disjoint b.row := by
  decide

/-- Rows that one word matches agree with it, hence with each other, on their common bits. -/
theorem Opcode.not_disjoint {a b : Opcode} {w : Word} (ha : a.isMatch w = true)
    (hb : b.isMatch w = true) : ¬ a.Disjoint b := by
  rw [isMatch_iff] at ha hb
  rw [Disjoint, ← ha, ← hb, not_not]
  ext i
  simp only [BitVec.getElem_and, BitVec.getElem_xor, BitVec.ofNat_eq_ofNat, BitVec.getElem_zero]
  cases w[i] <;> cases a.mask[i] <;> cases b.mask[i] <;> rfl

theorem Word.isMatch_of_operation? {w : Word} {op : Operation} (h : w.operation? = some op) :
    op.row.isMatch w = true := by
  unfold operation? at h
  have hmatch := List.find?_some h
  exact hmatch

theorem Operation.eq_of_isMatch {a b : Operation} {w : Word} (ha : a.row.isMatch w = true)
    (hb : b.row.isMatch w = true) : a = b := by
  by_contra hne
  have : Std.Symm fun a b : Operation => a.row.Disjoint b.row := ⟨fun _ _ h => h.symm⟩
  exact Opcode.not_disjoint ha hb (disjoint_rows.forall (mem_all a) (mem_all b) hne)

/-- A word stands for an operation when it matches the operation's row. -/
theorem Word.operation?_eq_some_iff {w : Word} {op : Operation} :
    w.operation? = some op ↔ w &&& op.row.mask = op.row.pattern := by
  rw [← Opcode.isMatch_iff]
  constructor
  · exact isMatch_of_operation?
  · intro h
    cases hw : w.operation? with
    | none =>
      have := List.find?_eq_none.mp hw op (Operation.mem_all op)
      exact absurd h this
    | some other => rw [Operation.eq_of_isMatch (isMatch_of_operation? hw) h]

theorem Word.operation?_eq_none_iff {w : Word} :
    w.operation? = none ↔ ∀ op : Operation, w &&& op.row.mask ≠ op.row.pattern := by
  constructor
  · intro h op hop
    rw [operation?_eq_some_iff.mpr hop] at h
    cases h
  · intro h
    cases hw : w.operation? with
    | none => rfl
    | some op => exact absurd (operation?_eq_some_iff.mp hw) (h op)

theorem Word.operation?_eq_none_iff_rows {w : Word} :
    w.operation? = none ↔ ∀ row ∈ standardOpcodes, row.isMatch w = false := by
  rw [operation?, List.find?_eq_none, standardOpcodes_eq]
  simp

theorem Word.operation?_eq_ret_iff {w : Word} : w.operation? = some .ret ↔ w = 0x00EE := by
  rw [operation?_eq_some_iff]
  change w &&& BitVec.allOnes 16 = 0x00EE ↔ _
  rw [BitVec.and_allOnes]

/-- Whether the word is a call. -/
def Word.IsCall (w : Word) : Prop := w &&& 0xF000 = 0x2000

instance (w : Word) : Decidable w.IsCall := inferInstanceAs (Decidable (_ = _))

theorem Word.operation?_eq_call_iff {w : Word} : w.operation? = some .call ↔ w.IsCall :=
  operation?_eq_some_iff

theorem Word.IsCall.ne_ret {w : Word} (h : w.IsCall) : w ≠ 0x00EE := by
  rintro rfl
  exact absurd h (by decide)

/-- What a word adds to the stack pointer: calls push, and returns pop. -/
def Word.stackChange (w : Word) : Int := if w.IsCall then 1 else if w = 0x00EE then -1 else 0

theorem Word.IsCall.stackChange {w : Word} (h : w.IsCall) : w.stackChange = 1 := if_pos h

theorem Word.stackChange_ret : (0x00EE : Word).stackChange = -1 := by decide

theorem Word.stackChange_other {w : Word} (hcall : ¬ w.IsCall) (hret : w ≠ 0x00EE) :
    w.stackChange = 0 := by
  rw [stackChange, if_neg hcall, if_neg hret]

theorem ofOpcodes_standard : OpcodeTable.ofOpcodes standardOpcodes = .ok standardTable := by
  obtain ⟨t, ht⟩ : ∃ t, OpcodeTable.ofOpcodes standardOpcodes = .ok t := by
    apply OpcodeTable.exists_ofOpcodes
    rw [standardOpcodes_eq, List.pairwise_map]
    exact disjoint_rows.imp Opcode.Disjoint.sameBits_eq_false
  rw [standardTable, ht]
  rfl

/-- The standard table finds the row of the operation that a word stands for. -/
theorem lookup_standardTable (w : Word) :
    standardTable.lookup w = w.operation?.map Operation.row := by
  rw [OpcodeTable.lookup_ofOpcodes ofOpcodes_standard, standardOpcodes_eq, List.find?_map]
  rfl

theorem lookup_of_operation? {w : Word} {op : Operation} (h : w.operation? = some op) :
    standardTable.lookup w = some op.row := by
  rw [lookup_standardTable, h]
  rfl

theorem lookup_of_none {w : Word} (h : w.operation? = none) : standardTable.lookup w = none := by
  rw [lookup_standardTable, h]
  rfl

end Chip8
