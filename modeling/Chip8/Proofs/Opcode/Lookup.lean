/-
  Looking a word up in a table of accepted rows. A registration appends a row to the bucket of
  its family and touches no other (`bucket_register`), so after all registrations a bucket
  holds the rows of its family in their order. Rows that all select by different bits are all
  accepted (`exists_ofOpcodes`). A row matches words of its own family only
  (`family_eq_of_isMatch`), hence the scan of one bucket finds what a scan of all rows would
  (`lookup_ofOpcodes`).
-/
import Chip8.Opcode.Table
import Chip8.Proofs.Act

namespace Chip8

/-- The family digit is all that `familyMask` leaves of a word. -/
theorem Word.family_and_familyMask (w : Word) : (w &&& familyMask).family = w.family := by
  apply Fin.ext
  simp only [Word.family, familyMask, BitVec.toNat_and]
  rw [show (4096 : Nat) = 2 ^ 12 from rfl, Nat.and_div_two_pow,
    show (0xF000 : Word).toNat / 2 ^ 12 = 2 ^ 4 - 1 from rfl, Nat.and_two_pow_sub_one_eq_mod]
  have := w.isLt
  omega

namespace Opcode

theorem isMatch_iff (o : Opcode) (w : Word) : o.isMatch w = true ↔ w &&& o.mask = o.pattern := by
  simp [isMatch]

/-- A row matches words of its own family only, as its mask covers the family digit. -/
theorem family_eq_of_isMatch {o : Opcode} {w : Word} (h : o.isMatch w = true) :
    o.family = w.family := by
  rw [isMatch_iff] at h
  rw [← w.family_and_familyMask, family, ← o.pattern.family_and_familyMask, ← h]
  rw [BitVec.and_assoc, o.family_covered]

end Opcode

namespace OpcodeTable

theorem bucket_register {t t' : OpcodeTable} {o : Opcode} (h : t.register o = .ok t')
    (family : Fin 16) :
    t'.bucket family = if family = o.family then t.bucket family ++ [o] else t.bucket family := by
  unfold register at h
  dsimp only at h
  split at h
  · cases h
  · cases h
    by_cases hf : family = o.family
    · subst hf
      simp [bucket]
    · have : o.family.val ≠ family.val := fun hv => hf (Fin.ext hv.symm)
      simp [bucket, hf, this]

theorem registerAll_cons_ok {o : Opcode} {t u : OpcodeTable} (rest : List Opcode)
    (h : t.register o = .ok u) : registerAll (o :: rest) t = registerAll rest u := by
  change (Act.ofExcept (t.register o) >>= fun u => set u >>= fun _ => registerAll rest) t = _
  rw [h]
  rfl

theorem registerAll_cons_error {o : Opcode} {t : OpcodeTable} {fault : Fault}
    (rest : List Opcode) (h : t.register o = .error fault) :
    registerAll (o :: rest) t = .error fault t := by
  change (Act.ofExcept (t.register o) >>= fun u => set u >>= fun _ => registerAll rest) t = _
  rw [h]
  rfl

theorem bucket_registerAll {rows : List Opcode} {t t' : OpcodeTable}
    (h : registerAll rows t = .ok () t') (family : Fin 16) :
    t'.bucket family = t.bucket family ++ rows.filter (·.family = family) := by
  induction rows generalizing t with
  | nil =>
    cases h
    simp
  | cons o rest ih =>
    cases hr : t.register o with
    | error fault => rw [registerAll_cons_error rest hr] at h; cases h
    | ok u =>
      rw [registerAll_cons_ok rest hr] at h
      rw [ih h, bucket_register hr]
      by_cases hf : family = o.family
      · simp [hf]
      · simp [hf, Ne.symm hf]

/-! ## Acceptance -/

theorem exists_register {t : OpcodeTable} {o : Opcode}
    (h : ∀ earlier ∈ t.bucket o.family, earlier.sameBits o = false) :
    ∃ u, t.register o = .ok u := by
  have hnone : (t.bucket o.family).find? (·.sameBits o) = none := by
    rw [List.find?_eq_none]
    intro earlier he
    simp [h earlier he]
  unfold register
  dsimp only
  rw [hnone]
  exact ⟨_, rfl⟩

theorem exists_registerAll {rows : List Opcode} {t : OpcodeTable}
    (hrows : rows.Pairwise fun a b => a.sameBits b = false)
    (ht : ∀ family, ∀ earlier ∈ t.bucket family, ∀ o ∈ rows, earlier.sameBits o = false) :
    ∃ u, registerAll rows t = .ok () u := by
  induction rows generalizing t with
  | nil => exact ⟨t, rfl⟩
  | cons o rest ih =>
    rw [List.pairwise_cons] at hrows
    obtain ⟨u, hu⟩ := exists_register fun earlier he => ht _ earlier he o List.mem_cons_self
    rw [registerAll_cons_ok rest hu]
    apply ih hrows.2
    intro family earlier he later hl
    rw [bucket_register hu] at he
    have hearlier : earlier ∈ t.bucket family ∨ earlier = o := by
      split at he
      · simpa using he
      · exact Or.inl he
    rcases hearlier with he | rfl
    · exact ht family earlier he later (List.mem_cons_of_mem o hl)
    · exact hrows.1 later hl

/-- Rows that all select by different bits make a table. -/
theorem exists_ofOpcodes {rows : List Opcode}
    (h : rows.Pairwise fun a b => a.sameBits b = false) : ∃ t, ofOpcodes rows = .ok t := by
  obtain ⟨t, ht⟩ := exists_registerAll h (t := empty) fun family earlier he => by
    rw [bucket_empty] at he
    cases he
  exact ⟨t, by rw [ofOpcodes, ht]⟩

/-! ## Looking up -/

/-- The table holds the given rows: every bucket holds those of its family, in their order. -/
def Lists (t : OpcodeTable) (rows : List Opcode) : Prop :=
  ∀ family, t.bucket family = rows.filter (·.family = family)

theorem lists_empty : empty.Lists [] := bucket_empty

/-- Looking up scans all rows of the table in their order, whatever their families are. -/
theorem lookup_of_lists {t : OpcodeTable} {rows : List Opcode} (h : t.Lists rows) (w : Word) :
    t.lookup w = rows.find? (·.isMatch w) := by
  rw [lookup, h, List.find?_filter]
  congr 1
  funext o
  cases hm : o.isMatch w with
  | false => simp
  | true => simp [Opcode.family_eq_of_isMatch hm]

/-- Looking up scans the accepted rows in their order. -/
theorem lookup_ofOpcodes {rows : List Opcode} {t : OpcodeTable} (h : ofOpcodes rows = .ok t)
    (w : Word) : t.lookup w = rows.find? (·.isMatch w) := by
  unfold ofOpcodes at h
  cases hr : registerAll rows empty with
  | error fault u => rw [hr] at h; cases h
  | ok a u =>
    rw [hr] at h
    cases h
    refine lookup_of_lists (fun family => ?_) w
    rw [bucket_registerAll hr, bucket_empty, List.nil_append]

/-! ## Texts -/

theorem disassemble_of_lookup {t : OpcodeTable} {w : Word} {row : Opcode}
    (h : t.lookup w = some row) : t.disassemble w = row.format w := by
  unfold disassemble
  rw [h]

theorem disassemble_of_lookup_none {t : OpcodeTable} {w : Word} (h : t.lookup w = none) :
    t.disassemble w = .ok unknownText := by
  unfold disassemble
  rw [h]

end OpcodeTable

end Chip8
