/-
  The processor within bounds, and what its operations do there. `IsBounded limit` bounds every
  part of the processor, the program counter by `limit`: an instruction can be fetched below
  `0xFFF`, a skip and the way to the next instruction add two each, and what a call keeps on
  the stack is no further than `0x1000`. A return needs a slot below the stack pointer, which
  counts from the back down to -16; a call needs one at it.
-/
import Chip8.Cpu
import Chip8.Proofs.Act
import Chip8.Proofs.Memory

namespace Chip8

namespace Cpu

/-- The bounds of the processor, with the program counter no further than `limit`. -/
structure IsBounded (limit : Int) (c : Cpu) : Prop where
  pc_nonneg : 0 ≤ c.pc
  pc_le : c.pc ≤ limit
  i_nonneg : 0 ≤ c.i
  i_le : c.i ≤ 0xFFFF
  delay_nonneg : 0 ≤ c.delay
  delay_le : c.delay ≤ 0xFF
  sound_nonneg : 0 ≤ c.sound
  sound_le : c.sound ≤ 0xFF
  sp_le : c.sp ≤ 16
  stack_nonneg : ∀ slot, 0 ≤ readCell c.stack slot
  stack_le : ∀ slot, readCell c.stack slot ≤ 0x1000

variable {c : Cpu} {limit : Int}

/-! ## The stack -/

/-- How a return fails, if it does. -/
def retFault? (c : Cpu) : Option Fault :=
  if c.sp ≤ -16 then some (indexFault (c.sp - 1) .stackRead) else none

/-- How a call fails, if it does. -/
def callFault? (c : Cpu) : Option Fault :=
  if c.sp < -16 ∨ c.sp = 16 then some (indexFault c.sp .stackWrite) else none

theorem ret_of_retFault? {fault : Fault} (h : c.retFault? = some fault) :
    ret c = .error fault { c with sp := c.sp - 1 } := by
  unfold retFault? at h
  split at h
  · cases h
    unfold ret
    dsimp only
    rw [cellAt_eq_indexFault .stackRead (by omega)]
  · cases h

theorem ret_of_none (hsp : c.sp ≤ 16) (h : c.retFault? = none) :
    ∃ slot, ret c = .ok () { c with sp := c.sp - 1, pc := readCell c.stack slot } := by
  unfold retFault? at h
  split at h
  · cases h
  · obtain ⟨slot, hslot⟩ := exists_cellAt .stackRead
      (show -((16 : Nat) : Int) ≤ c.sp - 1 by omega) (by omega) (by decide)
    refine ⟨slot, ?_⟩
    unfold ret
    dsimp only
    rw [hslot]

theorem call_of_callFault? {fault : Fault} (address : Nat) (h : c.callFault? = some fault) :
    c.call address = .error fault := by
  unfold callFault? at h
  split at h
  · cases h
    unfold call
    rw [cellAt_eq_indexFault .stackWrite (by omega)]
    rfl
  · cases h

theorem call_of_none (address : Nat) (hsp : c.sp ≤ 16) (h : c.callFault? = none) :
    ∃ slot, c.call address = .ok { c with
      stack := writeCell c.stack slot (wrap16 (c.pc + 2)), sp := c.sp + 1, pc := address } := by
  unfold callFault? at h
  split at h
  · cases h
  · obtain ⟨slot, hslot⟩ := exists_cellAt .stackWrite
      (show -((16 : Nat) : Int) ≤ c.sp by omega) (by omega) (by decide)
    refine ⟨slot, ?_⟩
    unfold call
    rw [hslot]
    rfl

/-- A call that succeeds has found a slot at the stack pointer. -/
theorem of_call_ok {c' : Cpu} {address : Nat} (h : c.call address = .ok c') :
    ∃ slot, cell? 16 c.sp = some slot ∧ c' = { c with
      stack := writeCell c.stack slot (wrap16 (c.pc + 2)), sp := c.sp + 1, pc := address } := by
  unfold call at h
  cases hslot : cellAt 16 c.sp .stackWrite with
  | error fault => rw [hslot] at h; cases h
  | ok slot =>
    rw [hslot] at h
    cases h
    exact ⟨slot, cell?_of_cellAt hslot, rfl⟩

/-- A return that succeeds has found a slot below the stack pointer. -/
theorem of_ret_ok {c' : Cpu} (h : ret c = .ok () c') :
    ∃ slot, cell? 16 (c.sp - 1) = some slot ∧
      c' = { c with sp := c.sp - 1, pc := readCell c.stack slot } := by
  unfold ret at h
  dsimp only at h
  cases hslot : cellAt 16 (c.sp - 1) .stackRead with
  | error fault => rw [hslot] at h; cases h
  | ok slot =>
    rw [hslot] at h
    cases h
    exact ⟨slot, cell?_of_cellAt hslot, rfl⟩

theorem sp_of_call {c' : Cpu} {address : Nat} (h : c.call address = .ok c') :
    c'.sp = c.sp + 1 := by
  obtain ⟨slot, -, rfl⟩ := of_call_ok h
  rfl

theorem sp_of_readDelay {c' : Cpu} {x : Register} (h : c.readDelay x = .ok c') :
    c'.sp = c.sp := by
  unfold readDelay at h
  split at h <;> cases h
  rfl

theorem sp_skipIf (c : Cpu) (condition : Bool) : (c.skipIf condition).sp = c.sp := by
  unfold skipIf
  split <;> rfl

theorem readDelay_of_isBounded (hc : c.IsBounded limit) (x : Register) :
    c.readDelay x = .ok (c.set x (Byte.ofInt c.delay)) := by
  have := hc.delay_nonneg
  have := hc.delay_le
  rw [readDelay, if_pos (by omega)]

/-! ## Loading registers one by one -/

/-- Registers are known by what is read from them. -/
theorem ext_registers {v v' : Vector Byte 16} (h : ∀ r : Register, readCell v r = readCell v' r) :
    v = v' := by
  apply Vector.ext
  intro i hi
  exact h ⟨i, hi⟩

/-- Registers with the first of them replaced. -/
def filled (v : Vector Byte 16) (count : Nat) (bytes : Nat → Byte) : Vector Byte 16 :=
  Vector.ofFn fun r => if r.val < count then bytes r.val else readCell v r

theorem readCell_filled (v : Vector Byte 16) (count : Nat) (bytes : Nat → Byte) (r : Register) :
    readCell (filled v count bytes) r = if r.val < count then bytes r.val else readCell v r := by
  simp [filled, readCell]

-- comparing states must not run through sixteen registers
attribute [irreducible] filled

theorem filled_zero (v : Vector Byte 16) (bytes : Nat → Byte) : filled v 0 bytes = v :=
  ext_registers fun r => (readCell_filled v 0 bytes r).trans (if_neg (Nat.not_lt_zero _))

theorem writeCell_filled (v : Vector Byte 16) {k : Nat} (hk : k < 16) (bytes : Nat → Byte) :
    writeCell (filled v k bytes) (Register.ofNat k) (bytes k) = filled v (k + 1) bytes := by
  have hval : (Register.ofNat k).val = k := Nat.mod_eq_of_lt hk
  refine ext_registers fun r => ?_
  rw [readCell_writeCell, readCell_filled, readCell_filled]
  by_cases hr : Register.ofNat k = r
  · subst hr
    simp [hval]
  · have hne : k ≠ r.val := fun h => hr (Fin.ext (hval.trans h))
    have : r.val < k + 1 ↔ r.val < k := by omega
    simp only [if_neg hr, this]

/-- The processor with the first registers replaced. -/
def withRegisters (c : Cpu) (count : Nat) (bytes : Nat → Byte) : Cpu :=
  { c with v := filled c.v count bytes }

theorem withRegisters_zero (c : Cpu) (bytes : Nat → Byte) : c.withRegisters 0 bytes = c := by
  rw [withRegisters, filled_zero]

theorem set_withRegisters (c : Cpu) {k : Nat} (hk : k < 16) (bytes : Nat → Byte) :
    (c.withRegisters k bytes).set (Register.ofNat k) (bytes k) =
      c.withRegisters (k + 1) bytes := by
  unfold withRegisters set
  dsimp only
  rw [writeCell_filled c.v hk]

/-! ## Staying within bounds -/

namespace IsBounded

theorem start : IsBounded 0xFFE {} := by
  constructor <;> simp [readCell]

theorem mono {limit' : Int} (hc : c.IsBounded limit) (h : limit ≤ limit') :
    c.IsBounded limit' :=
  { hc with pc_le := Int.le_trans hc.pc_le h }

theorem withV (hc : c.IsBounded limit) (v : Vector Byte 16) :
    ({ c with v := v } : Cpu).IsBounded limit :=
  { hc with }

theorem set (hc : c.IsBounded limit) (r : Register) (b : Byte) : (c.set r b).IsBounded limit :=
  hc.withV _

theorem withIndex (hc : c.IsBounded limit) {i : Int} (h : 0 ≤ i) (h' : i ≤ 0xFFFF) :
    ({ c with i := i } : Cpu).IsBounded limit :=
  { hc with i_nonneg := h, i_le := h' }

theorem withPc (hc : c.IsBounded limit) {limit' pc : Int} (h : 0 ≤ pc) (h' : pc ≤ limit') :
    ({ c with pc := pc } : Cpu).IsBounded limit' :=
  { hc with pc_nonneg := h, pc_le := h' }

theorem advance (hc : c.IsBounded limit) (h : limit ≤ 0x1000) :
    c.advance.IsBounded (limit + 2) := by
  have := hc.pc_nonneg
  have := hc.pc_le
  refine hc.withPc (wrap16_nonneg _) ?_
  rw [wrap16_of_mem (by omega) (by omega)]
  omega

theorem skipIf (hc : c.IsBounded limit) (h : limit ≤ 0x1000) (condition : Bool) :
    (c.skipIf condition).IsBounded (limit + 2) := by
  unfold Cpu.skipIf
  split
  · exact hc.advance h
  · exact hc.mono (by omega)

/-- Going back and moving on leads to where one was. -/
theorem advance_rewind (hc : c.IsBounded limit) (h : limit ≤ 0x1002) : c.rewind.advance = c := by
  have := hc.pc_nonneg
  have := hc.pc_le
  have hpc : wrap16 (wrap16 (c.pc - 2) + 2) = c.pc := by
    unfold wrap16
    omega
  unfold Cpu.advance rewind
  rw [hpc]

theorem jump (hc : c.IsBounded limit) {address : Nat} (h : address < 0x1000) :
    (c.jump address).IsBounded 0x1000 :=
  hc.withPc (by omega) (by omega)

theorem addIndex (hc : c.IsBounded limit) (x : Register) : (c.addIndex x).IsBounded limit :=
  hc.withIndex (wrap16_nonneg _) (by have := wrap16_lt (c.i + (c.get x).toNat); omega)

theorem pointAtGlyph (hc : c.IsBounded limit) (x : Register) :
    (c.pointAtGlyph x).IsBounded limit :=
  hc.withIndex (wrap16_nonneg _) (by have := wrap16_lt ((c.get x).toNat * 5 : Nat); omega)

theorem setDelay (hc : c.IsBounded limit) (x : Register) : (c.setDelay x).IsBounded limit :=
  have := (c.get x).isLt
  { hc with delay_nonneg := Int.natCast_nonneg _, delay_le := by simp only [Cpu.setDelay]; omega }

theorem setSound (hc : c.IsBounded limit) (x : Register) : (c.setSound x).IsBounded limit :=
  have := (c.get x).isLt
  { hc with sound_nonneg := Int.natCast_nonneg _, sound_le := by simp only [Cpu.setSound]; omega }

theorem tick (hc : c.IsBounded limit) : c.tick.IsBounded limit := by
  have := hc.delay_nonneg
  have := hc.delay_le
  have := hc.sound_nonneg
  have := hc.sound_le
  refine { hc with delay_nonneg := ?_, delay_le := ?_, sound_nonneg := ?_, sound_le := ?_ } <;>
    simp only [Cpu.tick, countDown] <;> split <;> omega

/-- The stack pointer of a return that fails moves too. -/
theorem pop (hc : c.IsBounded limit) : ({ c with sp := c.sp - 1 } : Cpu).IsBounded limit :=
  { hc with sp_le := by have := hc.sp_le; simp only; omega }

theorem ret (hc : c.IsBounded limit) (slot : Fin 16) :
    ({ c with sp := c.sp - 1, pc := readCell c.stack slot } : Cpu).IsBounded 0x1000 :=
  hc.pop.withPc (hc.stack_nonneg slot) (hc.stack_le slot)

theorem call (hc : c.IsBounded limit) (h : limit ≤ 0xFFE) {address : Nat}
    (haddress : address < 0x1000) (slot : Fin 16) (hsp : c.sp < 16) :
    ({ c with stack := writeCell c.stack slot (wrap16 (c.pc + 2)), sp := c.sp + 1, pc := address } :
      Cpu).IsBounded 0x1000 := by
  have := hc.pc_nonneg
  have := hc.pc_le
  have hback : wrap16 (c.pc + 2) = c.pc + 2 := wrap16_of_mem (by omega) (by omega)
  let pushed : Cpu :=
    { c with stack := writeCell c.stack slot (wrap16 (c.pc + 2)), sp := c.sp + 1 }
  have hpush : pushed.IsBounded limit := by
    refine { hc with sp_le := ?_, stack_nonneg := fun other => ?_, stack_le := fun other => ?_ }
    · change c.sp + 1 ≤ 16
      omega
    · have := hc.stack_nonneg other
      rw [readCell_writeCell, hback]
      split <;> omega
    · have := hc.stack_le other
      rw [readCell_writeCell, hback]
      split <;> omega
  exact hpush.withPc (by omega) (by omega)

end IsBounded

end Cpu

end Chip8
