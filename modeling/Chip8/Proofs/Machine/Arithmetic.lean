/-
  Arithmetic on registers. An addition, a subtraction and a shift read what they need, then put
  something into the flag register, and put the result into their own register last (`Yields`). So
  it does not matter which of the registers coincide: the operands are those from before, and where
  the own register is the flag register, the result is what it holds in the end. Adding a byte does
  not touch the flag register. The main statement is `arithmetic_of_execute`.
-/
import Chip8.Proofs.Machine.Execute

namespace Chip8

namespace Cpu

/-- What an arithmetic instruction leaves in the registers: the result in `x`, the flag in the flag
register unless that is `x` too, and all others as they were. -/
structure Yields (c c' : Cpu) (x : Register) (result flag : Nat) : Prop where
  result : (c'.get x).toNat = result
  flag : x ≠ flagRegister → (c'.get flagRegister).toNat = flag
  other : ∀ r, r ≠ x → r ≠ flagRegister → c'.get r = c.get r

theorem Yields.of_get {c c' c'' : Cpu} {x : Register} {result flag : Nat}
    (h : c.Yields c' x result flag) (hget : ∀ r, c''.get r = c'.get r) :
    c.Yields c'' x result flag where
  result := by rw [hget, h.result]
  flag hx := by rw [hget, h.flag hx]
  other r hx hflag := by rw [hget, h.other r hx hflag]

variable (c : Cpu) (x y : Register)

/-- The flag is written first, and the result over it where both go to one register. -/
theorem yields_set_set (flag result : Byte) :
    c.Yields ((c.set flagRegister flag).set x result) x result.toNat flag.toNat where
  result := by rw [get_set_same]
  flag hx := by rw [get_set_ne _ _ hx, get_set_same]
  other r hx hflag := by rw [get_set_ne _ _ hx.symm, get_set_ne _ _ hflag.symm]

/-- Sum and carry. -/
theorem yields_add : c.Yields (c.add x y) x (((c.get x).toNat + (c.get y).toNat) % 256)
    (((c.get x).toNat + (c.get y).toNat) / 256) := by
  have hx := (c.get x).isLt
  have hy := (c.get y).isLt
  have hcarry : (if 255 < (c.get x).toNat + (c.get y).toNat then 1 else 0 : Byte).toNat =
      ((c.get x).toNat + (c.get y).toNat) / 256 := by
    split
    · change 1 = _
      omega
    · change 0 = _
      omega
  have hyields := c.yields_set_set x
    (if 255 < (c.get x).toNat + (c.get y).toNat then 1 else 0) (c.get x + c.get y)
  rwa [hcarry, BitVec.toNat_add] at hyields

/-- Difference, and whether the first operand is the greater. -/
theorem yields_subtract : c.Yields (c.subtract x y) x
    ((256 - (c.get y).toNat + (c.get x).toNat) % 256)
    (if (c.get y).toNat < (c.get x).toNat then 1 else 0) := by
  have hgreater : (if c.get y < c.get x then 1 else 0 : Byte).toNat =
      if (c.get y).toNat < (c.get x).toNat then 1 else 0 := by
    simp only [BitVec.lt_def]
    split <;> rfl
  have hyields := c.yields_set_set x (if c.get y < c.get x then 1 else 0) (c.get x - c.get y)
  rwa [hgreater, BitVec.toNat_sub] at hyields

/-- Half and remainder. -/
theorem yields_shiftRight : c.Yields (c.shiftRight x) x ((c.get x).toNat / 2)
    ((c.get x).toNat % 2) := by
  have hhalf : (c.get x >>> 1).toNat = (c.get x).toNat / 2 := by
    rw [BitVec.toNat_ushiftRight, Nat.shiftRight_eq_div_pow]
  have hbit : (c.get x &&& 1).toNat = (c.get x).toNat % 2 := by
    rw [BitVec.toNat_and]
    exact Nat.and_one_is_mod _
  have hyields := c.yields_set_set x (c.get x &&& 1) (c.get x >>> 1)
  rwa [hbit, hhalf] at hyields

end Cpu

namespace Emulator

variable {δ : Type} [Screen δ] {e : Emulator δ} {w : Word}

/-- An instruction that does nothing but change the processor succeeds. -/
theorem exists_execute_of_change (op : Operation) {change : Cpu → Cpu}
    (htable : e.machine.table = some standardTable) (hw : w &&& op.row.mask = op.row.pattern)
    (hperform : ∀ s : Emulator δ, perform op w s = .ok () (s.mapCpu change)) :
    ∃ e', execute w e = .ok () e' ∧
      ∀ r, e'.machine.cpu.get r = (change e.machine.cpu).get r :=
  ⟨_, execute_of_perform htable (Word.operation?_eq_some_iff.mpr hw) (hperform _),
    get_complete op.row _⟩

end Emulator

section

variable {δ : Type} [Screen δ] {e : Emulator δ}

/-- The arithmetic instructions on all registers, the same or not, the flag register or not: they
succeed, compute from what the registers held before, and leave all other registers alone. -/
theorem arithmetic_of_execute (htable : e.machine.table = some standardTable) (w : Word) :
    let before (r : Register) : Nat := (e.machine.cpu.get r).toNat
    let a := before w.x
    let b := before w.y
    (w &&& 0xF00F = 0x8004 → ∃ e', Emulator.execute w e = .ok () e' ∧
      let after (r : Register) : Nat := (e'.machine.cpu.get r).toNat
      (w.x ≠ flagRegister → after w.x + 256 * after flagRegister = a + b) ∧
      (w.x = flagRegister → after flagRegister = (a + b) % 256) ∧
      ∀ r, r ≠ w.x → r ≠ flagRegister → after r = before r) ∧
    (w &&& 0xF00F = 0x8005 → ∃ e', Emulator.execute w e = .ok () e' ∧
      let after (r : Register) : Nat := (e'.machine.cpu.get r).toNat
      (w.x ≠ flagRegister → (after w.x : Int) = ((a : Int) - b) % 256 ∧
        after flagRegister = if b < a then 1 else 0) ∧
      (w.x = flagRegister → (after flagRegister : Int) = ((a : Int) - b) % 256) ∧
      ∀ r, r ≠ w.x → r ≠ flagRegister → after r = before r) ∧
    (w &&& 0xF00F = 0x8006 → ∃ e', Emulator.execute w e = .ok () e' ∧
      let after (r : Register) : Nat := (e'.machine.cpu.get r).toNat
      (w.x ≠ flagRegister → 2 * after w.x + after flagRegister = a ∧ after flagRegister ≤ 1) ∧
      (w.x = flagRegister → after flagRegister = a / 2) ∧
      ∀ r, r ≠ w.x → r ≠ flagRegister → after r = before r) ∧
    (w &&& 0xF000 = 0x7000 → ∃ e', Emulator.execute w e = .ok () e' ∧
      let after (r : Register) : Nat := (e'.machine.cpu.get r).toNat
      after w.x = (a + w.kk.toNat) % 256 ∧ ∀ r, r ≠ w.x → after r = before r) := by
  intro before a b
  refine ⟨fun hw => ?_, fun hw => ?_, fun hw => ?_, fun hw => ?_⟩
  · obtain ⟨e', hexecute, hget⟩ :=
      Emulator.exists_execute_of_change .add htable hw fun _ => rfl
    have hyields := (e.machine.cpu.yields_add w.x w.y).of_get hget
    refine ⟨e', hexecute, fun hx => ?_, fun hx => ?_, fun r hx hflag => ?_⟩
    · dsimp only
      rw [hyields.result, hyields.flag hx]
      exact Nat.mod_add_div (a + b) 256
    · rw [← hx]
      exact hyields.result
    · exact congrArg BitVec.toNat (hyields.other r hx hflag)
  · obtain ⟨e', hexecute, hget⟩ :=
      Emulator.exists_execute_of_change .subtract htable hw fun _ => rfl
    have hyields := (e.machine.cpu.yields_subtract w.x w.y).of_get hget
    have hb : b < 256 := (e.machine.cpu.get w.y).isLt
    have hresult : ((e'.machine.cpu.get w.x).toNat : Int) = ((a : Int) - b) % 256 := by
      have hnat : (e'.machine.cpu.get w.x).toNat = (256 - b + a) % 256 := hyields.result
      omega
    refine ⟨e', hexecute, fun hx => ⟨hresult, hyields.flag hx⟩, fun hx => ?_, fun r hx hflag => ?_⟩
    · rw [← hx]
      exact hresult
    · exact congrArg BitVec.toNat (hyields.other r hx hflag)
  · obtain ⟨e', hexecute, hget⟩ :=
      Emulator.exists_execute_of_change .shiftRight htable hw fun _ => rfl
    have hyields := (e.machine.cpu.yields_shiftRight w.x).of_get hget
    refine ⟨e', hexecute, fun hx => ?_, fun hx => ?_, fun r hx hflag => ?_⟩
    · dsimp only
      rw [hyields.result, hyields.flag hx]
      exact ⟨Nat.div_add_mod a 2, Nat.le_of_lt_succ (Nat.mod_lt a (by decide))⟩
    · rw [← hx]
      exact hyields.result
    · exact congrArg BitVec.toNat (hyields.other r hx hflag)
  · obtain ⟨e', hexecute, hget⟩ :=
      Emulator.exists_execute_of_change .addByte htable hw fun _ => rfl
    refine ⟨e', hexecute, ?_, fun r hx => ?_⟩
    · dsimp only
      rw [hget, Cpu.get_set_same, BitVec.toNat_add]
    · dsimp only
      rw [hget, Cpu.get_set_ne _ _ hx.symm]

/-- A register of 200 and a flag register of 100 are added, into the one and into the other. -/
theorem arithmetic_of_execute_flag : ∃ e e₁ e₂ : Emulator FrameBuffer,
    e.machine.table = some standardTable ∧
    e.machine.cpu.get 1 = 200 ∧ e.machine.cpu.get flagRegister = 100 ∧
    Emulator.execute 0x81F4 e = .ok () e₁ ∧
    (e₁.machine.cpu.get 1).toNat + 256 * (e₁.machine.cpu.get flagRegister).toNat = 200 + 100 ∧
    Emulator.execute 0x8F14 e = .ok () e₂ ∧
    (e₂.machine.cpu.get flagRegister).toNat = (100 + 200) % 256 := by
  let e : Emulator FrameBuffer :=
    { machine :=
        { cpu := (Cpu.set {} 1 200).set flagRegister 100
          display := FrameBuffer.blank 8 4
          keyboard := .latch 0
          audio := .counter {} }
      host := {} }
  obtain ⟨hadd, -⟩ := arithmetic_of_execute (e := e) rfl 0x81F4
  obtain ⟨e₁, hexecute, hsum, -⟩ := hadd (by decide)
  obtain ⟨hadd', -⟩ := arithmetic_of_execute (e := e) rfl 0x8F14
  obtain ⟨e₂, hexecute', -, hsum', -⟩ := hadd' (by decide)
  exact ⟨e, e₁, e₂, rfl, rfl, rfl, hexecute, hsum (by decide), hexecute', hsum' (by decide)⟩

end

end Chip8
