/-
  Saving registers in memory. A store puts the registers up to `x` from the index on, a load takes
  them back, and only stores of registers or of decimals write to memory, so whatever else is
  executed in between leaves them there (`memory_of_executeAll`). A load at the same index then
  gives every register its old value, wherever the bytes lie. An index below zero counts from the
  back, so the bytes may go on at the front; that no two of them share a cell (`HasRun.emod_ne`) is
  all that matters. The main statement is `restored_of_saved`.
-/
import Chip8.Proofs.Machine.Nesting
import Chip8.Proofs.Machine.Transfer

namespace Chip8

/-- The word writes to memory: a store of decimals or of registers. -/
def Word.IsStore (w : Word) : Prop := w &&& 0xF0FF = 0xF033 ∨ w &&& 0xF0FF = 0xF055

/-- The memory holds the registers up to `x`, from an address on. -/
def Memory.HoldsRegisters (m : Memory) (start : Int) (x : Register) (c : Cpu) : Prop :=
  ∀ r : Register, r ≤ x → m.load (start + r.val) = .ok (c.get r)

/-- Two memories of one size differ in a run of bytes at most. -/
structure Memory.DiffersWithin (start : Int) (count : Nat) (m m' : Memory) : Prop where
  size : m'.size = m.size
  /-- An address that names no cell of the run. -/
  load : ∀ address : Int, (∀ k < count, address % m.size ≠ (start + k) % m.size) →
    m'.load address = m.load address

/-- So many addresses from `start` on name as many cells, from the front or from the back. -/
structure Memory.HasRun (m : Memory) (start : Int) (count : Nat) : Prop where
  size_le : m.size ≤ greatestIndex
  le_start : -(m.size : Int) ≤ start
  stop_le : start + count ≤ m.size
  count_le : count ≤ m.size

namespace Memory

variable {m : Memory} {start : Int} {count : Nat}

/-- No two addresses of a run name the same cell. -/
theorem HasRun.emod_ne (h : m.HasRun start count) {j k : Nat} (hj : j < count) (hk : k < count)
    (hne : j ≠ k) : (start + j) % m.size ≠ (start + k) % m.size := by
  intro hsame
  have hcount := h.count_le
  have hdvd : (m.size : Int) ∣ (start + j) - (start + k) :=
    Int.dvd_of_emod_eq_zero (Int.emod_eq_emod_iff_emod_sub_eq_zero.mp hsame)
  have hzero := Int.eq_zero_of_dvd_of_natAbs_lt_natAbs hdvd (by omega)
  omega

theorem HasRun.of_succ (h : m.HasRun start (count + 1)) : m.HasRun start count where
  size_le := h.size_le
  le_start := h.le_start
  stop_le := by
    have := h.stop_le
    omega
  count_le := Nat.le_of_succ_le h.count_le

end Memory

theorem Register.ofNat_val (r : Register) : Register.ofNat r.val = r :=
  Fin.ext (Nat.mod_eq_of_lt r.isLt)

namespace Emulator

variable {δ : Type} {e e' : Emulator δ} {w : Word} {ws : List Word}

theorem toNat_decimalDigit {value : Nat} (h : value < 256) :
    (decimalDigit value 0).toNat = value / 100 ∧ (decimalDigit value 1).toNat = value % 100 / 10 ∧
      (decimalDigit value 2).toNat = value % 10 := by
  simp only [decimalDigit, BitVec.toNat_ofNat]
  omega

/-! ## Stores and loads of a run -/

/-- Acts that store byte after byte at the addresses of a run put all of them there. -/
theorem exists_forM_store {act : Nat → Act (Emulator δ) Unit} {start : Int} {bytes : Nat → Byte}
    {count : Nat} (hrun : e.machine.memory.HasRun start count)
    (hact : ∀ k < count, ∀ memory, act k (e.withMemory memory) =
      store (start + k) (bytes k) (e.withMemory memory)) :
    ∃ memory, (List.range count).forM act e = .ok () (e.withMemory memory) ∧
      e.machine.memory.DiffersWithin start count memory ∧
      ∀ k < count, memory.load (start + k) = .ok (bytes k) := by
  induction count with
  | zero => exact ⟨e.machine.memory, rfl, ⟨rfl, fun _ _ => rfl⟩, fun k hk => absurd hk (by omega)⟩
  | succ count ih =>
    obtain ⟨memory, hloop, hdiffers, hheld⟩ := ih hrun.of_succ fun k hk => hact k (by omega)
    have hsize := hdiffers.size
    have hfrom : -(memory.size : Int) ≤ start + count := by
      have := hrun.le_start
      omega
    have hto : start + count < memory.size := by
      have := hrun.stop_le
      omega
    have hsize_le : memory.size ≤ greatestIndex := hsize ▸ hrun.size_le
    obtain ⟨memory', hstore⟩ := Memory.exists_store hfrom hto hsize_le (bytes count)
    refine ⟨memory', ?_, ⟨(Memory.size_store hstore).trans hsize, fun address haddress => ?_⟩,
      fun k hk => ?_⟩
    · rw [Act.forM_range_succ, Act.bind_ok hloop, hact count (by omega), store_of_ok hstore]
    · rw [Memory.load_store_of_ne hstore (by rw [hsize]; exact haddress count (by omega))]
      exact hdiffers.load address fun k hk => haddress k (by omega)
    · obtain hk | rfl := Nat.lt_succ_iff_lt_or_eq.mp hk
      · have hne := hrun.emod_ne (j := k) (k := count) (by omega) (by omega) (by omega)
        rw [Memory.load_store_of_ne hstore (by rwa [hsize])]
        exact hheld k hk
      · exact Memory.load_store_same hstore hsize_le hfrom hto rfl

variable [Screen δ]

/-- An operation that stores a run of bytes from the index on. -/
theorem execute_store {op : Operation} {act : Nat → Act (Emulator δ) Unit} (bytes : Nat → Byte)
    {count : Nat} (htable : e.machine.table = some standardTable) (hop : w.operation? = some op)
    (hmoves : op.row.advances = true)
    (hrun : e.machine.memory.HasRun e.machine.cpu.i count)
    (hperform : perform op w (e.announce op w) = (List.range count).forM act (e.announce op w))
    (hact : ∀ k memory, act k ((e.announce op w).withMemory memory) =
      store (e.machine.cpu.i + k) (bytes k) ((e.announce op w).withMemory memory)) :
    ∃ e', execute w e = .ok () e' ∧
      e.machine.memory.DiffersWithin e.machine.cpu.i count e'.machine.memory ∧
      (∀ k < count, e'.machine.memory.load (e.machine.cpu.i + k) = .ok (bytes k)) ∧
      e'.machine.cpu = e.machine.cpu.advance := by
  obtain ⟨memory, hloop, hdiffers, hheld⟩ :=
    exists_forM_store (e := e.announce op w) hrun fun k _ => hact k
  refine ⟨_, execute_of_perform htable hop (hperform.trans hloop), ?_⟩
  rw [complete, if_pos hmoves]
  exact ⟨hdiffers, hheld, rfl⟩

/-! ## What lies in between -/

theorem memory_of_execute (htable : e.machine.table = some standardTable) (hw : ¬ w.IsStore)
    (h : execute w e = .ok () e') : e'.machine.memory = e.machine.memory := by
  have hframe := framedBy_of_execute htable h
  have hcells : e'.machine.memory.cells = e.machine.memory.cells := by
    apply Array.ext_getElem?
    intro a
    by_contra hne
    exact hw ((hframe.byte a hne).imp And.left And.left)
  exact congrArg Memory.mk hcells

theorem memory_of_executeAll (htable : e.machine.table = some standardTable)
    (hws : ∀ w ∈ ws, ¬ w.IsStore) (h : executeAll ws e = .ok () e') :
    e'.machine.memory = e.machine.memory := by
  induction ws generalizing e with
  | nil =>
    cases h
    rfl
  | cons w rest ih =>
    obtain ⟨e₁, hw, hrest⟩ := executeAll_cons_iff.mp h
    have hlater := ih (table_of_execute htable hw)
      (fun w hw => hws w (List.mem_cons_of_mem _ hw)) hrest
    exact hlater.trans (memory_of_execute htable (hws w List.mem_cons_self) hw)

/-! ## Saving and restoring -/

/-- A store of a run puts the registers into memory. -/
theorem saved_of_execute (htable : e.machine.table = some standardTable)
    (hw : w &&& 0xF0FF = 0xF055)
    (hrun : e.machine.memory.HasRun e.machine.cpu.i (w.x.val + 1)) :
    ∃ e', execute w e = .ok () e' ∧
      e'.machine.memory.HoldsRegisters e.machine.cpu.i w.x e.machine.cpu ∧
      e.machine.memory.DiffersWithin e.machine.cpu.i (w.x.val + 1) e'.machine.memory ∧
      e'.machine.cpu = e.machine.cpu.advance := by
  have hop : w.operation? = some .storeRegisters := Word.operation?_eq_some_iff.mpr hw
  obtain ⟨e', hexecute, hdiffers, hheld, hcpu⟩ :=
    execute_store (fun k => e.machine.cpu.get (Register.ofNat k)) htable hop rfl hrun rfl
      fun _ _ => rfl
  refine ⟨e', hexecute, fun r hr => ?_, hdiffers, hcpu⟩
  rw [hheld r.val (Nat.lt_succ_of_le hr), Register.ofNat_val]

/-- A load finds the registers where they were saved, whatever the other registers are now. -/
theorem restored_of_execute {saved : Cpu} (htable : e.machine.table = some standardTable)
    (hw : w &&& 0xF0FF = 0xF065)
    (hholds : e.machine.memory.HoldsRegisters e.machine.cpu.i w.x saved) :
    ∃ e', execute w e = .ok () e' ∧
      (∀ r : Register, r ≤ w.x → e'.machine.cpu.get r = saved.get r) ∧
      (∀ r : Register, w.x < r → e'.machine.cpu.get r = e.machine.cpu.get r) ∧
      e'.machine.memory = e.machine.memory ∧ e'.machine.cpu.i = e.machine.cpu.i := by
  have hop : w.operation? = some .loadRegisters := Word.operation?_eq_some_iff.mpr hw
  let bytes (k : Nat) : Byte := saved.get (Register.ofNat k)
  let states (k : Nat) := (e.announce .loadRegisters w).withRegisters k bytes
  have hnext : ∀ k < w.x.val + 1, loadRegister k (states k) = .ok () (states (k + 1)) := by
    intro k hk
    have hval : (Register.ofNat k).val = k := Nat.mod_eq_of_lt (by omega)
    have hload := hholds (Register.ofNat k) (by rw [Fin.le_def]; omega)
    rw [hval] at hload
    rw [loadRegister_of_ok (by rwa [memory_withRegisters, i_withRegisters])]
    exact congrArg (EStateM.Result.ok ()) (set_withRegisters (by omega) bytes)
  have hloop : perform .loadRegisters w (states 0) = .ok () (states (w.x.val + 1)) :=
    Act.forM_range_ok loadRegister states (w.x.val + 1) hnext
  have hstart : states 0 = e.announce .loadRegisters w := withRegisters_zero bytes
  rw [hstart] at hloop
  have hget (r : Register) : (e.machine.cpu.withRegisters (w.x.val + 1) bytes).get r =
      if r.val < w.x.val + 1 then bytes r.val else e.machine.cpu.get r :=
    Cpu.readCell_filled ..
  refine ⟨_, execute_of_perform htable hop hloop, fun r hr => ?_, fun r hr => ?_, rfl, rfl⟩
  · exact ((hget r).trans (if_pos (Nat.lt_succ_of_le hr))).trans
      (congrArg saved.get (Register.ofNat_val r))
  · exact (hget r).trans (if_neg (Nat.not_lt_of_le hr))

/-- A store of decimals puts the three digits of a register into memory. -/
theorem digits_of_execute (htable : e.machine.table = some standardTable)
    (hw : w &&& 0xF0FF = 0xF033) (hrun : e.machine.memory.HasRun e.machine.cpu.i 3) :
    ∃ e' a b c, execute w e = .ok () e' ∧
      e'.machine.memory.load e.machine.cpu.i = .ok a ∧
      e'.machine.memory.load (e.machine.cpu.i + 1) = .ok b ∧
      e'.machine.memory.load (e.machine.cpu.i + 2) = .ok c ∧
      a.toNat ≤ 9 ∧ b.toNat ≤ 9 ∧ c.toNat ≤ 9 ∧
      100 * a.toNat + 10 * b.toNat + c.toNat = (e.machine.cpu.get w.x).toNat ∧
      e.machine.memory.DiffersWithin e.machine.cpu.i 3 e'.machine.memory := by
  have hop : w.operation? = some .storeDecimal := Word.operation?_eq_some_iff.mpr hw
  obtain ⟨e', hexecute, hdiffers, hheld, -⟩ :=
    execute_store (decimalDigit (e.machine.cpu.get w.x).toNat) htable hop rfl hrun
      (storeDecimal_eq_forM w.x (e.announce .storeDecimal w)) fun _ _ => rfl
  have hfirst := hheld 0 (by decide)
  rw [Int.natCast_zero, Int.add_zero] at hfirst
  have hlt := (e.machine.cpu.get w.x).isLt
  obtain ⟨hhundreds, htens, hones⟩ := toNat_decimalDigit hlt
  refine ⟨e', _, _, _, hexecute, hfirst, hheld 1 (by decide), hheld 2 (by decide), ?_, ?_, ?_, ?_,
    hdiffers⟩
  · omega
  · omega
  · omega
  · omega

/-- Registers that are saved within the memory, from the front or from the back, are there, and
nothing else changes; whatever is executed then without writing to memory, and with the index in its
place again at the end, a load of as many registers gives them their old values and leaves the
others, the memory and the index alone. A store of decimals within the memory puts the three digits
of a register there. -/
theorem restored_of_saved (htable : e.machine.table = some standardTable)
    (hsize : e.machine.memory.size ≤ greatestIndex)
    (hfrom : -(e.machine.memory.size : Int) ≤ e.machine.cpu.i) :
    (∀ save : Word, save &&& 0xF0FF = 0xF055 → save.x.val < e.machine.memory.size →
      e.machine.cpu.i + save.x.val < e.machine.memory.size →
      ∃ e₁, execute save e = .ok () e₁ ∧
        e₁.machine.memory.HoldsRegisters e.machine.cpu.i save.x e.machine.cpu ∧
        e.machine.memory.DiffersWithin e.machine.cpu.i (save.x.val + 1) e₁.machine.memory ∧
        e₁.machine.cpu = e.machine.cpu.advance ∧
        ∀ ws e₂ (load : Word), (∀ w ∈ ws, ¬ w.IsStore) → executeAll ws e₁ = .ok () e₂ →
          e₂.machine.cpu.i = e.machine.cpu.i → load &&& 0xF0FF = 0xF065 → load.x = save.x →
          ∃ e₃, execute load e₂ = .ok () e₃ ∧
            (∀ r : Register, r ≤ save.x → e₃.machine.cpu.get r = e.machine.cpu.get r) ∧
            (∀ r : Register, save.x < r → e₃.machine.cpu.get r = e₂.machine.cpu.get r) ∧
            e₃.machine.memory = e₂.machine.memory ∧ e₃.machine.cpu.i = e₂.machine.cpu.i) ∧
    ∀ w : Word, w &&& 0xF0FF = 0xF033 → 2 < e.machine.memory.size →
      e.machine.cpu.i + 2 < e.machine.memory.size →
      ∃ e₁ a b c, execute w e = .ok () e₁ ∧
        e₁.machine.memory.load e.machine.cpu.i = .ok a ∧
        e₁.machine.memory.load (e.machine.cpu.i + 1) = .ok b ∧
        e₁.machine.memory.load (e.machine.cpu.i + 2) = .ok c ∧
        a.toNat ≤ 9 ∧ b.toNat ≤ 9 ∧ c.toNat ≤ 9 ∧
        100 * a.toNat + 10 * b.toNat + c.toNat = (e.machine.cpu.get w.x).toNat ∧
        e.machine.memory.DiffersWithin e.machine.cpu.i 3 e₁.machine.memory := by
  refine ⟨fun save hsave hcount hroom => ?_, fun w hw hcount hroom =>
    digits_of_execute htable hw ⟨hsize, hfrom, by omega, hcount⟩⟩
  obtain ⟨e₁, hexecute, hholds, hdiffers, hcpu⟩ :=
    saved_of_execute htable hsave ⟨hsize, hfrom, by omega, hcount⟩
  refine ⟨e₁, hexecute, hholds, hdiffers, hcpu, fun ws e₂ load hws hrun hi hload hx => ?_⟩
  have htable₁ := table_of_execute htable hexecute
  have hholds₂ : e₂.machine.memory.HoldsRegisters e₂.machine.cpu.i load.x e.machine.cpu := by
    rw [memory_of_executeAll htable₁ hws hrun, hi, hx]
    exact hholds
  have hrestored := restored_of_execute (table_of_executeAll htable₁ hrun) hload hholds₂
  rwa [hx] at hrestored

/-- Three registers are saved at the end of the memory, one of them and the index change, and the
index comes back. -/
theorem restored_of_saved_end : ∃ e e₁ e₂ e₃ : Emulator FrameBuffer,
    e.machine.cpu.i + 2 = 0xFFF ∧ execute 0xF255 e = .ok () e₁ ∧
    executeAll [0x6105, 0xA300, 0xAFFD] e₁ = .ok () e₂ ∧ e₂.machine.cpu.get 1 = 5 ∧
    execute 0xF265 e₂ = .ok () e₃ ∧ e₃.machine.cpu.get 1 = 2 := by
  let e : Emulator FrameBuffer :=
    { machine :=
        { cpu := ({ i := 0xFFD } : Cpu).set 1 2
          display := FrameBuffer.blank 8 4
          keyboard := .latch 0
          audio := .counter {} }
      host := {} }
  have hsize : e.machine.memory.size = 0x1000 := Memory.size_ofSize _
  obtain ⟨e₁, hsave, -, -, -, hload⟩ :=
    (restored_of_saved rfl (by rw [hsize]; decide) (by rw [hsize]; decide)).1 0xF255 (by decide)
      (by rw [hsize]; decide) (by rw [hsize]; decide)
  have htable₁ : e₁.machine.table = some standardTable := table_of_execute rfl hsave
  have hset : (0x6105 : Word).operation? = some .loadByte :=
    Word.operation?_eq_some_iff.mpr (by decide)
  have hpoint (w : Word) (hw : w &&& 0xF000 = 0xA000) : w.operation? = some .loadIndex :=
    Word.operation?_eq_some_iff.mpr hw
  obtain ⟨e₂, hrun, hi, hone⟩ : ∃ e₂, executeAll [0x6105, 0xA300, 0xAFFD] e₁ = .ok () e₂ ∧
      e₂.machine.cpu.i = 0xFFD ∧ e₂.machine.cpu.get 1 = 5 :=
    ⟨_, executeAll_cons_iff.mpr ⟨_, execute_of_perform htable₁ hset rfl,
      executeAll_cons_iff.mpr ⟨_, execute_of_perform htable₁ (hpoint 0xA300 (by decide)) rfl,
      executeAll_cons_iff.mpr ⟨_, execute_of_perform htable₁ (hpoint 0xAFFD (by decide)) rfl,
      rfl⟩⟩⟩, rfl, Cpu.get_set_same e₁.machine.cpu 1 5⟩
  obtain ⟨e₃, hexecute, hrestored, -⟩ :=
    hload _ e₂ 0xF265 (by simp [Word.IsStore]) hrun hi (by decide) (by decide)
  exact ⟨e, e₁, e₂, e₃, rfl, hsave, hrun, hone, hexecute,
    (hrestored 1 (by decide)).trans (Cpu.get_set_same _ 1 2)⟩

/-- An index that names no byte ends a store of registers before anything is saved. -/
theorem execute_storeRegisters_error (htable : e.machine.table = some standardTable)
    (hw : w &&& 0xF0FF = 0xF055) {fault : Fault}
    (hstore : ∀ value, e.machine.memory.store e.machine.cpu.i value = .error fault) :
    execute w e = .error fault (e.announce .storeRegisters w) := by
  have hop : w.operation? = some .storeRegisters := Word.operation?_eq_some_iff.mpr hw
  have hfirst : storeRegister 0 (e.announce .storeRegisters w) =
      .error fault (e.announce .storeRegisters w) := by
    refine tryMemory_of_error (·.store (e.machine.cpu.i + (0 : Nat)) _) ?_
    rw [Int.natCast_zero, Int.add_zero]
    exact hstore _
  rw [execute_of_operation? htable hop]
  exact Act.bind_error (Act.forM_range_error storeRegister (Nat.succ_pos w.x.val) rfl hfirst)

/-- An index too far below zero names no byte, so that not one register is saved. -/
theorem exists_unsaved : ∃ e e' : Emulator FrameBuffer, e.machine.table = some standardTable ∧
    e.machine.memory = .ofSize Memory.standardSize ∧
    e.machine.cpu.i + (0xF055 : Word).x.val ≤ 0xFFF ∧
    execute 0xF055 e = .error .cellIndex e' ∧ e'.machine = e.machine := by
  let e : Emulator FrameBuffer :=
    { machine :=
        { cpu := { i := -5000 }
          display := FrameBuffer.blank 8 4
          keyboard := .latch 0
          audio := .counter {} }
      host := {} }
  have hstore (value : Byte) : e.machine.memory.store e.machine.cpu.i value =
      .error .cellIndex := by
    have hsize : e.machine.memory.size = 0x1000 := Memory.size_ofSize _
    rw [Memory.store, cellAt_eq_indexFault _ (by rw [hsize]; decide)]
    rfl
  exact ⟨e, _, rfl, rfl, by decide, execute_storeRegisters_error rfl (by decide) hstore, rfl⟩

end Emulator

end Chip8
