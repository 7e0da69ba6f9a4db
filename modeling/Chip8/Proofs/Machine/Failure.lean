/-
  When a step fails. `Machine.fault?` works out from the machine before a step how the step
  fails, if it does; `StepFails` lists the ways one by one, by the word at the program counter.
  `step_of_isReachable` says that on every machine that a run can lead to a step fails in just
  these ways, and that a step that succeeds goes to addresses and coordinates inside the memory
  and the display. A window with cells too large to paint has a failure of its own: the step
  fails at the first dot it draws (`exists_step_paint`).
-/
import Chip8.Proofs.Machine.Addresses
import Chip8.Proofs.Machine.Creation

namespace Chip8

namespace Machine

/-- How a step fails, if it does. -/
def fault? (m : Machine Display) : Option Fault :=
  match m.fetch with
  | .error fault => some fault
  | .ok w =>
    match w.operation? with
    | none => some (.unknownInstruction w)
    | some op => op.fault? w m

/-- The ways in which a step fails: at the end of the memory, at a word of no row, without a
stack slot, on a run of bytes past the end of the memory, and at a dot that cannot be painted. -/
inductive StepFails (m : Machine Display) : Fault → Prop
  | fetch (h : 0xFFF ≤ m.cpu.pc) : m.StepFails .cellIndex
  | unknown {w : Word} (hw : m.fetch = .ok w)
    (h : ∀ row ∈ standardOpcodes, row.isMatch w = false) : m.StepFails (.unknownInstruction w)
  | call {w : Word} (hw : m.fetch = .ok w) (h : w &&& 0xF000 = 0x2000)
    (hsp : m.cpu.sp < -16 ∨ m.cpu.sp = 16) : m.StepFails (indexFault m.cpu.sp .stackWrite)
  | ret (hw : m.fetch = .ok 0x00EE) (hsp : m.cpu.sp ≤ -16) :
    m.StepFails (indexFault (m.cpu.sp - 1) .stackRead)
  | storeDecimal {w : Word} (hw : m.fetch = .ok w) (h : w &&& 0xF0FF = 0xF033)
    (hi : 4093 < m.cpu.i) : m.StepFails .cellIndex
  | storeRegisters {w : Word} (hw : m.fetch = .ok w) (h : w &&& 0xF0FF = 0xF055)
    (hi : 4095 < m.cpu.i + w.x.val) : m.StepFails .cellIndex
  | loadRegisters {w : Word} (hw : m.fetch = .ok w) (h : w &&& 0xF0FF = 0xF065)
    (hi : 4095 < m.cpu.i + w.x.val) : m.StepFails .cellIndex
  | draw {w : Word} (hw : m.fetch = .ok w) (h : w &&& 0xF000 = 0xD000)
    (hrows : 0 < m.spriteRows w) (hi : 4096 < m.cpu.i + m.spriteRows w)
    (hpaint : m.display.isOversized = true → m.spriteDots w = []) : m.StepFails .cellIndex
  | paint {w : Word} (hw : m.fetch = .ok w) (h : w &&& 0xF000 = 0xD000)
    (hscale : m.display.isOversized = true) (hdots : m.spriteDots w ≠ []) :
    m.StepFails .numberTooLarge

variable {m : Machine Display} {limit : Int} {w : Word} {fault : Fault}

theorem IsBounded.runFault?_iff (hm : m.IsBounded limit) {count : Nat} :
    m.runFault? count = some fault ↔ 0x1000 < m.cpu.i + count ∧ fault = .cellIndex := by
  unfold runFault?
  rw [hm.memory]
  change (if (0x1000 : Int) < _ then _ else _) = _ ↔ _
  split <;> simp_all [eq_comm]

theorem IsBounded.drawFault?_iff (hm : m.IsBounded limit) :
    m.drawFault? w = some fault ↔
      (m.display.isOversized = true ∧ m.spriteDots w ≠ [] ∧ fault = .numberTooLarge) ∨
      ((m.display.isOversized = true → m.spriteDots w = []) ∧ 0 < m.spriteRows w ∧
        0x1000 < m.cpu.i + m.spriteRows w ∧ fault = .cellIndex) := by
  have hread : m.readableRows w < m.spriteRows w ↔
      0 < m.spriteRows w ∧ 0x1000 < m.cpu.i + m.spriteRows w := by
    have hsize := hm.memory
    have hi := hm.cpu.i_nonneg
    unfold Memory.standardSize at hsize
    unfold readableRows base
    omega
  unfold drawFault?
  by_cases hover : m.display.isOversized = true ∧ m.spriteDots w ≠ []
  · rw [if_pos hover]
    constructor
    · rintro ⟨⟩
      exact Or.inl ⟨hover.1, hover.2, rfl⟩
    · rintro (⟨-, -, rfl⟩ | ⟨hdots, -⟩)
      · rfl
      · exact absurd (hdots hover.1) hover.2
  · rw [if_neg hover]
    have hdots : m.display.isOversized = true → m.spriteDots w = [] := fun h =>
      by_contra fun hne => hover ⟨h, hne⟩
    split
    · rename_i hlt
      constructor
      · rintro ⟨⟩
        exact Or.inr ⟨hdots, (hread.mp hlt).1, (hread.mp hlt).2, rfl⟩
      · rintro (⟨h, h', -⟩ | ⟨-, -, -, rfl⟩)
        · exact absurd (hdots h) h'
        · rfl
    · rename_i hlt
      constructor
      · rintro ⟨⟩
      · rintro (⟨h, h', -⟩ | ⟨-, h, h', -⟩)
        · exact absurd (hdots h) h'
        · exact absurd (hread.mpr ⟨h, h'⟩) hlt

theorem fault?_of_operation? {op : Operation} (hw : m.fetch = .ok w)
    (hop : w.operation? = some op) : m.fault? = op.fault? w m := by
  simp only [fault?, hw, hop]

theorem IsBounded.stepFails_of_fault? (hm : m.IsBounded limit) (hw : m.fetch = .ok w)
    {op : Operation} (hop : w.operation? = some op) (h : op.fault? w m = some fault) :
    m.StepFails fault := by
  have hbits := Word.operation?_eq_some_iff.mp hop
  cases op
  case ret =>
    cases Word.operation?_eq_ret_iff.mp hop
    change m.cpu.retFault? = some fault at h
    unfold Cpu.retFault? at h
    split at h <;> cases h
    exact .ret hw (by assumption)
  case call =>
    change m.cpu.callFault? = some fault at h
    unfold Cpu.callFault? at h
    split at h <;> cases h
    exact .call hw hbits (by assumption)
  case storeDecimal =>
    obtain ⟨hi, rfl⟩ := hm.runFault?_iff.mp h
    exact .storeDecimal hw hbits (by omega)
  case storeRegisters =>
    obtain ⟨hi, rfl⟩ := hm.runFault?_iff.mp h
    exact .storeRegisters hw hbits (by omega)
  case loadRegisters =>
    obtain ⟨hi, rfl⟩ := hm.runFault?_iff.mp h
    exact .loadRegisters hw hbits (by omega)
  case draw =>
    obtain ⟨hscale, hdots, rfl⟩ | ⟨hpaint, hrows, hi, rfl⟩ := hm.drawFault?_iff.mp h
    · exact .paint hw hbits hscale hdots
    · exact .draw hw hbits hrows hi hpaint
  all_goals cases h

theorem IsBounded.fault?_iff (hm : m.IsBounded 0x1002) :
    m.fault? = some fault ↔ m.StepFails fault := by
  constructor
  · intro h
    cases hf : m.fetch with
    | error fetchFault =>
      simp only [fault?, hf, Option.some.injEq] at h
      subst h
      have hpc : 0xFFF ≤ m.cpu.pc := by
        by_contra hpc
        rw [hm.fetch_of_lt (by omega)] at hf
        cases hf
      rw [hm.fetch_of_le hpc] at hf
      cases hf
      exact .fetch hpc
    | ok w =>
      cases hop : w.operation? with
      | none =>
        simp only [fault?, hf, hop, Option.some.injEq] at h
        subst h
        exact .unknown hf (Word.operation?_eq_none_iff_rows.mp hop)
      | some op =>
        rw [fault?_of_operation? hf hop] at h
        exact hm.stepFails_of_fault? hf hop h
  · intro h
    have hbits {w : Word} (op : Operation) (hw : m.fetch = .ok w)
        (h : w &&& op.row.mask = op.row.pattern) : m.fault? = op.fault? w m :=
      fault?_of_operation? hw (Word.operation?_eq_some_iff.mpr h)
    cases h with
    | fetch h => simp only [fault?, hm.fetch_of_le h]
    | unknown hw h => simp only [fault?, hw, Word.operation?_eq_none_iff_rows.mpr h]
    | call hw h hsp => exact (hbits .call hw h).trans (if_pos hsp)
    | ret hw hsp => exact (hbits .ret hw rfl).trans (if_pos hsp)
    | storeDecimal hw h hi =>
      exact (hbits .storeDecimal hw h).trans (hm.runFault?_iff.mpr ⟨by omega, rfl⟩)
    | storeRegisters hw h hi =>
      exact (hbits .storeRegisters hw h).trans (hm.runFault?_iff.mpr ⟨by omega, rfl⟩)
    | loadRegisters hw h hi =>
      exact (hbits .loadRegisters hw h).trans (hm.runFault?_iff.mpr ⟨by omega, rfl⟩)
    | draw hw h hrows hi hpaint =>
      exact (hbits .draw hw h).trans
        (hm.drawFault?_iff.mpr (Or.inr ⟨hpaint, hrows, hi, rfl⟩))
    | paint hw h hscale hdots =>
      exact (hbits .draw hw h).trans (hm.drawFault?_iff.mpr (Or.inl ⟨hscale, hdots, rfl⟩))

end Machine

namespace Emulator

variable {e : Emulator Display} {fault : Fault}

theorem step_error_iff (hm : e.machine.IsBounded 0x1002)
    (hcount : e.machine.display.IsCountable) :
    (∃ e', step e = .error fault e') ↔ e.machine.fault? = some fault := by
  cases hf : e.machine.fetch with
  | error fetchFault =>
    rw [step_of_fetch_error hf]
    simp [Machine.fault?, hf]
  | ok w =>
    rw [step_of_fetch hf]
    cases hop : w.operation? with
    | none =>
      rw [Act.bind_error (execute_of_none hm.table hop)]
      simp [Machine.fault?, hf, hop]
    | some op =>
      rw [Machine.fault?_of_operation? hf hop]
      cases hfault : op.fault? w e.machine with
      | none =>
        obtain ⟨e', he⟩ := execute_of_fault?_none hm hcount hop hfault
        rw [Act.bind_ok he]
        constructor
        · rintro ⟨_, ⟨⟩⟩
        · rintro ⟨⟩
      | some opFault =>
        obtain ⟨e', he, -⟩ := execute_of_fault? hm hcount hop hfault
        rw [Act.bind_error he]
        simp

/-- A machine at a word of no row. -/
theorem exists_unknown : ∃ (e : Emulator Display) (host' : Host), Machine.create
      { display := Display.bitmap (FrameBuffer.blank 8 4), rom := [0x50, 0x00] } {} = .ok e host' ∧
    e.IsReachable ∧ e.machine.fetch = .ok 0x5000 := by
  have hblank : FrameBuffer.blank? 8 4 = .ok (FrameBuffer.blank 8 4) := rfl
  obtain ⟨e, host', h, hmemory, -⟩ := Machine.exists_create
    { display := Display.bitmap (FrameBuffer.blank 8 4), rom := [0x50, 0x00] } {} rfl rfl rfl
    (by decide)
  exact ⟨e, host', h, ⟨_, _, host', e, [], Display.isCountable_of_cells?_eq_some rfl
      (FrameBuffer.isCountable_of_blank? hblank), h, rfl⟩,
    (Machine.fresh_of_create h).fetch hmemory (by decide) (by decide)⟩

/-- A program that jumps to the last byte of the memory. After one step there is no word. -/
theorem exists_jump_past_end (categories : Categories) : ∃ (e e₁ : Emulator Display) (host' : Host),
    Machine.create { display := Display.bitmap (FrameBuffer.blank 8 4), rom := [0x1F, 0xFF] }
      { categories } = .ok e host' ∧
    e.IsReachable ∧ step e = .ok 0x1FFF e₁ ∧ (∃ message, e₁.host = e.host.logged "cpu" message) ∧
    e₁.machine.cpu.pc = 0xFFF ∧ e₁.machine.fetch = .error .cellIndex := by
  have hblank : FrameBuffer.blank? 8 4 = .ok (FrameBuffer.blank 8 4) := rfl
  obtain ⟨e, host', h, hmemory, -⟩ := Machine.exists_create
    { display := Display.bitmap (FrameBuffer.blank 8 4), rom := [0x1F, 0xFF] } { categories } rfl
    rfl rfl (by decide)
  have hfresh := Machine.fresh_of_create h
  have hfetch : e.machine.fetch = .ok 0x1FFF := hfresh.fetch hmemory (by decide) (by decide)
  have hop : Word.operation? 0x1FFF = some .jump := by decide
  have hjump : perform .jump 0x1FFF (e.announce .jump 0x1FFF) =
      .ok () ((e.announce .jump 0x1FFF).mapCpu (·.jump 0xFFF)) := rfl
  have hstep := step_of_perform hfresh.table hfetch hop hjump
  have hsound := keeps_step e hfresh.isSound
  rw [hstep] at hsound
  exact ⟨e, _, host', h, ⟨_, _, host', e, [], Display.isCountable_of_cells?_eq_some rfl
      (FrameBuffer.isCountable_of_blank? hblank), h, rfl⟩,
    hstep, ⟨_, rfl⟩, rfl, hsound.bounded.fetch_of_le (Int.le_refl 0xFFF)⟩

/-- A step of a reachable machine fails in the listed ways only, and in each of them. A step that
succeeds goes to addresses inside the memory only: with another memory that holds the same bytes
there it does the same. And it goes to coordinates on the display only: it does the same behind
a guard that refuses all others. -/
theorem step_of_isReachable (h : e.IsReachable) :
    (∀ fault, (∃ e', step e = .error fault e') ↔ e.machine.StepFails fault) ∧
    ∀ w e', step e = .ok w e' →
      (∀ a ∈ e.machine.addresses w, 0 ≤ a ∧ a ≤ 4095) ∧
      (∀ memory : Memory, 4096 ≤ memory.size → memory.size ≤ greatestIndex →
        (∀ a ∈ e.machine.addresses w, memory.load a = e.machine.memory.load a) →
        step (e.withMemory memory) =
          .ok w (e'.withMemory (memory.patched (e.machine.addresses w) e'.machine.memory))) ∧
      step e.guarded = .ok w e'.guarded := by
  have hm := h.isBounded
  have hcount := h.isCountable
  refine ⟨fun fault => (step_error_iff hm hcount).trans hm.fault?_iff, fun w e' hstep => ?_⟩
  refine ⟨fun a ha => ?_, fun memory hsize hindex hsame => ?_, ?_⟩
  · have hrange := mem_addresses hm hcount hstep a ha
    unfold Memory.standardSize at hrange
    omega
  · exact step_withMemory hm hcount hstep hsize hindex hsame
  · rw [step_guarded hm.table, hstep]
    rfl

/-- A step of such a machine fails at a word of no row. -/
theorem step_of_isReachable_unknown : ∃ e : Emulator Display, e.IsReachable ∧
    ∃ e', step e = .error (.unknownInstruction 0x5000) e' := by
  obtain ⟨e, host', h, hreach, hfetch⟩ := exists_unknown
  exact ⟨e, hreach, ((step_of_isReachable hreach).1 _).mpr (.unknown hfetch (by decide))⟩

end Emulator

/-! ## Enormous cells -/

/-- A window whose cells are too large to paint. -/
def Window.oversized : Window := ofScale Binary64.overflowBound

namespace Emulator

/-- In such a window a program that draws the first glyph is set up like any other. -/
theorem exists_oversized : ∃ (e : Emulator Display) (host' : Host),
    Machine.create { display := .window Window.oversized, rom := [0xD0, 0x05] } {} =
      .ok e host' ∧
    e.IsReachable ∧ e.machine.cpu = {} ∧ e.machine.fetch = .ok 0xD005 ∧
    e.machine.display.isOversized = true ∧
    e.machine.display.cells? = some (FrameBuffer.blank 64 32) ∧
    ∃ rest, e.machine.spriteDots 0xD005 = (0, 0) :: (1, 0) :: rest := by
  obtain ⟨host, hpower⟩ : ∃ host, Screen.powerOn (Display.window Window.oversized, ({} : Host)) =
      .ok () (Display.window { Window.oversized with opened := true, dirty := true }, host) :=
    ⟨_, rfl⟩
  obtain ⟨e, host', h, hmemory, hframe, hcells⟩ := Machine.exists_create
    { display := .window Window.oversized, rom := [0xD0, 0x05] } {} hpower rfl rfl (by decide)
  have hfresh := Machine.fresh_of_create h
  have hover : e.machine.display.isOversized = true := by
    rw [← Display.isOversized_frame, hframe, Display.isOversized_frame]
    simp [Display.isOversized, Window.oversized, Window.ofScale]
  have hbyte : e.machine.bytesAtIndex 0 = 0xF0 := by
    rw [Machine.bytesAtIndex, Machine.base, hfresh.cpu, hmemory]
    exact Memory.byte_start_font (a := 0) (by decide) (by decide)
  have hrows : e.machine.readableRows 0xD005 = 5 := by
    rw [Machine.readableRows, Machine.spriteRows, Machine.base, hfresh.cpu, hfresh.memory,
      Display.height_congr hframe]
    rfl
  have hreach : e.IsReachable := ⟨_, _, host', e, [], Display.isCountable_of_cells?_eq_some rfl
    (FrameBuffer.isCountable_of_blank? (w := 64) (h := 32) rfl), h, rfl⟩
  refine ⟨e, host', h, hreach, hfresh.cpu, hfresh.fetch hmemory (by decide) (by decide), hover,
    hcells, ?_⟩
  rw [Machine.spriteDots, hrows, hfresh.cpu, Display.width_congr hframe, Sprite.dots,
    show List.range 5 = 0 :: [1, 2, 3, 4] from rfl, List.flatMap_cons, hbyte]
  exact ⟨_, rfl⟩

/-- A step there fails at the first dot, although the whole sprite lies in memory. -/
theorem exists_step_paint : ∃ (e : Emulator Display) (host' : Host),
    Machine.create { display := .window Window.oversized, rom := [0xD0, 0x05] } {} =
      .ok e host' ∧
    e.machine.cpu.pc < 0xFFF ∧ e.machine.fetch = .ok 0xD005 ∧ e.machine.cpu.i + 5 ≤ 0x1000 ∧
    ∃ e', step e = .error .numberTooLarge e' := by
  obtain ⟨e, host', h, hreach, hcpu, hfetch, hover, -, rest, hdots⟩ := exists_oversized
  refine ⟨e, host', h, by rw [hcpu]; decide, hfetch, by rw [hcpu]; decide, ?_⟩
  refine (step_error_iff hreach.isBounded hreach.isCountable).mpr
    (hreach.isBounded.fault?_iff.mpr (.paint hfetch (by decide) hover ?_))
  rw [hdots]
  exact List.cons_ne_nil _ _

end Emulator

end Chip8
