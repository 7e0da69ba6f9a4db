/-
  Bounds of whole runs. Only a return that fails moves the stack pointer below -16: every other
  operation keeps it or moves it up (`steady_hasFloor`), and a return that succeeds found a
  slot. `bounds_of_run` puts all bounds of the machine together for every run of every machine
  that was set up.
-/
import Chip8.Proofs.Machine.Creation

namespace Chip8

/-- A return instruction that found no stack slot. -/
def Moment.IsFailedReturn (m : Moment Display) : Prop :=
  m.event = .step ∧ m.before.machine.fetch = .ok 0x00EE ∧ ∃ fault, m.answer = .error fault

namespace Emulator

variable {e : Emulator Display} {fr : Display}

/-! ## The stack pointer -/

/-- The stack pointer is no lower than `low`. -/
def HasFloor (low : Int) (e : Emulator Display) : Prop := low ≤ e.machine.cpu.sp

theorem steady_hasFloor (low : Int) : IsSteady (HasFloor low) where
  memory _ _ h _ := h
  register _ _ _ h := h
  stage _ _ h _ := h
  cpu _ _ h hsp := Int.le_trans h hsp
  random _ _ h := h
  log _ _ _ h := h

/-- The stack pointer stays above the floor unless a return fails. -/
theorem floor_execute (h : e.IsSound 0xFFE fr) (hlow : e.HasFloor (-16)) {w : Word}
    (hret : w = 0x00EE → ∃ e', execute w e = .ok () e') :
    (stateOf (execute w e)).HasFloor (-16) := by
  cases hop : w.operation? with
  | none =>
    rw [execute_of_none h.bounded.table hop]
    exact hlow
  | some op =>
    by_cases hopret : op = .ret
    · subst hopret
      obtain rfl := Word.operation?_eq_ret_iff.mp hop
      obtain ⟨e', he'⟩ := hret rfl
      obtain ⟨slot, hslot, hcpu⟩ := of_execute_ret h.bounded.table he'
      have hrange := cell?_isSome_iff.mp (Option.isSome_of_eq_some hslot)
      rw [he', HasFloor]
      change -16 ≤ e'.machine.cpu.sp
      rw [hcpu]
      exact hrange.1
    · rw [execute_of_operation? h.bounded.table hop]
      exact Act.stateOf_bind_modify
        (keeps_perform (steady_hasFloor (-16)) hopret w (e.announce op w) hlow)
        (fun e' hperform => Int.le_trans hperform (sp_complete op.row e').ge) (fun _ => id)

theorem floor_step (h : e.IsSound 0x1002 fr) (hlow : e.HasFloor (-16))
    (hret : ¬ (⟨.step, e⟩ : Moment Display).IsFailedReturn) :
    (stateOf (step e)).HasFloor (-16) := by
  cases hf : e.machine.fetch with
  | error fault =>
    rw [step_of_fetch_error hf]
    exact hlow
  | ok w =>
    rw [stateOf_step_of_fetch hf]
    refine floor_execute ⟨h.bounded.of_fetch hf, h.frame⟩ hlow fun hw => ?_
    subst hw
    cases he : execute 0x00EE e with
    | ok a e' => exact ⟨e', rfl⟩
    | error fault e' =>
      refine absurd ⟨rfl, hf, fault, ?_⟩ hret
      change answerOf ((step >>= fun w => pure (some w)) e) = .error fault
      rw [Act.answerOf_bind_pure, step_of_fetch hf, Act.bind_error he]
      rfl

theorem exists_withMemory (change : Memory → Except Fault Memory) (e : Emulator Display) :
    ∃ memory, stateOf (tryMemory change e) = e.withMemory memory := by
  unfold tryMemory
  cases change e.machine.memory with
  | error fault => exact ⟨e.machine.memory, rfl⟩
  | ok memory => exact ⟨memory, rfl⟩

/-- What a reset leaves, whether or not the font could be restored. -/
theorem exists_after_reset (e : Emulator Display) : ∃ memory, e.after .reset =
    (clearScreen (e.mapMachine fun m =>
      { m with cpu := {}, executed := 0 })).withMemory memory := by
  obtain ⟨memory, hmemory⟩ := exists_withMemory (·.loadBlock Memory.fontStart Font.data)
    (clearScreen (e.mapMachine fun m => { m with cpu := {}, executed := 0 }))
  exact ⟨memory, (after_reset e).trans hmemory⟩

theorem memory_after_reset (hsize : e.machine.memory.size = Memory.standardSize) :
    (e.after .reset).machine.memory =
      e.machine.memory.overwrite Memory.fontStart Font.data := by
  rw [after_reset, reset_of_size hsize]
  rfl

/-- A program from outside reaches the memory alone, whether or not it fits. -/
theorem exists_after_loadRom (e : Emulator Display) (data : List Byte) : ∃ memory host,
    e.after (.loadRom data) = ⟨{ e.machine with memory }, host⟩ := by
  rw [after_loadRom]
  unfold loadRom
  cases hload : e.machine.memory.loadBlock Memory.programStart data with
  | ok memory =>
    rw [Act.bind_ok (tryMemory_of_ok (·.loadBlock Memory.programStart data) hload)]
    exact ⟨memory, _, rfl⟩
  | error fault =>
    rw [Act.bind_error (tryMemory_of_error (·.loadBlock Memory.programStart data) hload)]
    exact ⟨e.machine.memory, e.host, rfl⟩

/-- A reset starts the processor anew, even if it were to fail. -/
theorem cpu_after_reset (e : Emulator Display) :
    (e.after .reset).machine.cpu = {} ∧ (e.after .reset).machine.executed = 0 := by
  obtain ⟨memory, hreset⟩ := exists_after_reset e
  rw [hreset]
  exact ⟨rfl, rfl⟩

/-- Keys from outside reach the keyboard alone, and programs the memory. -/
theorem exists_after_outside (e : Emulator Display) {event : Event} (hstep : event ≠ .step)
    (hreset : event ≠ .reset) (htick : event ≠ .tick) : ∃ keyboard memory host,
      e.after event = ⟨{ e.machine with keyboard, memory }, host⟩ ∧
      ((∀ data, event ≠ .loadRom data) → memory = e.machine.memory) := by
  cases event with
  | step => exact absurd rfl hstep
  | reset => exact absurd rfl hreset
  | tick => exact absurd rfl htick
  | setKey code => exact ⟨_, _, _, rfl, fun _ => rfl⟩
  | press name =>
    obtain ⟨keyed, hkeyed⟩ := exists_after_press e name
    exact ⟨_, _, _, hkeyed, fun _ => rfl⟩
  | release name =>
    obtain ⟨keyed, hkeyed⟩ := exists_after_release e name
    exact ⟨_, _, _, hkeyed, fun _ => rfl⟩
  | loadRom data =>
    obtain ⟨memory, host, hloaded⟩ := exists_after_loadRom e data
    exact ⟨_, memory, host, hloaded, fun hother => absurd rfl (hother data)⟩

/-- They leave the processor, its count and the audio alone. -/
theorem untouched_after (e : Emulator Display) {event : Event} (hstep : event ≠ .step)
    (hreset : event ≠ .reset) (htick : event ≠ .tick) :
    (e.after event).machine.cpu = e.machine.cpu ∧
      (e.after event).machine.executed = e.machine.executed ∧
      (e.after event).machine.audio = e.machine.audio := by
  obtain ⟨keyboard, memory, host, houtside, -⟩ := exists_after_outside e hstep hreset htick
  rw [houtside]
  exact ⟨rfl, rfl, rfl⟩

/-- Whatever else happens from outside leaves the stack pointer and the count alone. -/
theorem sp_executed_after (e : Emulator Display) {event : Event} (hstep : event ≠ .step)
    (hreset : event ≠ .reset) : (e.after event).machine.cpu.sp = e.machine.cpu.sp ∧
      (e.after event).machine.executed = e.machine.executed := by
  by_cases htick : event = .tick
  · subst htick
    exact ⟨rfl, rfl⟩
  · obtain ⟨hcpu, hexecuted, -⟩ := untouched_after e hstep hreset htick
    exact ⟨by rw [hcpu], hexecuted⟩

theorem floor_after (h : e.IsSound 0x1002 fr) (hlow : e.HasFloor (-16)) (event : Event)
    (hret : ¬ (⟨event, e⟩ : Moment Display).IsFailedReturn) :
    (e.after event).HasFloor (-16) := by
  by_cases hstep : event = .step
  · subst hstep
    rw [after_step]
    exact floor_step h hlow hret
  · by_cases hreset : event = .reset
    · subst hreset
      unfold HasFloor
      rw [(cpu_after_reset e).1]
      decide
    · exact Int.le_trans hlow (sp_executed_after e hstep hreset).1.ge

theorem floor_run (h : e.IsSound 0x1002 fr) (hlow : e.HasFloor (-16)) (events : List Event) :
    (∀ m ∈ Moment.sinceReset (e.moments events), ¬ m.IsFailedReturn) →
      (e.run events).HasFloor (-16) := by
  refine sound_history (P := fun moments s =>
    (∀ m ∈ Moment.sinceReset moments, ¬ m.IsFailedReturn) → s.HasFloor (-16))
    h (fun _ => hlow) (fun moments s event hs hfloor hnone => ?_) events
  rw [Moment.sinceReset_append] at hnone
  split at hnone
  · rename_i hreset
    cases hreset
    unfold HasFloor
    rw [(cpu_after_reset s).1]
    decide
  · apply floor_after hs
    · exact hfloor fun m hm => hnone m (List.mem_append_left _ hm)
    · exact hnone _ (List.mem_append_right _ (List.mem_singleton_self _))

end Emulator

/-! ## All bounds together -/

/-- Every state of every run of a machine that was set up is bounded. -/
theorem bounds_of_run {config : MachineConfig Display} {host host' : Host}
    {e : Emulator Display} (h : Machine.create config host = .ok e host') (events : List Event) :
    let m := (e.run events).machine
    (m.cpu.v.toList.length = 16 ∧ ∀ b ∈ m.cpu.v.toList, b.toNat ≤ 255) ∧
    (m.cpu.stack.toList.length = 16 ∧ ∀ a ∈ m.cpu.stack.toList, 0 ≤ a ∧ a ≤ 0x1000) ∧
    (0 ≤ m.cpu.pc ∧ m.cpu.pc ≤ 0x1002) ∧
    (0 ≤ m.cpu.i ∧ m.cpu.i ≤ 0xFFFF) ∧
    (0 ≤ m.cpu.delay ∧ m.cpu.delay ≤ 255) ∧
    (0 ≤ m.cpu.sound ∧ m.cpu.sound ≤ 255) ∧
    m.cpu.sp ≤ 16 ∧
    ((∀ moment ∈ Moment.sinceReset (e.moments events), ¬ moment.IsFailedReturn) →
      -16 ≤ m.cpu.sp) ∧
    (m.memory.cells.size = 4096 ∧ ∀ b ∈ m.memory.cells, b.toNat ≤ 255) ∧
    m.display.cells?.map (fun f => (f.width, f.height, f.cells.size)) =
      config.display.cells?.map (fun f => (f.width, f.height, f.width * f.height)) := by
  intro m
  have hfresh := Machine.fresh_of_create h
  have hsound := Emulator.sound_run hfresh.isSound events
  have hbyte (b : Byte) : b.toNat ≤ 255 := Nat.le_of_lt_succ b.isLt
  have hc := hsound.bounded.cpu
  refine ⟨⟨m.cpu.v.length_toList, fun b _ => hbyte b⟩, ⟨m.cpu.stack.length_toList, ?_⟩,
    ⟨hc.pc_nonneg, hc.pc_le⟩, ⟨hc.i_nonneg, hc.i_le⟩, ⟨hc.delay_nonneg, hc.delay_le⟩,
    ⟨hc.sound_nonneg, hc.sound_le⟩, hc.sp_le, ?_, ⟨hsound.bounded.memory, fun b _ => hbyte b⟩, ?_⟩
  · intro a ha
    obtain ⟨slot, hslot, rfl⟩ := List.getElem_of_mem ha
    have hslot' : slot < 16 := by simpa using hslot
    exact ⟨hc.stack_nonneg ⟨slot, hslot'⟩, hc.stack_le ⟨slot, hslot'⟩⟩
  · apply Emulator.floor_run hfresh.isSound
    unfold Emulator.HasFloor
    rw [hfresh.cpu]
    decide
  · have hsides := Machine.sides_run_of_create h events
    have hcells (d : Display) : d.cells?.map (fun f => (f.width, f.height, f.width * f.height)) =
        d.sides?.map fun s => (s.1, s.2, s.1 * s.2) := by
      rw [Display.sides?, Option.map_map]
      rfl
    simp only [FrameBuffer.size_cells]
    rw [hcells, hcells, hsides]

/-- A return without a call succeeds, with the stack pointer one below zero, and a reset makes up
for it. -/
theorem bounds_of_run_return : ∃ (e : Emulator Display) (host' : Host),
    Machine.create { display := Display.bitmap (FrameBuffer.blank 3 2), rom := [0x00, 0xEE] } {} =
      .ok e host' ∧
    let m := (e.run [.step, .reset, .tick]).machine
    (0 ≤ m.cpu.pc ∧ m.cpu.pc ≤ 0x1002) ∧ -16 ≤ m.cpu.sp ∧ m.cpu.sp ≤ 16 ∧
    m.display.cells?.map (fun f => (f.width, f.height, f.cells.size)) = some (3, 2, 6) := by
  obtain ⟨e, host', h, -⟩ := Machine.exists_create
    { display := Display.bitmap (FrameBuffer.blank 3 2), rom := [0x00, 0xEE] } {} rfl rfl rfl
    (by decide)
  obtain ⟨-, -, hpc, -, -, -, hsp, hfloor, -, hcells⟩ := bounds_of_run h [.step, .reset, .tick]
  refine ⟨e, host', h, hpc, hfloor fun moment hmoment => ?_, hsp, hcells⟩
  rw [show [Event.step, .reset, .tick] = ([.step] ++ [.reset]) ++ [.tick] from rfl,
    Emulator.moments_append, Moment.sinceReset_append, if_neg Event.noConfusion,
    Emulator.moments_append, Moment.sinceReset_append, if_pos rfl, List.nil_append,
    List.mem_singleton] at hmoment
  subst hmoment
  rintro ⟨hstep, -⟩
  cases hstep

end Chip8
