/-
  What a failing step leaves. A failure stops an operation half-way and keeps what it did up to
  there (`Machine.Leaves`), but never touches what the machine goes on by: the program counter,
  the index, the timers, the stack, the count of instructions, the keys and the random source
  (`Machine.Unmoved`). So the count is always the number of steps that succeeded since the last
  reset (`executed_run`).
-/
import Chip8.Proofs.Machine.Failure
import Chip8.Proofs.Machine.RunBounds

namespace Chip8

/-- The second machine differs in registers, the stack pointer, memory and the display at most. -/
structure Machine.Unmoved (m m' : Machine Display) : Prop where
  pc : m'.cpu.pc = m.cpu.pc
  i : m'.cpu.i = m.cpu.i
  delay : m'.cpu.delay = m.cpu.delay
  sound : m'.cpu.sound = m.cpu.sound
  stack : m'.cpu.stack = m.cpu.stack
  executed : m'.executed = m.executed
  keyboard : m'.keyboard = m.keyboard
  random : m'.random = m.random

theorem Machine.Unmoved.refl (m : Machine Display) : m.Unmoved m := by
  constructor <;> rfl

theorem Machine.Leaves.unmoved {m m' : Machine Display} {w : Word} {op : Operation}
    (h : m.Leaves w op m') : m.Unmoved m' := by
  cases h <;> constructor <;> rfl

/-- The machines that a failing word leaves: the same if the word is of no row, and else what its
operation leaves. -/
def Machine.LeftBy (m : Machine Display) (w : Word) (m' : Machine Display) : Prop :=
  (w.operation? = none ∧ m' = m) ∨ ∃ op, w.operation? = some op ∧ m.Leaves w op m'

theorem Machine.LeftBy.unmoved {m m' : Machine Display} (h : m.LeftBy w m') :
    m.Unmoved m' := by
  obtain ⟨-, rfl⟩ | ⟨op, -, h⟩ := h
  · exact .refl _
  · exact h.unmoved

/-- A failing step that fetched a word with an operation leaves what the operation leaves. -/
theorem Machine.leaves_of_fetch {m m' : Machine Display} {w : Word} {op : Operation} {fault : Fault}
    (hfetch : m.fetch = .ok w) (hop : w.operation? = some op)
    (h : (m.fetch = .error fault ∧ m' = m) ∨ ∃ w, m.fetch = .ok w ∧ m.LeftBy w m') :
    m.Leaves w op m' := by
  obtain ⟨hf, -⟩ | ⟨w', hf, hleft⟩ := h
  · cases hfetch.symm.trans hf
  · cases hfetch.symm.trans hf
    obtain ⟨hnone, -⟩ | ⟨op', hop', hleaves⟩ := hleft
    · cases hop.symm.trans hnone
    · cases hop.symm.trans hop'
      exact hleaves

/-- Registers that are stored past the end of the memory are stored up to there. -/
theorem Machine.Leaves.memory_storeRegisters {m m' : Machine Display} {w : Word}
    (h : m.Leaves w .storeRegisters m') : m'.memory =
      m.memory.withBytes m.base (w.x.val + 1) fun k => m.cpu.get (Register.ofNat k) := by
  cases h
  rfl

theorem Machine.Leaves.flipped_draw {m m' : Machine Display} {w : Word}
    (h : m.Leaves w .draw m') : m.display.Flipped (m.drawnDots w) m'.display := by
  cases h with
  | draw hflipped => exact hflipped

/-- A step that succeeded. -/
def Moment.isExecuted (m : Moment Display) : Bool := m.event == .step && m.answer.isOk

namespace Emulator

variable {e e' : Emulator Display} {limit : Int} {w : Word} {fault : Fault}

theorem leftBy_of_execute_error (hm : e.machine.IsBounded limit)
    (hcount : e.machine.display.IsCountable) (h : execute w e = .error fault e') :
    e.machine.LeftBy w e'.machine := by
  cases hop : w.operation? with
  | none =>
    rw [execute_of_none hm.table hop] at h
    cases h
    exact Or.inl ⟨hop, rfl⟩
  | some op =>
    cases hfault : op.fault? w e.machine with
    | none =>
      obtain ⟨_, he⟩ := execute_of_fault?_none hm hcount hop hfault
      rw [he] at h
      cases h
    | some opFault =>
      obtain ⟨_, he, hleaves⟩ := execute_of_fault? hm hcount hop hfault
      rw [he] at h
      cases h
      exact Or.inr ⟨op, hop, hleaves⟩

theorem leftBy_of_step_error (hm : e.machine.IsBounded 0x1002)
    (hcount : e.machine.display.IsCountable) (h : step e = .error fault e') :
    (e.machine.fetch = .error fault ∧ e'.machine = e.machine) ∨
      ∃ w, e.machine.fetch = .ok w ∧ e.machine.LeftBy w e'.machine := by
  obtain ⟨hf, rfl⟩ | ⟨w, hf, he⟩ := of_step_error h
  · exact Or.inl ⟨hf, rfl⟩
  · exact Or.inr ⟨w, hf, leftBy_of_execute_error hm hcount he⟩

/-! ## Counting -/

/-- So many instructions are counted. -/
def HasCount (n : Nat) (e : Emulator Display) : Prop := e.machine.executed = n

theorem steady_hasCount (n : Nat) : IsSteady (HasCount n) where
  memory _ _ h _ := h
  register _ _ _ h := h
  stage _ _ h _ := h
  cpu _ _ h _ := h
  random _ _ h := h
  log _ _ _ h := h

/-- No operation counts itself. -/
theorem keeps_hasCount_perform (n : Nat) (op : Operation) (w : Word) :
    Act.Keeps (HasCount n) (perform op w) := by
  by_cases hret : op = .ret
  · subst hret
    intro e h
    change HasCount n (stateOf (onCpu Cpu.ret e))
    rw [onCpu_eq, stateOf_resultWithin]
    exact h
  · exact keeps_perform (steady_hasCount n) hret w

/-- A step counts one instruction if it succeeds, and none if it fails. -/
theorem executed_step (hm : e.machine.IsBounded 0x1002) (hcount : e.machine.display.IsCountable) :
    (stateOf (step e)).machine.executed =
      e.machine.executed + if (answerOf (step e)).isOk then 1 else 0 := by
  cases hstep : step e with
  | ok w e' =>
    obtain ⟨op, e₁, -, -, hp, rfl⟩ := of_step_ok hm.table hstep
    have hkept := (keeps_hasCount_perform e.machine.executed op w).of_ok
      (s := e.announce op w) rfl hp
    exact (executed_complete op.row e₁).trans (congrArg (· + 1) hkept)
  | error fault e' =>
    obtain ⟨-, h⟩ | ⟨w, -, h⟩ := leftBy_of_step_error hm hcount hstep
    · exact congrArg Machine.executed h
    · exact h.unmoved.executed

theorem isExecuted_step (s : Emulator Display) :
    (⟨.step, s⟩ : Moment Display).isExecuted = (answerOf (step s)).isOk := by
  change (true && (answerOf ((step >>= fun w => pure (some w)) s)).isOk) = _
  rw [Act.answerOf_bind_pure, Bool.true_and]
  cases answerOf (step s) <;> rfl

/-- The count is the number of steps that succeeded since the last reset. -/
theorem executed_run {fr : Display} (h : e.IsSound 0x1002 fr)
    (hcount : e.machine.display.IsCountable) (hzero : e.machine.executed = 0)
    (events : List Event) : (e.run events).machine.executed =
      (Moment.sinceReset (e.moments events)).countP Moment.isExecuted := by
  have hcount' : ∀ s : Emulator Display, s.IsSound 0x1002 fr → s.machine.display.IsCountable :=
    fun s hs => (Display.isCountable_congr (hs.frame.trans h.frame.symm)).mpr hcount
  refine sound_history (P := fun moments s =>
    s.machine.executed = (Moment.sinceReset moments).countP Moment.isExecuted)
    h hzero (fun moments s event hs hexecuted => ?_) events
  rw [Moment.sinceReset_append]
  by_cases hreset : event = .reset
  · subst hreset
    rw [(cpu_after_reset s).2]
    rfl
  · rw [if_neg hreset, List.countP_append, List.countP_singleton, ← hexecuted]
    by_cases hstep : event = .step
    · subst hstep
      rw [after_step, executed_step hs.bounded (hcount' s hs), isExecuted_step]
    · rw [(sp_executed_after s hstep hreset).2]
      have hnone : (⟨event, s⟩ : Moment Display).isExecuted = false := by
        simp [Moment.isExecuted, hstep]
      rw [hnone]
      rfl

/-- A failure leaves alone what the machine goes on by, changes the rest as its operation does up
to there, and is not counted. -/
theorem effect_of_failure (hm : e.machine.IsBounded 0x1002)
    (hcount : e.machine.display.IsCountable) :
    (∀ w fault e', execute w e = .error fault e' →
      e.machine.Unmoved e'.machine ∧ e.machine.LeftBy w e'.machine) ∧
    (∀ fault e', step e = .error fault e' →
      e.machine.Unmoved e'.machine ∧
      ((e.machine.fetch = .error fault ∧ e'.machine = e.machine) ∨
        ∃ w, e.machine.fetch = .ok w ∧ e.machine.LeftBy w e'.machine)) ∧
    ∀ (config : MachineConfig Display) (host host' : Host) (start : Emulator Display)
      (events : List Event), config.display.IsCountable →
      Machine.create config host = .ok start host' →
      (start.run events).machine.executed =
        (Moment.sinceReset (start.moments events)).countP Moment.isExecuted := by
  refine ⟨fun w fault e' h => ?_, fun fault e' h => ?_, ?_⟩
  · have hleft := leftBy_of_execute_error hm hcount h
    exact ⟨hleft.unmoved, hleft⟩
  · have hleft := leftBy_of_step_error hm hcount h
    refine ⟨?_, hleft⟩
    obtain ⟨-, hsame⟩ | ⟨w, -, hleft⟩ := hleft
    · rw [hsame]
      exact .refl _
    · exact hleft.unmoved
  · intro config host host' start events hconfig hcreate
    have hfresh := Machine.fresh_of_create hcreate
    exact executed_run hfresh.isSound (Display.isCountable_of_sides? hfresh.sides hconfig)
      hfresh.executed events

/-- The bytes of `LD V0, 0x05`, `LD I, 0xFFF` and `LD [I], V1`. -/
def overrun : List Byte := [0x60, 0x05, 0xAF, 0xFF, 0xF1, 0x55]

/-- The third step of this program is to store two registers at the last byte of the memory. -/
theorem after_overrun {config : MachineConfig Display} {host host' : Host}
    (h : Machine.create config host = .ok e host')
    (hmemory : e.machine.memory = Memory.start overrun) :
    let s := e.run [.step, .step]
    (s.machine.fetch = .ok 0xF155 ∧ s.machine.cpu.i = 0xFFF ∧ s.machine.cpu.get 0 = 5 ∧
      s.machine.memory = Memory.start overrun) ∧
    (answerOf (step e)).isOk = true ∧ (answerOf (step (e.after .step))).isOk = true := by
  have hfresh := Machine.fresh_of_create h
  have hload : Word.operation? 0x6005 = some .loadByte :=
    Word.operation?_eq_some_iff.mpr (by decide)
  have hpoint : Word.operation? 0xAFFF = some .loadIndex :=
    Word.operation?_eq_some_iff.mpr (by decide)
  have hfirst := step_of_perform hfresh.table
    (hfresh.fetch hmemory (by decide) (by decide) : e.machine.fetch = .ok 0x6005) hload rfl
  have hcpu : (e.after .step).machine.cpu = Cpu.advance (Cpu.set {} 0 5) := by
    rw [after_step, hfirst]
    show Cpu.advance (e.machine.cpu.set 0 5) = _
    rw [hfresh.cpu]
  have hmemory₁ : (e.after .step).machine.memory = Memory.start overrun := by
    rw [after_step, hfirst]
    exact hmemory
  have hsound₁ : (e.after .step).IsSound 0x1002 e.machine.display.frame :=
    keeps_event .step e hfresh.isSound
  have hfetch₁ : (e.after .step).machine.fetch = .ok 0xAFFF :=
    hsound₁.bounded.fetch_start (k := 2) hmemory₁ (by rw [hcpu]; rfl) (by decide) (by decide)
  have hsecond := step_of_perform hsound₁.bounded.table hfetch₁ hpoint rfl
  have hcpu₂ : ((e.after .step).after .step).machine.cpu =
      Cpu.advance (Cpu.loadIndex (Cpu.advance (Cpu.set {} 0 5)) 0xFFF) := by
    rw [after_step (e.after .step), hsecond]
    show Cpu.advance ((e.after .step).machine.cpu.loadIndex 0xFFF) = _
    rw [hcpu]
  have hmemory₂ : ((e.after .step).after .step).machine.memory = Memory.start overrun := by
    rw [after_step (e.after .step), hsecond]
    exact hmemory₁
  have hsound₂ : ((e.after .step).after .step).IsSound 0x1002 e.machine.display.frame :=
    keeps_event .step _ hsound₁
  refine ⟨⟨?_, ?_, ?_, hmemory₂⟩, by rw [hfirst]; rfl, by rw [hsecond]; rfl⟩
  · exact hsound₂.bounded.fetch_start (k := 4) hmemory₂ (by rw [hcpu₂]; rfl) (by decide) (by decide)
  · show ((e.after .step).after .step).machine.cpu.i = 0xFFF
    rw [hcpu₂]
    rfl
  · show ((e.after .step).after .step).machine.cpu.get 0 = 5
    rw [hcpu₂]
    exact Cpu.get_set_same {} 0 5

/-- Of two registers to be stored at the last byte of the memory the first one is. The step fails
then, and is the only one of three that is not counted. -/
theorem effect_of_failure_overrun : ∃ (start e' : Emulator Display) (host' : Host),
    Machine.create { display := Display.bitmap (FrameBuffer.blank 8 4), rom := overrun } {} =
      .ok start host' ∧
    let e := start.run [.step, .step]
    step e = .error .cellIndex e' ∧ e.machine.Unmoved e'.machine ∧
      e.machine.memory.byte 0xFFF = 0 ∧ e'.machine.memory.byte 0xFFF = 5 ∧
      (start.run [.step, .step, .step]).machine.executed = 2 := by
  obtain ⟨start, host', h, hmemory, -⟩ := Machine.exists_create
    { display := Display.bitmap (FrameBuffer.blank 8 4), rom := overrun } {} rfl rfl rfl (by decide)
  have hconfig : (Display.bitmap (FrameBuffer.blank 8 4)).IsCountable :=
    Display.isCountable_of_cells?_eq_some rfl (by decide : (FrameBuffer.blank 8 4).IsCountable)
  have hreach : (start.run [.step, .step]).IsReachable :=
    ⟨_, _, host', start, [.step, .step], hconfig, h, rfl⟩
  obtain ⟨⟨hfetch, hi, hregister, hmemory₂⟩, hfirst, hsecond⟩ := after_overrun h hmemory
  generalize he : start.run [.step, .step] = e at *
  have hm := hreach.isBounded
  obtain ⟨e', hstep⟩ := (step_error_iff hm hreach.isCountable).mpr
    (hm.fault?_iff.mpr (.storeRegisters hfetch (by decide) (by rw [hi]; decide)))
  obtain ⟨-, hleft, hrun⟩ := effect_of_failure hm hreach.isCountable
  obtain ⟨hunmoved, hleft⟩ := hleft _ e' hstep
  refine ⟨start, e', host', h, ?_⟩
  rw [he]
  refine ⟨hstep, hunmoved, ?_, ?_, ?_⟩
  · rw [hmemory₂, Memory.byte_start (by decide), if_neg (by decide), Memory.withFont,
      Memory.byte_overwrite (by rw [Memory.size_ofSize]; decide), if_neg (by decide)]
    simp [Memory.byte, Memory.ofSize, Memory.standardSize]
  · have hop : Word.operation? 0xF155 = some .storeRegisters :=
      Word.operation?_eq_some_iff.mpr (by decide)
    have hbase : e.machine.base = 0xFFF := congrArg Int.toNat hi
    have hsize : 0xFFF < e.machine.memory.size := by
      rw [hm.memory]
      decide
    rw [(Machine.leaves_of_fetch hfetch hop hleft).memory_storeRegisters,
      Memory.byte_withBytes hsize, hbase, if_pos (by decide)]
    exact hregister
  · rw [hrun _ _ host' start [.step, .step, .step] hconfig h]
    have hmoments : start.moments [.step, .step, .step] =
        [⟨.step, start⟩, ⟨.step, start.after .step⟩, ⟨.step, e⟩] := by
      rw [← he]
      rfl
    have hlast : (answerOf (step e)).isOk = false := by
      rw [hstep]
      rfl
    simp [hmoments, Moment.sinceReset, List.rtakeWhile, isExecuted_step, hfirst, hsecond, hlast]

/-- In a window with cells too large to paint, a failing draw leaves out dots although their row
lies in memory. -/
theorem exists_step_undrawn : ∃ (e e' : Emulator Display) (host' : Host),
    Machine.create { display := .window Window.oversized, rom := [0xD0, 0x05] } {} =
      .ok e host' ∧
    step e = .error .numberTooLarge e' ∧ e.machine.cpu.i + 5 ≤ 0x1000 ∧
    (1, 0) ∈ e.machine.spriteDots 0xD005 ∧ e.machine.display.isLit (1, 0) = false ∧
    e'.machine.display.isLit (1, 0) = false := by
  obtain ⟨e, host', h, hreach, hcpu, hfetch, hover, hcells, rest, hdots⟩ := exists_oversized
  have hm := hreach.isBounded
  obtain ⟨e', hstep⟩ := (step_error_iff hm hreach.isCountable).mpr
    (hm.fault?_iff.mpr (.paint hfetch (by decide) hover
      (by rw [hdots]; exact List.cons_ne_nil _ _)))
  have hmem : (1, 0) ∈ e.machine.spriteDots 0xD005 := by
    rw [hdots]
    exact List.mem_cons_of_mem _ List.mem_cons_self
  have hdark : e.machine.display.isLit (1, 0) = false := by
    simp [Display.isLit, hcells, FrameBuffer.pixel, FrameBuffer.blank]
  refine ⟨e, e', host', h, hstep, by rw [hcpu]; decide, hmem, hdark, ?_⟩
  have hop : Word.operation? 0xD005 = some .draw := Word.operation?_eq_some_iff.mpr (by decide)
  have hleft := leftBy_of_step_error hm hreach.isCountable hstep
  have hflipped := (Machine.leaves_of_fetch hfetch hop hleft).flipped_draw
  -- only the first dot was reached
  rw [Machine.drawnDots, Sprite.reached, if_pos hover, hdots] at hflipped
  rw [← hdark]
  exact hflipped.isLit (by decide)
    (Sprite.has_of_mem_dots ((Nat.min_le_left ..).trans (Nat.min_le_right ..)) hmem)

end Emulator

end Chip8
