/-
  Waiting for a key. Without a key, a word `Fx0A` takes the program counter back by two, and moving
  on leads to the same word again, wherever in memory it stands. So such a step is only counted
  (`step_of_wait`), and after steps and ticks that find no key the machine is the one it was but
  for the count and the timers (`waited_run`). The first step that finds a key puts it into the
  register and moves on (`step_of_key`). The main statement is `waits_for_key`.
-/
import Chip8.Proofs.Machine.Quiet
import Chip8.Proofs.Machine.RunBounds
import Chip8.Proofs.Machine.Ticks

namespace Chip8

/-- The instruction that waits for a key, whatever its register. -/
def Word.IsWait (w : Word) : Prop := w &&& 0xF0FF = 0xF00A

theorem Word.IsWait.operation? {w : Word} (h : w.IsWait) : w.operation? = some .waitKey :=
  Word.operation?_eq_some_iff.mpr h

/-! ## Timers after some ticks -/

namespace Cpu

/-- The processor with both timers counted down a number of times. -/
def ticked (c : Cpu) (ticks : Nat) : Cpu :=
  { c with delay := max 0 (c.delay - ticks), sound := max 0 (c.sound - ticks) }

theorem ticked_ticked (c : Cpu) (ticks ticks' : Nat) :
    (c.ticked ticks).ticked ticks' = c.ticked (ticks + ticks') := by
  have hmax (timer : Int) :
      max 0 (max 0 (timer - ticks) - ticks') = max 0 (timer - (ticks + ticks' : Nat)) := by
    omega
  simp only [ticked, hmax]

variable {c : Cpu} {limit : Int}

theorem IsBounded.ticked_zero (hc : c.IsBounded limit) : c.ticked 0 = c := by
  have hdelay : max 0 (c.delay - (0 : Nat)) = c.delay := by have := hc.delay_nonneg; omega
  have hsound : max 0 (c.sound - (0 : Nat)) = c.sound := by have := hc.sound_nonneg; omega
  simp only [ticked, hdelay, hsound]

theorem IsBounded.tick_eq (hc : c.IsBounded limit) : c.tick = c.ticked 1 := by
  have hdown (timer : Int) (h : 0 ≤ timer) : countDown timer = max 0 (timer - (1 : Nat)) := by
    unfold countDown
    split <;> omega
  simp only [Cpu.tick, ticked, hdown _ hc.delay_nonneg, hdown _ hc.sound_nonneg]

end Cpu

/-! ## Machines that have waited -/

/-- What a machine is after it has waited: apart from the count, the timers, the keyboard and the
audio it is the machine that it was. -/
structure Machine.HasWaited (steps ticks : Nat) (m m' : Machine Display) : Prop where
  cpu : m'.cpu = m.cpu.ticked ticks
  executed : m'.executed = m.executed + steps
  memory : m'.memory = m.memory
  display : m'.display = m.display
  random : m'.random = m.random
  table : m'.table = m.table
  hint : m'.hint = m.hint

namespace Machine.HasWaited

variable {m m' m'' : Machine Display} {steps steps' ticks ticks' : Nat} {limit : Int}

theorem refl (hm : m.IsBounded limit) : m.HasWaited 0 0 m :=
  ⟨hm.cpu.ticked_zero.symm, rfl, rfl, rfl, rfl, rfl, rfl⟩

theorem trans (h : m.HasWaited steps ticks m') (h' : m'.HasWaited steps' ticks' m'') :
    m.HasWaited (steps + steps') (ticks + ticks') m'' where
  cpu := by rw [h'.cpu, h.cpu, Cpu.ticked_ticked]
  executed := by rw [h'.executed, h.executed, Nat.add_assoc]
  memory := h'.memory.trans h.memory
  display := h'.display.trans h.display
  random := h'.random.trans h.random
  table := h'.table.trans h.table
  hint := h'.hint.trans h.hint

theorem eq (h : m.HasWaited steps ticks m') : m' = { m with
    cpu := m.cpu.ticked ticks
    executed := m.executed + steps
    keyboard := m'.keyboard
    audio := m'.audio } := by
  rw [← h.cpu, ← h.executed, ← h.memory, ← h.display, ← h.random, ← h.table, ← h.hint]

/-- The same word is waiting at the same place. -/
theorem fetch (h : m.HasWaited steps ticks m') : m'.fetch = m.fetch := by
  unfold Machine.fetch
  rw [h.memory, h.cpu]
  rfl

end Machine.HasWaited

namespace Emulator

variable {e : Emulator Display} {fr : Display} {w : Word}

/-! ## One step -/

/-- Without a key the program counter goes back, and a message is printed at most. -/
theorem exists_waitKey (x : Register) (h : e.machine.keyboard.key = 0) :
    ∃ host, waitKey x e = ⟨{ e.machine with cpu := e.machine.cpu.rewind }, host⟩ := by
  unfold waitKey
  dsimp only
  rw [if_pos h]
  exact ⟨_, rfl⟩

theorem waitKey_of_key (x : Register) (h : e.machine.keyboard.key ≠ 0) :
    waitKey x e = e.withCpu (e.machine.cpu.set x e.machine.keyboard.key) := by
  unfold waitKey
  dsimp only
  rw [if_neg h]
  rfl

/-- Without a key the step is counted, and that is all. -/
theorem step_of_wait (hm : e.machine.IsBounded 0x1002) (hf : e.machine.fetch = .ok w)
    (hw : w.IsWait) (hkey : e.machine.keyboard.key = 0) :
    ∃ host, step e = .ok w ⟨{ e.machine with executed := e.machine.executed + 1 }, host⟩ := by
  obtain ⟨host, hwait⟩ := exists_waitKey (e := e.announce .waitKey w) w.x hkey
  have hperform : perform .waitKey w (e.announce .waitKey w) =
      .ok () ⟨{ e.machine with cpu := e.machine.cpu.rewind }, host⟩ :=
    congrArg (EStateM.Result.ok ()) hwait
  have hback : e.machine.cpu.rewind.advance = e.machine.cpu := hm.cpu.advance_rewind (by decide)
  refine ⟨host, (step_of_perform hm.table hf hw.operation? hperform).trans ?_⟩
  let counted (cpu : Cpu) : Emulator Display :=
    ⟨{ e.machine with cpu, executed := e.machine.executed + 1 }, host⟩
  exact congrArg (fun cpu => EStateM.Result.ok w (counted cpu)) hback

/-- With a key the step puts it into the register and goes on behind the word. -/
theorem step_of_key (hm : e.machine.IsBounded 0x1002) (hf : e.machine.fetch = .ok w)
    (hw : w.IsWait) (hkey : e.machine.keyboard.key ≠ 0) :
    ∃ s, step e = .ok w s ∧
      s.machine = { e.machine with
        cpu := { e.machine.cpu.set w.x e.machine.keyboard.key with pc := e.machine.cpu.pc + 2 }
        executed := e.machine.executed + 1 } ∧
      s.host.calls = e.host.calls := by
  have hperform : perform .waitKey w (e.announce .waitKey w) =
      .ok () ((e.announce .waitKey w).withCpu (e.machine.cpu.set w.x e.machine.keyboard.key)) :=
    congrArg (EStateM.Result.ok ()) (waitKey_of_key (e := e.announce .waitKey w) w.x hkey)
  have hpc : wrap16 (e.machine.cpu.pc + 2) = e.machine.cpu.pc + 2 := by
    have hnonneg := hm.cpu.pc_nonneg
    have hle := (hm.of_fetch hf).cpu.pc_le
    unfold wrap16
    omega
  refine ⟨_, step_of_perform hm.table hf hw.operation? hperform, ?_, Host.calls_logged ..⟩
  exact congrArg (fun pc => { e.machine with
    cpu := { e.machine.cpu.set w.x e.machine.keyboard.key with pc }
    executed := e.machine.executed + 1 }) hpc

/-! ## Steps, ticks and keys -/

/-- A tick counts the timers down, and a key only changes the keyboard. -/
theorem waited_after_idle (hm : e.machine.IsBounded 0x1002) {event : Event}
    (h : event.isIdle = true) :
    e.machine.HasWaited ([event].count .step) ([event].count .tick) (e.after event).machine := by
  have hrefl : e.machine.HasWaited 0 0 e.machine := .refl hm
  cases event with
  | tick => exact { hrefl with cpu := hm.cpu.tick_eq }
  | setKey code => exact { hrefl with }
  | press name =>
    obtain ⟨keyed, hkeyed⟩ := exists_after_press e name
    rw [hkeyed]
    exact { hrefl with }
  | release name =>
    obtain ⟨keyed, hkeyed⟩ := exists_after_release e name
    rw [hkeyed]
    exact { hrefl with }
  | step => cases h
  | reset => cases h
  | loadRom data => cases h

theorem waited_after_step (hm : e.machine.IsBounded 0x1002) (hf : e.machine.fetch = .ok w)
    (hw : w.IsWait) (hkey : e.machine.keyboard.key = 0) :
    e.machine.HasWaited ([Event.step].count .step) ([Event.step].count .tick)
      (e.after .step).machine := by
  have hrefl : e.machine.HasWaited 0 0 e.machine := .refl hm
  obtain ⟨host, hstep⟩ := step_of_wait hm hf hw hkey
  rw [after_step, hstep]
  exact { hrefl with executed := rfl }

theorem mem_steps_cons {event : Event} {rest : List Event} {m : Moment Display}
    (h : m ∈ e.steps (event :: rest)) :
    (event = .step ∧ m = ⟨.step, e⟩) ∨ m ∈ (e.after event).steps rest := by
  by_cases hstep : event = .step
  · subst hstep
    exact (List.mem_cons.mp h).imp_left fun hm => ⟨rfl, hm⟩
  · rw [steps, moments, List.filter_cons_of_neg (by simpa using hstep)] at h
    exact Or.inr h

theorem mem_stepKeys_cons {event : Event} {rest : List Event} {key : Byte}
    (h : key ∈ (e.after event).stepKeys rest) : key ∈ e.stepKeys (event :: rest) := by
  obtain ⟨m, hm, rfl⟩ := List.mem_map.mp h
  have htail : (e.after event).steps rest ⊆ e.steps (event :: rest) :=
    ((List.sublist_cons_self _ _).filter _).subset
  exact List.mem_map_of_mem (htail hm)

/-- As long as no step finds a key, every step answers the word, and the machine only waits. -/
theorem waited_run (h : e.IsSound 0x1002 fr) (hf : e.machine.fetch = .ok w) (hw : w.IsWait)
    {events : List Event} (hplay : ∀ event ∈ events, event = .step ∨ event.isIdle = true)
    (hkeys : ∀ key ∈ e.stepKeys events, key = 0) :
    (∀ m ∈ e.steps events, m.answer = .ok (some w)) ∧
      e.machine.HasWaited (events.count .step) (events.count .tick) (e.run events).machine := by
  induction events generalizing e with
  | nil => exact ⟨fun m hm => absurd hm List.not_mem_nil, .refl h.bounded⟩
  | cons event rest ih =>
    have hrest := fun ev hev => hplay ev (List.mem_cons_of_mem event hev)
    have hkey : event = .step → e.machine.keyboard.key = 0 := by
      rintro rfl
      exact hkeys _ List.mem_cons_self
    have hwaited : e.machine.HasWaited ([event].count .step) ([event].count .tick)
        (e.after event).machine := by
      rcases hplay event List.mem_cons_self with rfl | hidle
      · exact waited_after_step h.bounded hf hw (hkey rfl)
      · exact waited_after_idle h.bounded hidle
    obtain ⟨hanswers, hrun⟩ := ih (keeps_event event e h) (hwaited.fetch.trans hf) hrest
      fun key hmem => hkeys key (mem_stepKeys_cons hmem)
    constructor
    · intro m hm
      rcases mem_steps_cons hm with ⟨rfl, rfl⟩ | hm
      · obtain ⟨host, hstep⟩ := step_of_wait h.bounded hf hw (hkey rfl)
        rw [answer_step, hstep]
        rfl
      · exact hanswers m hm
    · show e.machine.HasWaited (([event] ++ rest).count .step) (([event] ++ rest).count .tick) _
      rw [List.count_append, List.count_append]
      exact hwaited.trans hrun

end Emulator

/-! ## Waiting -/

section

variable {config : MachineConfig Display} {host host' : Host} {start : Emulator Display}

/-- From any machine that a run leads to, with a word `Fx0A` at its program counter: as long as
steps find no key, among any ticks and host keys, each of them succeeds with this word, and the
machine stays as it is but for the count of the steps, and the timers, which the ticks alone count
down. The first step that finds a key puts it into the register and moves on by two, and changes
nothing else but the count. -/
theorem waits_for_key (h : Machine.create config host = .ok start host') (before : List Event)
    {w : Word} (hf : (start.run before).machine.fetch = .ok w) (hw : w &&& 0xF0FF = 0xF00A)
    {events : List Event} (hplay : ∀ event ∈ events, event = .step ∨ event.isIdle = true)
    (hkeys : ∀ key ∈ (start.run before).stepKeys events, key = 0) :
    let e := start.run before
    let s := e.run events
    (∀ m ∈ e.steps events, m.answer = .ok (some w)) ∧
    s.machine = { e.machine with
      cpu := { e.machine.cpu with
        delay := max 0 (e.machine.cpu.delay - events.count .tick)
        sound := max 0 (e.machine.cpu.sound - events.count .tick) }
      executed := e.machine.executed + events.count .step
      keyboard := s.machine.keyboard
      audio := s.machine.audio } ∧
    (s.machine.keyboard.key ≠ 0 → ∃ s', Emulator.step s = .ok w s' ∧
      s'.machine = { s.machine with
        cpu := { s.machine.cpu.set w.x s.machine.keyboard.key with pc := s.machine.cpu.pc + 2 }
        executed := s.machine.executed + 1 } ∧
      s'.host.calls = s.host.calls) := by
  intro e s
  have hsound : e.IsSound 0x1002 start.machine.display.frame :=
    Emulator.sound_run (Machine.fresh_of_create h).isSound before
  obtain ⟨hanswers, hwaited⟩ := Emulator.waited_run hsound hf hw hplay hkeys
  refine ⟨hanswers, hwaited.eq, fun hkey => ?_⟩
  exact Emulator.step_of_key (Emulator.sound_run hsound events).bounded (hwaited.fetch.trans hf) hw
    hkey

/-- The bytes of `LD V0, K`. -/
def askKey : List Byte := [0xF0, 0x0A]

/-- Two steps wait, with a tick between them, and the next one finds the key that was pressed. -/
theorem waits_for_key_five : ∃ (e : Emulator Display) (host' : Host), Machine.create
      { display := Display.bitmap (FrameBuffer.blank 8 4), rom := askKey } {} = .ok e host' ∧
    (∀ m ∈ e.steps [.step, .tick, .step, .setKey 5], m.answer = .ok (some 0xF00A)) ∧
    ∃ s', Emulator.step (e.run [.step, .tick, .step, .setKey 5]) = .ok 0xF00A s' ∧
      s'.machine.cpu.get 0 = 5 := by
  obtain ⟨e, host', h, hmemory, -⟩ := Machine.exists_create
    { display := Display.bitmap (FrameBuffer.blank 8 4), rom := askKey } {} rfl rfl rfl (by decide)
  have hfresh := Machine.fresh_of_create h
  have hfetch : e.machine.fetch = .ok 0xF00A := hfresh.fetch hmemory (by decide) (by decide)
  have hkeyboard : e.machine.keyboard = .latch 0 := (Machine.quietly_create h).2.2
  have hstep : (e.after .step).machine.keyboard = .latch 0 := by
    rw [Emulator.after_step, Emulator.keyboard_step hfresh.table, hkeyboard]
  have hkeys : ∀ key ∈ e.stepKeys [.step, .tick, .step, .setKey 5], key = 0 := by
    change ∀ key ∈ [e.machine.keyboard.key, (e.after .step).machine.keyboard.key], key = 0
    rw [hkeyboard, hstep]
    decide
  have hsound : (e.run [.step, .tick]).IsSound 0x1002 e.machine.display.frame :=
    Emulator.sound_run hfresh.isSound _
  have hwaited : (e.run [.step, .tick, .step]).machine.keyboard = .latch 0 := by
    show ((e.run [.step, .tick]).after .step).machine.keyboard = _
    rw [Emulator.after_step, Emulator.keyboard_step hsound.bounded.table]
    exact hstep
  have hpressed : (e.run [.step, .tick, .step, .setKey 5]).machine.keyboard.key = 5 := by
    show ((e.run [.step, .tick, .step]).machine.keyboard.assign 5).key = 5
    rw [hwaited]
    rfl
  obtain ⟨hanswers, -, hnext⟩ :=
    waits_for_key h [] hfetch (by decide) (by simp [Event.isIdle]) hkeys
  obtain ⟨s', hs', hmachine, -⟩ := hnext fun hnone => absurd (hpressed.symm.trans hnone) (by decide)
  refine ⟨e, host', h, hanswers, s', hs', ?_⟩
  rw [hmachine]
  exact (Cpu.get_set_same ..).trans hpressed

end

end Chip8
