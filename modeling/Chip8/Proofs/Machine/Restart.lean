/-
  Restarting. A reset never fails and reaches no byte behind the font, whatever state it finds the
  machine in (`reset_keeps`). It starts the processor anew, blanks the display and restores the
  font; so a machine whose other bytes are still those it was set up with becomes like any machine
  newly set up with the same program and a display of the same frame (`alike_of_reset`), and from
  there they run alike. The main statement is `restart_of_reset`.
-/
import Chip8.Proofs.Machine.Alike
import Chip8.Proofs.Machine.Quiet

namespace Chip8

namespace Memory

/-- Only the font tells apart a memory that has its other bytes from the start. -/
theorem overwrite_font_eq_start {m : Memory} {rom : List Byte} (hsize : m.size = standardSize)
    (hrom : rom.length ≤ romLimit) (h : ∀ a, Font.data.length ≤ a → m.byte a = (start rom).byte a) :
    m.overwrite fontStart Font.data = start rom := by
  have hfit := fontStart_add_le hsize
  have hend := programStart_add_le size_withFont hrom
  apply ext_byte
  · rw [size_overwrite _ _ _ hfit, hsize, start, size_overwrite _ _ _ hend, size_withFont]
  · intro a _
    by_cases hfont : a < Font.data.length
    · rw [byte_overwrite_font hsize hfont, byte_start_font hrom hfont]
    · rw [byte_overwrite hfit, if_neg (by unfold fontStart; omega)]
      exact h a (Nat.le_of_not_lt hfont)

end Memory

namespace Emulator

section

variable {δ : Type} [Screen δ] {e : Emulator δ}

/-- A reset succeeds in every state, and leaves every byte behind the font alone. -/
theorem reset_keeps (hsize : e.machine.memory.size = Memory.standardSize) :
    ∃ e', reset e = .ok () e' ∧
      ∀ a, Font.data.length ≤ a → e'.machine.memory.byte a = e.machine.memory.byte a := by
  refine ⟨_, reset_of_size hsize, fun a ha => ?_⟩
  have hfit := Memory.fontStart_add_le hsize
  show (e.machine.memory.overwrite Memory.fontStart Font.data).byte a = _
  rw [Memory.byte_overwrite hfit, if_neg (by unfold Memory.fontStart; omega)]

end

variable {config config' : MachineConfig Display} {host host' host₁ host₁' : Host}
variable {start new e : Emulator Display}

/-- The machine with a keyboard and a random source put in. -/
def supplied (keyboard : Keyboard) (random : RandomSource) : Emulator Display → Emulator Display :=
  mapMachine fun m => { m with keyboard, random }

/-- After a reset, a machine whose bytes behind the font are those of the start, on a display of the
same frame, is like a new one but for the keyboard and the random source. -/
theorem alike_of_reset (h : Machine.create config host = .ok start host')
    (h' : Machine.create config' host₁ = .ok new host₁') (hrom : config'.rom = config.rom)
    (hdisplay : config'.display.frame = config.display.frame)
    (he : e.IsSound 0x1002 start.machine.display.frame)
    (hsame : ∀ a, Font.data.length ≤ a →
      e.machine.memory.byte a = start.machine.memory.byte a)
    {e' : Emulator Display} (hreset : reset e = .ok () e') (keyboard : Keyboard)
    (random : RandomSource) :
    (e'.supplied keyboard random).Alike (new.supplied keyboard random) := by
  obtain ⟨display, hpower, hfits, hmemory, hframe, -⟩ := Machine.ready_of_create h
  obtain ⟨display', hpower', -, hmemory', hframe', hcells'⟩ := Machine.ready_of_create h'
  have hfresh := Machine.fresh_of_create h'
  have hframes : e.machine.display.frame = new.machine.display.frame := by
    rw [he.frame, hframe, Display.frame_of_powerOn hpower, hframe',
      Display.frame_of_powerOn hpower', hdisplay]
  have hblank : (Screen.clear e.stage).1.frame = new.machine.display.frame :=
    (Display.frame_clear e.stage).trans hframes
  cases (reset_of_size he.bounded.memory).symm.trans hreset
  constructor
  · exact hfresh.cpu.symm
  · exact hfresh.executed.symm
  · rw [hmemory] at hsame
    show e.machine.memory.overwrite Memory.fontStart Font.data = new.machine.memory
    rw [hmemory', hrom]
    exact Memory.overwrite_font_eq_start he.bounded.memory hfits hsame
  · rfl
  · rfl
  · exact he.bounded.table.trans hfresh.table.symm
  · exact he.bounded.hint.trans hfresh.hint.symm
  · show (Screen.clear e.stage).1.cells? = new.machine.display.cells?
    rw [Display.cells?_clear, hcells', ← Display.cells?_frame, ← Display.cells?_frame, ← hframe']
    exact congrArg Display.cells? hframes
  · show (Screen.clear e.stage).1.isOversized = new.machine.display.isOversized
    rw [← Display.isOversized_frame, hblank, Display.isOversized_frame]

end Emulator

/-! ## Restarting -/

section

variable {config config' : MachineConfig Display} {host host' host₁ host₁' : Host}
variable {start new : Emulator Display}

/-- Where a run of a machine has left every byte from address 80 on as it was, a reset restarts the
program: with any keyboard and random source, every further run of the machine and of one that is
newly set up with the same program and a display of the same frame end with the same processor,
count, memory and cells, and the two are answered alike unless only one host takes the name of a
key. A reset itself succeeds on every machine, whatever
state it is in, and changes no byte from address 80 on. -/
theorem restart_of_reset (h : Machine.create config host = .ok start host')
    (h' : Machine.create config' host₁ = .ok new host₁') (hrom : config'.rom = config.rom)
    (hdisplay : config'.display.frame = config.display.frame)
    (hcount : config.display.IsCountable) (before : List Event)
    (hsame : ∀ a, 80 ≤ a → (start.run before).machine.memory.byte a =
      start.machine.memory.byte a) :
    (∃ e, Emulator.reset (start.run before) = .ok () e ∧
      ∀ (keyboard : Keyboard) (random : RandomSource) (later : List Event),
        let restarted := e.supplied keyboard random
        let fresh := new.supplied keyboard random
        ((∀ event ∈ later, event.HeardAlike host host₁) →
          (restarted.moments later).map Moment.answer = (fresh.moments later).map Moment.answer) ∧
        (restarted.run later).machine.cpu = (fresh.run later).machine.cpu ∧
        (restarted.run later).machine.executed = (fresh.run later).machine.executed ∧
        (restarted.run later).machine.memory = (fresh.run later).machine.memory ∧
        (restarted.run later).machine.display.cells? =
          (fresh.run later).machine.display.cells?) ∧
    ∀ s : Emulator Display, s.machine.memory.size = Memory.standardSize →
      ∃ s', Emulator.reset s = .ok () s' ∧
        ∀ a, 80 ≤ a → s'.machine.memory.byte a = s.machine.memory.byte a := by
  refine ⟨?_, fun s hsize => Emulator.reset_keeps hsize⟩
  have hfresh := Machine.fresh_of_create h
  have hsound : (start.run before).IsSound 0x1002 start.machine.display.frame :=
    Emulator.sound_run hfresh.isSound before
  obtain ⟨e, hreset, -⟩ := Emulator.reset_keeps hsound.bounded.memory
  have he : e.IsSound 0x1002 start.machine.display.frame := by
    have hkept := Emulator.keeps_reset _ hsound
    rwa [hreset] at hkept
  refine ⟨e, hreset, fun keyboard random later => ?_⟩
  intro restarted fresh
  have halike : restarted.Alike fresh :=
    Emulator.alike_of_reset h h' hrom hdisplay hsound hsame hreset keyboard random
  have hsupplied : restarted.IsSound 0x1002 start.machine.display.frame :=
    ⟨{ he.bounded with }, he.frame⟩
  have hcount' : start.machine.display.frame.IsCountable :=
    (Display.isCountable_frame_iff _).mpr (Display.isCountable_of_sides? hfresh.sides hcount)
  obtain ⟨hrun, hanswers⟩ := Emulator.alike_run halike hsupplied hcount' later
  have hout : host.SameOutput restarted.host := by
    have htable (events : List Event) : (start.run events).machine.table = some standardTable :=
      (Emulator.sound_run hfresh.isSound events).bounded.table
    have hrun := Emulator.sameOutput_run htable (before ++ [.reset])
    rw [Emulator.run_append, Emulator.after_reset, hreset] at hrun
    exact (Machine.sameOutput_of_create h).trans hrun
  have hout' : host₁.SameOutput new.host := Machine.sameOutput_of_create h'
  exact ⟨fun hheard => hanswers fun event hmem => (hheard event hmem).congr hout hout', hrun.cpu,
    hrun.executed, hrun.memory, hrun.cells⟩

/-- A program that has loaded a register is restarted, beside a new machine with a keypad. -/
theorem restart_of_reset_load : ∃ (start new e : Emulator Display) (host' host₁' : Host),
    Machine.create
      { display := Display.bitmap (FrameBuffer.blank 8 4), rom := [0x60, 0x03] } {} =
        .ok start host' ∧
    Machine.create
      { display := Display.bitmap (FrameBuffer.blank 8 4), rom := [0x60, 0x03]
        keyboard := .keypad {} } {} = .ok new host₁' ∧
    (start.run [.step]).machine.cpu.get 0 = 3 ∧
    Emulator.reset (start.run [.step]) = .ok () e ∧
    ∀ (keyboard : Keyboard) (random : RandomSource) (later : List Event),
      ((e.supplied keyboard random).moments later).map Moment.answer =
        ((new.supplied keyboard random).moments later).map Moment.answer := by
  obtain ⟨start, host', h, hmemory, -⟩ := Machine.exists_create
    { display := Display.bitmap (FrameBuffer.blank 8 4), rom := [0x60, 0x03] } {} rfl rfl rfl
    (by decide)
  obtain ⟨new, host₁', h', -⟩ := Machine.exists_create
    { display := Display.bitmap (FrameBuffer.blank 8 4), rom := [0x60, 0x03]
      keyboard := .keypad {} } {} rfl rfl rfl (by decide)
  have hfresh := Machine.fresh_of_create h
  have hfetch : start.machine.fetch = .ok 0x6003 := hfresh.fetch hmemory (by decide) (by decide)
  have hload : Word.operation? 0x6003 = some .loadByte :=
    Word.operation?_eq_some_iff.mpr (by decide)
  have hstep := Emulator.step_of_perform hfresh.table hfetch hload rfl
  have hcpu : (start.run [.step]).machine.cpu.get 0 = 3 := by
    show (start.after .step).machine.cpu.get 0 = 3
    rw [Emulator.after_step, hstep]
    exact Cpu.get_set_same ..
  have hsame : (start.run [.step]).machine.memory = start.machine.memory := by
    show (start.after .step).machine.memory = _
    rw [Emulator.after_step, hstep]
    rfl
  have hcount : (Display.bitmap (FrameBuffer.blank 8 4)).IsCountable := by
    intro f hf
    cases hf
    exact FrameBuffer.isCountable_of_blank? (w := 8) (h := 4) rfl
  obtain ⟨⟨e, hreset, hrestart⟩, -⟩ :=
    restart_of_reset h h' rfl rfl hcount [.step] fun a _ => by rw [hsame]
  exact ⟨start, new, e, host', host₁', h, h', hcpu, hreset,
    fun keyboard random later => (hrestart keyboard random later).1
      fun event _ => .of_sameOutput (.refl _) event⟩

end

end Chip8
