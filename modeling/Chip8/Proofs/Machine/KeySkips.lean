/-
  Skipping by a key. Along a run whose keys come from the host alone, the keypad shows the presses
  and releases so far (`shows_run`), and a word `Ex9E` or `ExA1` compares the latch with a register.
  The latch stands for the key pressed last of those that are down, but without one it is zero, and
  zero is compared like any key: `Ex9E` then skips if the register is zero. So the skips see real
  keys only while a key is down or the register is not zero. The main statement is `skips_of_run`.
-/
import Chip8.Proofs.Keypad
import Chip8.Proofs.Machine.Frame
import Chip8.Proofs.Machine.Quiet
import Chip8.Proofs.Machine.RunBounds

namespace Chip8

/-! ## The latest key -/

namespace PadEvent

/-- The key was pressed last of those that are down. -/
def IsLatest (recent : List PadEvent) (k : PadKey) : Prop :=
  IsDown recent k ∧ ∀ l, IsDown recent l → l = k ∨ lastPress l recent < lastPress k recent

theorem IsLatest.unique {recent : List PadEvent} {k l : PadKey} (hk : IsLatest recent k)
    (hl : IsLatest recent l) : k = l := by
  rcases hk.2 l hl.1 with h | hlk
  · exact h.symm
  · rcases hl.2 k hk.1 with h | hkl
    · exact h
    · omega

end PadEvent

namespace Keypad.Latches

open PadEvent

variable {recent : List PadEvent} {key key' : Byte}

theorem unique (h : Latches recent key) (h' : Latches recent key') : key = key' := by
  cases h with
  | down k hdown hlast hkey =>
    cases h' with
    | down l hdown' hlast' hkey' =>
      rw [hkey, hkey', IsLatest.unique ⟨hdown, hlast⟩ ⟨hdown', hlast'⟩]
    | idle hup => exact absurd hdown (hup k)
  | idle hup hkey =>
    cases h' with
    | down l hdown' => exact absurd hdown' (hup l)
    | idle _ hkey' => rw [hkey, hkey']

/-- While a key is down, or for a code that is not zero, the latch is the code of the latest key. -/
theorem iff_isLatest (h : (∃ k, IsDown recent k) ∨ key ≠ 0) :
    Latches recent key ↔ ∃ k, IsLatest recent k ∧ k.code = key := by
  constructor
  · intro hlatches
    cases hlatches with
    | down k hdown hlast hkey => exact ⟨k, ⟨hdown, hlast⟩, hkey.symm⟩
    | idle hup hkey =>
      rcases h with ⟨k, hdown⟩ | hne
      · exact absurd hdown (hup k)
      · exact absurd hkey hne
  · rintro ⟨k, ⟨hdown, hlast⟩, hcode⟩
    exact .down k hdown hlast hcode.symm

end Keypad.Latches

/-! ## Host keys along a run -/

namespace Event

/-- What the event is to a keypad. -/
def padEvent? : Event → Option PadEvent
  | press name => some (.press name)
  | release name => some (.release name)
  | _ => none

/-- The presses and releases among the events. -/
def padEvents (events : List Event) : List PadEvent := events.filterMap padEvent?

theorem sinceReset_padEvents (events : List Event) :
    PadEvent.sinceReset (padEvents events) = padEvents events := by
  apply PadEvent.sinceReset_eq_self
  intro hmem
  obtain ⟨event, -, hevent⟩ := List.mem_filterMap.mp hmem
  cases event <;> cases hevent

end Event

/-- To the next instruction or over it, where the program counter does not run over. -/
theorem Cpu.IsBounded.advance_skipIf {c : Cpu} {limit : Int} (hc : c.IsBounded limit)
    (hlimit : limit ≤ 0xFFFB) (holds : Bool) :
    (c.skipIf holds).advance = { c with pc := c.pc + if holds then 4 else 2 } := by
  have hnonneg := hc.pc_nonneg
  have hle := hc.pc_le
  have hpc : wrap16 ((c.skipIf holds).pc + 2) = c.pc + if holds then 4 else 2 := by
    cases holds
    · change wrap16 (c.pc + 2) = c.pc + 2
      unfold wrap16
      omega
    · change wrap16 (wrap16 (c.pc + 2) + 2) = c.pc + 4
      unfold wrap16
      omega
  cases holds <;> exact congrArg (fun pc => { c with pc }) hpc

namespace Emulator

open Event Keypad

variable {e : Emulator Display} {pad : Keypad} {keys : List PadEvent}

/-- A host key reaches the keypad. -/
theorem shows_after_key {act : Act (Keyboard × Host) Unit} {padEvent : PadEvent}
    (hpad : e.machine.keyboard = .keypad pad) (hshows : Shows (PadEvent.sinceReset keys) pad)
    (hact : padEvent.act = act) :
    ∃ pad', (stateOf (onKeyboard act e)).machine.keyboard = .keypad pad' ∧
      Shows (PadEvent.sinceReset (keys ++ [padEvent])) pad' := by
  obtain ⟨pad', host, hstep, -, -, hshows'⟩ := hshows.step padEvent e.host
  refine ⟨pad', ?_, hshows'⟩
  rw [stateOf_onKeyboard, hpad, ← hact, hstep]
  rfl

/-- One event: the keyboard stays a keypad that shows the host keys so far. -/
theorem shows_after (htable : e.machine.table = some standardTable)
    (hpad : e.machine.keyboard = .keypad pad) (hshows : Shows (PadEvent.sinceReset keys) pad)
    {event : Event} (hevent : ∀ code, event ≠ .setKey code) :
    ∃ pad', (e.after event).machine.keyboard = .keypad pad' ∧
      Shows (PadEvent.sinceReset (keys ++ padEvents [event])) pad' := by
  have hsame (hnone : padEvents [event] = [])
      (hkeyboard : (e.after event).machine.keyboard = e.machine.keyboard) :
      ∃ pad', (e.after event).machine.keyboard = .keypad pad' ∧
        Shows (PadEvent.sinceReset (keys ++ padEvents [event])) pad' := by
    rw [hnone, List.append_nil]
    exact ⟨pad, hkeyboard.trans hpad, hshows⟩
  cases event with
  | press name =>
    rw [after_press]
    exact shows_after_key hpad hshows rfl
  | release name =>
    rw [after_release]
    exact shows_after_key hpad hshows rfl
  | step =>
    refine hsame rfl ?_
    rw [after_step, keyboard_step htable]
  | tick => exact hsame rfl rfl
  | reset =>
    obtain ⟨memory, hreset⟩ := exists_after_reset e
    refine hsame rfl ?_
    rw [hreset]
    rfl
  | loadRom data =>
    obtain ⟨memory, host, hloaded⟩ := exists_after_loadRom e data
    refine hsame rfl ?_
    rw [hloaded]
  | setKey code => exact absurd rfl (hevent code)

theorem shows_run {fr : Display} (h : e.IsSound 0x1002 fr) (hpad : e.machine.keyboard = .keypad {})
    {events : List Event} (hkeys : ∀ code, .setKey code ∉ events) :
    ∃ pad, (e.run events).machine.keyboard = .keypad pad ∧ Shows (padEvents events) pad := by
  rw [← sinceReset_padEvents]
  induction events using List.reverseRecOn with
  | nil => exact ⟨{}, hpad, Shows.reset⟩
  | append_singleton events event ih =>
    obtain ⟨pad, hfront, hshows⟩ :=
      ih fun code hcode => hkeys code (List.mem_append_left _ hcode)
    rw [run_append, padEvents, List.filterMap_append]
    refine shows_after (sound_run h events).bounded.table hfront hshows fun code heq => ?_
    exact hkeys code (List.mem_append_right _ (List.mem_singleton.mpr heq.symm))

/-! ## Skips -/

/-- The word is executed with success and takes the program counter so many bytes further; but for
the count, nothing else changes. -/
def MovesBy (bytes : Int) (w : Word) (e : Emulator Display) : Prop :=
  ∃ e', execute w e = .ok () e' ∧ e'.machine = { e.machine with
    cpu := { e.machine.cpu with pc := e.machine.cpu.pc + bytes }
    executed := e.machine.executed + 1 }

/-- The word passes over the next one under a condition, and goes on to it otherwise. -/
def SkipsWhen (condition : Prop) (w : Word) (e : Emulator Display) : Prop :=
  (condition → MovesBy 4 w e) ∧ (¬ condition → MovesBy 2 w e)

variable {w : Word}

theorem SkipsWhen.congr {condition condition' : Prop} (h : SkipsWhen condition w e)
    (hiff : condition ↔ condition') : SkipsWhen condition' w e := by
  rwa [← propext hiff]

/-- An operation that skips under a condition, and does no more than that. -/
theorem skipsWhen_of_perform (hm : e.machine.IsBounded 0x1002) {op : Operation}
    (hop : w.operation? = some op) (hmoves : op.row.advances = true) {condition : Prop}
    {holds : Bool} (hholds : holds = true ↔ condition)
    (hp : perform op w (e.announce op w) =
      .ok () ((e.announce op w).mapCpu (·.skipIf holds))) : SkipsWhen condition w e := by
  have hexecute := execute_of_perform hm.table hop hp
  have hmovesBy : MovesBy (if holds then 4 else 2) w e := by
    rw [complete, if_pos hmoves] at hexecute
    refine ⟨_, hexecute, ?_⟩
    exact congrArg (fun cpu => { e.machine with cpu, executed := e.machine.executed + 1 })
      (hm.cpu.advance_skipIf (by decide) holds)
  constructor
  · intro hc
    rwa [if_pos (hholds.mpr hc)] at hmovesBy
  · intro hc
    rwa [if_neg (mt hholds.mp hc)] at hmovesBy

theorem skipsWhen_key (hm : e.machine.IsBounded 0x1002) (hw : w &&& 0xF0FF = 0xE09E) :
    SkipsWhen (e.machine.keyboard.key = e.machine.cpu.get w.x) w e :=
  skipsWhen_of_perform hm (Word.operation?_eq_some_iff.mpr hw : w.operation? = some .skipIfKey) rfl
    beq_iff_eq rfl

theorem skipsWhen_notKey (hm : e.machine.IsBounded 0x1002) (hw : w &&& 0xF0FF = 0xE0A1) :
    SkipsWhen (e.machine.keyboard.key ≠ e.machine.cpu.get w.x) w e :=
  skipsWhen_of_perform hm (Word.operation?_eq_some_iff.mpr hw : w.operation? = some .skipIfNotKey)
    rfl bne_iff_ne rfl

end Emulator

/-! ## Skips and real keys -/

section

open Event Keypad

variable {config : MachineConfig Display} {host host' : Host} {start : Emulator Display}

/-- In every run of a machine with a keypad whose keys come from the host, `Ex9E` skips the next
word exactly if the latch of the presses and releases so far shows the register: the code of the
key pressed last of those that are down, or zero without one; `ExA1` skips exactly if not. While a
key is down, or with a register that is not zero, this is whether the register is the code of that
key. -/
theorem skips_of_run (h : Machine.create config host = .ok start host') {pad : Keypad}
    (hpad : config.keyboard = .keypad pad) {events : List Event}
    (hkeys : ∀ code, .setKey code ∉ events) (w : Word) :
    let e := start.run events
    let keys := padEvents events
    let code := e.machine.cpu.get w.x
    (w &&& 0xF0FF = 0xE09E → e.SkipsWhen (Latches keys code) w ∧
      ((∃ k, PadEvent.IsDown keys k) ∨ code ≠ 0 →
        e.SkipsWhen (∃ k, PadEvent.IsLatest keys k ∧ k.code = code) w)) ∧
    (w &&& 0xF0FF = 0xE0A1 → e.SkipsWhen (¬ Latches keys code) w ∧
      ((∃ k, PadEvent.IsDown keys k) ∨ code ≠ 0 →
        e.SkipsWhen (¬ ∃ k, PadEvent.IsLatest keys k ∧ k.code = code) w)) := by
  intro e keys code
  have hfresh := Machine.fresh_of_create h
  have hstart : start.machine.keyboard = .keypad {} := by
    rw [(Machine.quietly_create h).2.2, hpad]
    rfl
  have hm : e.machine.IsBounded 0x1002 := (Emulator.sound_run hfresh.isSound events).bounded
  obtain ⟨now, hnow, hshows⟩ := Emulator.shows_run hfresh.isSound hstart hkeys
  have hlatch : Latches keys e.machine.keyboard.key := by
    rw [hnow]
    exact hshows.latches
  have hkey : e.machine.keyboard.key = code ↔ Latches keys code :=
    ⟨fun heq => heq ▸ hlatch, hlatch.unique⟩
  refine ⟨fun hw => ?_, fun hw => ?_⟩
  · have hskips := (Emulator.skipsWhen_key hm hw).congr hkey
    exact ⟨hskips, fun hreal => hskips.congr (Latches.iff_isLatest hreal)⟩
  · have hskips := (Emulator.skipsWhen_notKey hm hw).congr (not_congr hkey)
    exact ⟨hskips, fun hreal => hskips.congr (not_congr (Latches.iff_isLatest hreal))⟩

/-- What the runs below start from: a keypad, and a program of one skip. -/
def skipConfig : MachineConfig Display where
  display := Display.bitmap (FrameBuffer.blank 8 4)
  keyboard := .keypad {}
  rom := [0xE0, 0x9E]

/-- While the key of the digit five is down and the register is zero, `ExA1` skips. -/
theorem skips_of_run_five : ∃ (e : Emulator Display) (host' : Host),
    Machine.create skipConfig {} = .ok e host' ∧ e.machine.cpu.get 0 = 0 ∧
    PadEvent.IsDown (padEvents [.press "5"]) ⟨4⟩ ∧ (e.run [.press "5"]).MovesBy 4 0xE0A1 := by
  obtain ⟨e, host', h, -⟩ := Machine.exists_create skipConfig {} rfl rfl rfl (by decide)
  have hcpu : e.machine.cpu = {} := (Machine.fresh_of_create h).cpu
  have hkeys : ∀ code, Event.setKey code ∉ [Event.press "5"] := by simp
  have hfive : PadEvent.IsDown (padEvents [.press "5"]) ⟨4⟩ := by
    change PadEvent.IsDown ([] ++ [.press "5"]) _
    exact PadEvent.isDown_append_of_presses (by decide)
  have hnone : ¬ ∃ k, PadEvent.IsLatest (padEvents [.press "5"]) k ∧
      k.code = (e.run [.press "5"]).machine.cpu.get 0 := by
    obtain ⟨keyed, hkeyed⟩ := Emulator.exists_after_press e "5"
    rintro ⟨k, -, hcode⟩
    refine k.code_ne_zero (hcode.trans ?_)
    change (e.after (.press "5")).machine.cpu.get 0 = 0
    rw [hkeyed]
    exact congrArg (Cpu.get · 0) hcpu
  obtain ⟨-, hskips⟩ := skips_of_run h rfl hkeys 0xE0A1
  exact ⟨e, host', h, congrArg (Cpu.get · 0) hcpu, hfive,
    ((hskips (by decide)).2 (.inl ⟨_, hfive⟩)).1 hnone⟩

/-- No key is down, and yet `Ex9E` skips, as the register is zero. -/
theorem exists_skip_idle : ∃ (e : Emulator Display) (host' : Host),
    Machine.create skipConfig {} = .ok e host' ∧
    (∀ k, ¬ PadEvent.IsDown (padEvents []) k) ∧ e.machine.cpu.pc = 0x200 ∧
    ∃ e', Emulator.step e = .ok 0xE09E e' ∧ e'.machine.cpu.pc = 0x204 := by
  obtain ⟨e, host', h, hmemory, -⟩ := Machine.exists_create skipConfig {} rfl rfl rfl (by decide)
  have hfresh := Machine.fresh_of_create h
  have hfetch : e.machine.fetch = .ok 0xE09E := hfresh.fetch hmemory (by decide) (by decide)
  have hkeyboard : e.machine.keyboard = .keypad {} := (Machine.quietly_create h).2.2
  have hskips := Emulator.skipsWhen_key hfresh.isSound.bounded (w := 0xE09E) (by decide)
  obtain ⟨e', hexecute, hmachine⟩ := hskips.1 (by rw [hkeyboard, hfresh.cpu]; rfl)
  refine ⟨e, host', h, PadEvent.not_isDown_nil, by rw [hfresh.cpu], e', ?_, ?_⟩
  · rw [Emulator.step_of_fetch hfetch]
    exact Act.bind_ok hexecute
  · rw [hmachine, hfresh.cpu]
    rfl

end

end Chip8
