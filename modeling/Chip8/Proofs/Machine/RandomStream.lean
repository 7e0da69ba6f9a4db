/-
  Random bytes along runs. A random instruction never fails (`step_of_isRandom`) and takes one byte
  from the source, whatever its mask is; no other instruction, no step that fails and nothing from
  outside takes any, a reset neither (`random_after_of_none`). So after a run the source is as far
  on as random instructions were executed since the machine was set up, and each of these drew the
  byte of the stream that stands at the number of those before it. The main statement is
  `draws_of_run`.
-/
import Chip8.Proofs.Machine.Restart
import Chip8.Proofs.Machine.Stage
import Chip8.Proofs.Machine.Underflow

namespace Chip8

/-- Whether the word is a random instruction. -/
def Word.IsRandom (w : Word) : Prop := w &&& 0xF000 = 0xC000

instance (w : Word) : Decidable w.IsRandom := inferInstanceAs (Decidable (_ = _))

theorem Word.operation?_eq_random_iff {w : Word} : w.operation? = some .random ↔ w.IsRandom :=
  operation?_eq_some_iff

namespace RandomSource

theorem after_succ (s : RandomSource) (k : Nat) : s.after (k + 1) = (s.after k).next.2 := by
  induction k generalizing s with
  | zero => rfl
  | succ k ih => exact ih s.next.2

/-- A script gives its bytes in order, and zeros after them. -/
theorem byteAt_script (bytes : List Byte) (k : Nat) :
    (script bytes).byteAt k = bytes.getD k 0 := by
  induction k generalizing bytes with
  | zero => cases bytes <;> rfl
  | succ k ih =>
    cases bytes with
    | nil => exact ih []
    | cons b rest => exact ih rest

end RandomSource

/-! ## What a history tells of the source -/

namespace Moment

/-- The random instruction that the event executed with success, if it did. -/
def drawing? (m : Moment Display) : Option Word := m.word?.filter fun w => decide w.IsRandom

/-- What a random instruction left in its register. -/
def drawn? (m : Moment Display) : Option Byte :=
  m.drawing?.map fun w => (m.before.after m.event).machine.cpu.get w.x

/-- The random instructions of a run, in order. -/
def drawings (moments : List (Moment Display)) : List Word := moments.filterMap drawing?

/-- The values that the random instructions of a run drew, in order. -/
def drawn (moments : List (Moment Display)) : List Byte := moments.filterMap drawn?

theorem drawings_append (moments : List (Moment Display)) (m : Moment Display) :
    drawings (moments ++ [m]) = drawings moments ++ m.drawing?.toList := by
  unfold drawings
  rw [List.filterMap_append]
  cases hm : m.drawing? <;> simp [hm]

theorem drawn_append (moments : List (Moment Display)) (m : Moment Display) :
    drawn (moments ++ [m]) = drawn moments ++ m.drawn?.toList := by
  unfold drawn
  rw [List.filterMap_append]
  cases hm : m.drawn? <;> simp [hm]

theorem drawing?_of_step_ok {e e' : Emulator Display} {w : Word} (h : Emulator.step e = .ok w e') :
    (⟨.step, e⟩ : Moment Display).drawing? = if w.IsRandom then some w else none := by
  unfold drawing?
  rw [word?_step, h]
  change Option.filter _ (some w) = _
  simp [Option.filter_some]

theorem drawing?_of_ne_step {event : Event} (h : event ≠ .step) (e : Emulator Display) :
    (⟨event, e⟩ : Moment Display).drawing? = none := by
  unfold drawing?
  rw [word?_of_ne_step h]
  rfl

/-- Only a step that succeeds draws. -/
theorem of_drawing?_eq_some {event : Event} {e : Emulator Display} {w : Word}
    (h : (⟨event, e⟩ : Moment Display).drawing? = some w) :
    event = .step ∧ w.IsRandom ∧ ∃ e', Emulator.step e = .ok w e' := by
  obtain ⟨hword, hrandom⟩ := Option.filter_eq_some_iff.mp h
  have hstep : event = .step := by
    by_contra hother
    rw [word?_of_ne_step hother] at hword
    cases hword
  subst hstep
  rw [word?_step] at hword
  cases hr : Emulator.step e with
  | error fault e' =>
    rw [hr] at hword
    cases hword
  | ok w' e' =>
    rw [hr] at hword
    cases hword
    exact ⟨rfl, of_decide_eq_true hrandom, e', rfl⟩

end Moment

namespace Emulator

open Moment

variable {e e' : Emulator Display} {w : Word} {fault : Fault}

/-! ## What an event does to the source -/

theorem random_of_step_ok (htable : e.machine.table = some standardTable)
    (h : step e = .ok w e') : e'.machine.random =
      if w.IsRandom then e.machine.random.next.2 else e.machine.random :=
  (framedBy_of_execute htable (execute_of_step_ok h).2).random

theorem random_of_step_error (htable : e.machine.table = some standardTable)
    (h : step e = .error fault e') : e'.machine.random = e.machine.random :=
  have hsame : Part.random.IsSame e.machine e'.machine := by
    refine isSame_of_step_error htable (fun op w s htarget => ?_) h
    obtain rfl : op = .random := htarget
    exact ⟨_, rfl⟩
  hsame

/-- A random instruction never fails. -/
theorem step_of_isRandom (htable : e.machine.table = some standardTable)
    (hf : e.machine.fetch = .ok w) (hw : w.IsRandom) : ∃ e', step e = .ok w e' ∧
      e'.machine.cpu.get w.x = e.machine.random.next.1 &&& w.kk ∧
      e'.machine.random = e.machine.random.next.2 := by
  refine ⟨_, step_of_perform htable hf (Word.operation?_eq_random_iff.mpr hw) rfl, ?_, rfl⟩
  exact Cpu.get_set_same ..

theorem random_after_of_some {event : Event} (htable : e.machine.table = some standardTable)
    (h : (⟨event, e⟩ : Moment Display).drawing? = some w) :
    (e.after event).machine.cpu.get w.x = e.machine.random.next.1 &&& w.kk ∧
      (e.after event).machine.random = e.machine.random.next.2 := by
  obtain ⟨rfl, hw, e', hstep⟩ := of_drawing?_eq_some h
  obtain ⟨e₁, hstep', hget, hrandom⟩ :=
    step_of_isRandom htable (execute_of_step_ok hstep).1 hw
  rw [after_step, hstep']
  exact ⟨hget, hrandom⟩

/-- Nothing from outside takes a byte. -/
theorem random_after_of_ne_step (e : Emulator Display) {event : Event} (hstep : event ≠ .step) :
    (e.after event).machine.random = e.machine.random := by
  by_cases hreset : event = .reset
  · subst hreset
    obtain ⟨memory, hreset⟩ := exists_after_reset e
    rw [hreset]
    rfl
  · by_cases htick : event = .tick
    · subst htick
      rfl
    · obtain ⟨keyboard, memory, host, houtside, -⟩ := exists_after_outside e hstep hreset htick
      rw [houtside]

/-- Whatever happens but a random instruction takes no byte. -/
theorem random_after_of_none {event : Event} (htable : e.machine.table = some standardTable)
    (h : (⟨event, e⟩ : Moment Display).drawing? = none) :
    (e.after event).machine.random = e.machine.random := by
  by_cases hstep : event = .step
  · subst hstep
    rw [after_step]
    cases hr : step e with
    | error fault e' => exact random_of_step_error htable hr
    | ok w e' =>
      have hother : ¬ w.IsRandom := fun hw => by
        rw [drawing?_of_step_ok hr, if_pos hw] at h
        cases h
      exact (random_of_step_ok htable hr).trans (if_neg hother)
  · exact random_after_of_ne_step e hstep

/-- The source after a run, and the values that were drawn from it. -/
theorem draws_run {fr : Display} (h : e.IsSound 0x1002 fr) (events : List Event) :
    (e.run events).machine.random = e.machine.random.after (drawings (e.moments events)).length ∧
      drawn (e.moments events) =
        (drawings (e.moments events)).mapIdx fun k w => e.machine.random.byteAt k &&& w.kk := by
  refine sound_history (P := fun moments s =>
    s.machine.random = e.machine.random.after (drawings moments).length ∧
      drawn moments = (drawings moments).mapIdx fun k w => e.machine.random.byteAt k &&& w.kk)
    h ⟨rfl, rfl⟩ (fun moments s event hs hdraws => ?_) events
  obtain ⟨hrandom, hdrawn⟩ := hdraws
  rw [drawings_append, drawn_append]
  cases hm : (⟨event, s⟩ : Moment Display).drawing? with
  | none =>
    have hsame := random_after_of_none hs.bounded.table hm
    simp only [drawn?, hm, Option.map_none, Option.toList_none, List.append_nil]
    exact ⟨hsame.trans hrandom, hdrawn⟩
  | some w =>
    obtain ⟨hget, htaken⟩ := random_after_of_some hs.bounded.table hm
    rw [hrandom, RandomSource.next_after] at hget
    rw [hrandom, ← RandomSource.after_succ] at htaken
    simp only [drawn?, hm, Option.map_some, Option.toList_some, List.length_append,
      List.length_singleton, List.mapIdx_concat]
    exact ⟨htaken, by rw [hget, hdrawn]⟩

/-! ## The source of a machine that was set up -/

/-- The source is made of the seed, or of the bytes that the host has. -/
theorem random_of_setUp {seed : Setting Int} {rom : List Byte} (h : setUp seed rom e = .ok () e') :
    RandomSource.ofSeed seed e.host.randomBytes = .ok e'.machine.random := by
  obtain ⟨source, hsource, hrest⟩ := of_setUp_ok h
  let kept (s : Emulator Display) : Prop := s.machine.random = source
  have hreset : Act.Keeps kept reset := by
    intro s hs
    rw [← after_reset]
    exact (random_after_of_ne_step s Event.noConfusion).trans hs
  have hload (data : List Byte) : Act.Keeps kept (loadRom data) := by
    intro s hs
    rw [← after_loadRom]
    exact (random_after_of_ne_step s Event.noConfusion).trans hs
  have hkept : e'.machine.random = source :=
    (keeps_resetAndLoad hreset hload rom).of_ok rfl hrest
  rw [hsource, hkept]

end Emulator

section

variable {config : MachineConfig Display} {host host' : Host} {start : Emulator Display}

/-- Setting up takes no byte from the source. -/
theorem Machine.random_of_create (h : Machine.create config host = .ok start host') :
    RandomSource.ofSeed config.seed host.randomBytes = .ok start.machine.random := by
  obtain ⟨display, audio, hdisplay, haudio, hrest⟩ :=
    Emulator.of_powerOn_ok (Machine.powerOn_of_create h)
  let kept (h : Host) : Prop := h.randomBytes = host.randomBytes
  have hlog (h : Host) (category message : Text) (hh : kept h) : kept (h.logged category message) :=
    (Host.of_logged (fun _ _ => rfl) h category message).trans hh
  have hshown := Display.holds_powerOn hlog (fun _ _ _ => id) (fun _ _ => id)
    (config.display, host) rfl
  rw [show Screen.powerOn (config.display, host) = _ from hdisplay] at hshown
  have hheard := Audio.holds_powerOn hlog (fun _ _ => id) (config.audio, display.2) hshown
  rw [show Audio.powerOn (config.audio, display.2) = _ from haudio] at hheard
  have hsame : audio.2.randomBytes = host.randomBytes := hheard
  rw [← hsame]
  exact Emulator.random_of_setUp hrest

open Moment

/-- In every run of a machine that was set up, the random bytes are taken in the order of the random
instructions: the source is the one of the seed, or the bytes that the host gives; it is as far on
as random instructions were executed, across resets; and each of these drew the byte that stands at
the number of those before it, under its mask. The next one never fails and takes the next byte,
and whatever else happens takes none. -/
theorem draws_of_run (h : Machine.create config host = .ok start host') :
    ∃ source, RandomSource.ofSeed config.seed host.randomBytes = .ok source ∧
      (config.seed = .absent → ∀ k, source.byteAt k = host.randomBytes.getD k 0) ∧
      ∀ events,
        let s := start.run events
        let moments := start.moments events
        let n := (drawings moments).length
        s.machine.random = source.after n ∧
        drawn moments = (drawings moments).mapIdx (fun k w => source.byteAt k &&& w.kk) ∧
        (∀ w, s.machine.fetch = .ok w → w.IsRandom → ∃ s', Emulator.step s = .ok w s' ∧
          s'.machine.cpu.get w.x = source.byteAt n &&& w.kk ∧
          s'.machine.random = source.after (n + 1)) ∧
        ∀ event, (⟨event, s⟩ : Moment Display).drawing? = none →
          (s.after event).machine.random = s.machine.random := by
  have hsource := Machine.random_of_create h
  have hsound := (Machine.fresh_of_create h).isSound
  refine ⟨start.machine.random, hsource, fun hseed k => ?_, fun events => ?_⟩
  · rw [hseed] at hsource
    have hscript : RandomSource.script host.randomBytes = start.machine.random :=
      Except.ok.inj hsource
    rw [← hscript, RandomSource.byteAt_script]
  · obtain ⟨hrandom, hdrawn⟩ := Emulator.draws_run hsound events
    have htable := (Emulator.sound_run hsound events).bounded.table
    refine ⟨hrandom, hdrawn, fun w hf hw => ?_, fun event => Emulator.random_after_of_none htable⟩
    obtain ⟨s', hstep, hget, htaken⟩ := Emulator.step_of_isRandom htable hf hw
    rw [hrandom, RandomSource.next_after] at hget
    rw [hrandom, ← RandomSource.after_succ] at htaken
    exact ⟨s', hstep, hget, htaken⟩

/-- The bytes of `RND V1, 0x0F`. -/
def roll : List Byte := [0xC1, 0x0F]

/-- At its start the program draws, and stays in memory. -/
theorem drawing?_roll {e : Emulator Display} {fr : Display} (h : e.IsSound 0x1002 fr)
    (hcpu : e.machine.cpu = {}) (hmemory : e.machine.memory = Memory.start roll) :
    (⟨.step, e⟩ : Moment Display).drawing? = some 0xC10F ∧
      (e.after .step).machine.memory = Memory.start roll := by
  have hfetch : e.machine.fetch = .ok 0xC10F :=
    h.bounded.fetch_start (k := 0) hmemory (by rw [hcpu]; rfl) (by decide) (by decide)
  have hrandom : Word.operation? 0xC10F = some .random :=
    Word.operation?_eq_some_iff.mpr (by decide)
  have hstep := Emulator.step_of_perform h.bounded.table hfetch hrandom rfl
  rw [drawing?_of_step_ok hstep, Emulator.after_step, hstep]
  exact ⟨if_pos (by decide), hmemory⟩

/-- The program draws, and draws again after a reset. -/
theorem drawings_roll (h : Machine.create config host = .ok start host')
    (hmemory : start.machine.memory = Memory.start roll) :
    drawings (start.moments [.step, .reset, .step]) = [0xC10F, 0xC10F] := by
  have hfresh := Machine.fresh_of_create h
  obtain ⟨hfirst, hstays⟩ := drawing?_roll hfresh.isSound hfresh.cpu hmemory
  have hsound : (start.after .step).IsSound 0x1002 start.machine.display.frame :=
    Emulator.sound_run hfresh.isSound [.step]
  have hnone : (⟨.reset, start.after .step⟩ : Moment Display).drawing? = none :=
    drawing?_of_ne_step Event.noConfusion _
  have hagain : ((start.after .step).after .reset).machine.memory = Memory.start roll := by
    rw [Emulator.memory_after_reset hsound.bounded.memory]
    exact Memory.overwrite_font_eq_start hsound.bounded.memory (by decide) fun a _ =>
      congrArg (Memory.byte · a) hstays
  obtain ⟨hsecond, -⟩ := drawing?_roll (Emulator.sound_run hfresh.isSound [.step, .reset])
    (Emulator.cpu_after_reset _).1 hagain
  simp only [drawings, Emulator.moments, List.filterMap_cons, List.filterMap_nil, hfirst, hnone]
  exact congrArg (fun w? => 0xC10F :: w?.toList) hsecond

/-- Without a seed, the bytes of the host are drawn one after the other, across a reset. -/
theorem draws_of_run_roll : ∃ (e : Emulator Display) (host' : Host), Machine.create
      { display := Display.bitmap (FrameBuffer.blank 8 4), rom := roll }
      { randomBytes := [0x37, 0x59] } = .ok e host' ∧
    drawn (e.moments [.step, .reset, .step]) = [0x07, 0x09] := by
  obtain ⟨e, host', h, hmemory, -⟩ := Machine.exists_create
    { display := Display.bitmap (FrameBuffer.blank 8 4), rom := roll }
    { randomBytes := [0x37, 0x59] } rfl rfl rfl (by decide)
  obtain ⟨source, -, hbytes, hruns⟩ := draws_of_run h
  obtain ⟨-, hdrawn, -⟩ := hruns [.step, .reset, .step]
  refine ⟨e, host', h, ?_⟩
  rw [hdrawn, drawings_roll h hmemory]
  simp only [List.mapIdx_cons, List.mapIdx_nil, hbytes rfl]
  decide

end

end Chip8
