/-
  The timers along runs. A step sets a timer if it executes the instruction for it, and otherwise
  leaves it alone, whether it succeeds or fails; a tick counts both timers down, and a reset
  clears them (`read_after`). So a timer always is what it was last set to less the ticks since
  then, as long as that is not below zero (`read_run`). Each tick asks the audio once, for the
  tone or for silence (`soundings`), and from a sound timer that is left alone the tone is asked
  for one time less than the timer tells (`soundings_of_unset`). The main statement is
  `timers_of_run`.
-/
import Chip8.Proofs.Machine.Quiet
import Chip8.Proofs.Machine.Underflow

namespace Chip8

/-- The timers of a processor. -/
inductive Timer where
  | delay
  | sound
deriving DecidableEq, Repr

namespace Timer

def read : Timer → Cpu → Int
  | delay, c => c.delay
  | sound, c => c.sound

/-- The instruction that sets the timer, with a zero for the register. -/
def pattern : Timer → Word
  | delay => 0xF015
  | sound => 0xF018

def setter : Timer → Operation
  | delay => .setDelay
  | sound => .setSound

def part : Timer → Part
  | delay => .delay
  | sound => .sound

variable {timer : Timer}

theorem operation?_eq_setter_iff {w : Word} :
    w.operation? = some timer.setter ↔ w &&& 0xF0FF = timer.pattern := by
  rw [Word.operation?_eq_some_iff]
  cases timer <;> exact Iff.rfl

theorem read_of_isSame {m m' : Machine Display} (h : timer.part.IsSame m m') :
    timer.read m'.cpu = timer.read m.cpu := by
  cases timer <;> exact h

/-- No other operation writes the timer. -/
theorem eq_setter_of_targets {op : Operation} {w : Word} {m : Machine Display}
    (h : op.Targets w m timer.part) : op = timer.setter := by
  cases timer <;> exact h

end Timer

/-! ## What a history tells of the timers -/

namespace Moment

variable {timer : Timer} {moments : List (Moment Display)}

/-- What the event set the timer to, if it did. -/
def setting? (timer : Timer) (m : Moment Display) : Option Nat :=
  m.word?.bind fun w =>
    if w &&& 0xF0FF = timer.pattern then some (m.before.machine.cpu.get w.x).toNat else none

/-- What the timer was last set to since the last reset. -/
def lastSetting (timer : Timer) (moments : List (Moment Display)) : Nat :=
  ((sinceReset moments).filterMap (setting? timer)).getLast?.getD 0

/-- The ticks since the timer was last set or reset. -/
def ticksSince (timer : Timer) (moments : List (Moment Display)) : Nat :=
  ((sinceReset moments).rtakeWhile fun m => (m.setting? timer).isNone).countP (·.event == .tick)

theorem setting?_of_ne_step {event : Event} (h : event ≠ .step) (e : Emulator Display) :
    (⟨event, e⟩ : Moment Display).setting? timer = none := by
  unfold setting?
  rw [word?_of_ne_step h]
  rfl

theorem setting?_of_step_ok {e e' : Emulator Display} {w : Word}
    (h : Emulator.step e = .ok w e') : (⟨.step, e⟩ : Moment Display).setting? timer =
      if w &&& 0xF0FF = timer.pattern then some (e.machine.cpu.get w.x).toNat else none := by
  unfold setting?
  rw [word?_step, h]
  rfl

theorem setting?_of_step_error {e e' : Emulator Display} {fault : Fault}
    (h : Emulator.step e = .error fault e') :
    (⟨.step, e⟩ : Moment Display).setting? timer = none := by
  unfold setting?
  rw [word?_step, h]
  rfl

theorem lastSetting_append (m : Moment Display) : lastSetting timer (moments ++ [m]) =
    if m.event = .reset then 0 else (m.setting? timer).getD (lastSetting timer moments) := by
  unfold lastSetting
  rw [sinceReset_append]
  split
  · rfl
  · cases hset : m.setting? timer <;> simp [hset]

theorem ticksSince_append (m : Moment Display) : ticksSince timer (moments ++ [m]) =
    if m.event = .reset ∨ (m.setting? timer).isSome then 0
    else ticksSince timer moments + if m.event = .tick then 1 else 0 := by
  unfold ticksSince
  rw [sinceReset_append]
  by_cases hreset : m.event = .reset
  · rw [if_pos hreset, if_pos (Or.inl hreset)]
    rfl
  · rw [if_neg hreset, List.rtakeWhile_concat]
    cases hset : m.setting? timer with
    | some d => simp
    | none => simp [hreset, List.countP_append, List.countP_singleton]

/-- Whether the event, if it is a tick, leaves the sound timer above zero. -/
def sounding? (m : Moment Display) : Option Bool :=
  if m.event = .tick then some (decide (0 < (m.before.after .tick).machine.cpu.sound)) else none

/-- Whether each tick left the sound timer above zero, in order. -/
def soundings (moments : List (Moment Display)) : List Bool := moments.filterMap sounding?

theorem soundings_append (front behind : List (Moment Display)) :
    soundings (front ++ behind) = soundings front ++ soundings behind :=
  List.filterMap_append

theorem soundings_singleton (m : Moment Display) : soundings [m] = m.sounding?.toList := by
  unfold soundings
  cases hm : m.sounding? <;> simp [hm]

end Moment

namespace Emulator

open Moment

variable {e e' : Emulator Display} {fr : Display} {timer : Timer} {w : Word} {fault : Fault}

/-! ## What an event does to a timer -/

theorem read_of_step_ok (htable : e.machine.table = some standardTable) (timer : Timer)
    (h : step e = .ok w e') : timer.read e'.machine.cpu =
      if w &&& 0xF0FF = timer.pattern then ((e.machine.cpu.get w.x).toNat : Int)
      else timer.read e.machine.cpu := by
  obtain ⟨-, hexecute⟩ := execute_of_step_ok h
  split
  · rename_i hset
    obtain ⟨op, e₁, hop, hp, rfl⟩ := of_execute_ok htable hexecute
    rw [Timer.operation?_eq_setter_iff.mpr hset] at hop
    cases hop
    cases timer <;> cases hp <;> rfl
  · rename_i hother
    obtain ⟨op, hop, honly⟩ := changesOnly_of_execute_ok htable hexecute
    refine Timer.read_of_isSame (honly timer.part fun htarget => hother ?_)
    rw [Timer.eq_setter_of_targets htarget] at hop
    exact Timer.operation?_eq_setter_iff.mp hop

/-- Setting a timer does not fail. -/
theorem read_of_step_error (htable : e.machine.table = some standardTable) (timer : Timer)
    (h : step e = .error fault e') : timer.read e'.machine.cpu = timer.read e.machine.cpu := by
  refine Timer.read_of_isSame (isSame_of_step_error htable (fun op w s htarget => ?_) h)
  obtain rfl := Timer.eq_setter_of_targets htarget
  cases timer <;> exact ⟨_, rfl⟩

/-- A reset clears a timer, an instruction may set it, a tick counts it down, and nothing else
changes it. -/
theorem read_after (htable : e.machine.table = some standardTable) (timer : Timer) (event : Event) :
    timer.read (e.after event).machine.cpu =
      if event = .reset then 0
      else match (⟨event, e⟩ : Moment Display).setting? timer with
        | some d => (d : Int)
        | none =>
          if event = .tick then Cpu.countDown (timer.read e.machine.cpu)
          else timer.read e.machine.cpu := by
  by_cases hstep : event = .step
  · subst hstep
    rw [after_step, if_neg Event.noConfusion]
    cases hr : step e with
    | error fault e' =>
      rw [setting?_of_step_error hr]
      exact read_of_step_error htable timer hr
    | ok w e' =>
      show timer.read e'.machine.cpu = _
      rw [read_of_step_ok htable timer hr, setting?_of_step_ok hr]
      split <;> rfl
  · rw [setting?_of_ne_step hstep]
    by_cases hreset : event = .reset
    · subst hreset
      rw [(cpu_after_reset e).1]
      cases timer <;> rfl
    · by_cases htick : event = .tick
      · subst htick
        cases timer <;> rfl
      · rw [(untouched_after e hstep hreset htick).1, if_neg hreset]
        exact (if_neg htick).symm

/-- A timer is what it was last set to less the ticks since then, and zero at least. -/
theorem read_run (h : e.IsSound 0x1002 fr) (hcpu : e.machine.cpu = {}) (timer : Timer)
    (events : List Event) :
    timer.read (e.run events).machine.cpu =
      max 0 ((lastSetting timer (e.moments events) : Int) -
        ticksSince timer (e.moments events)) := by
  have hstart : timer.read e.machine.cpu = 0 := by
    rw [hcpu]
    cases timer <;> rfl
  refine sound_history (P := fun moments s => timer.read s.machine.cpu =
    max 0 ((lastSetting timer moments : Int) - ticksSince timer moments))
    h hstart (fun moments s event hs hread => ?_) events
  rw [read_after hs.bounded.table, lastSetting_append, ticksSince_append]
  by_cases hreset : event = .reset
  · simp [hreset]
  · cases hset : (⟨event, s⟩ : Moment Display).setting? timer with
    | some d => simp [hreset]
    | none =>
      by_cases htick : event = .tick
      · simp only [htick, Cpu.countDown, hread, Option.getD_none, Option.isSome_none]
        simp
        omega
      · simpa [hreset, htick] using hread

/-! ## What the audio is asked for -/

/-- A tick asks the audio for the tone or for silence, and prints a message. -/
theorem exists_after_tick (e : Emulator Display) : ∃ message,
    let asked := Audio.drive (e.after .tick).machine.cpu.sound (e.machine.audio, e.host)
    (e.after .tick).machine.audio = asked.1 ∧
      (e.after .tick).host = asked.2.log "timer" message :=
  ⟨_, rfl, rfl⟩

theorem audio_after (htable : e.machine.table = some standardTable) {event : Event}
    (h : event ≠ .tick) : (e.after event).machine.audio = e.machine.audio := by
  by_cases hstep : event = .step
  · subst hstep
    rw [after_step]
    exact audio_step htable
  · by_cases hreset : event = .reset
    · subst hreset
      obtain ⟨memory, hreset⟩ := exists_after_reset e
      rw [hreset]
      rfl
    · exact (untouched_after e hstep hreset h).2.2

/-- A counter has counted what the ticks asked for. -/
theorem counter_run (h : e.IsSound 0x1002 fr) {c : ToneCounter} (hc : e.machine.audio = .counter c)
    (events : List Event) : ∃ c', (e.run events).machine.audio = .counter c' ∧
      c'.starts = c.starts + (soundings (e.moments events)).count true ∧
      c'.stops = c.stops + (soundings (e.moments events)).count false := by
  refine sound_history (P := fun moments s => ∃ c', s.machine.audio = .counter c' ∧
    c'.starts = c.starts + (soundings moments).count true ∧
    c'.stops = c.stops + (soundings moments).count false)
    h ⟨c, hc, rfl, rfl⟩ (fun moments s event hs hcount => ?_) events
  obtain ⟨c', haudio, hstarts, hstops⟩ := hcount
  rw [soundings_append, soundings_singleton, List.count_append, List.count_append,
    ← Nat.add_assoc, ← Nat.add_assoc, ← hstarts, ← hstops]
  by_cases htick : event = .tick
  · subst htick
    obtain ⟨_, hasked, -⟩ := exists_after_tick s
    rw [hasked, haudio, sounding?, if_pos rfl, Audio.drive]
    by_cases hsound : 0 < (s.after .tick).machine.cpu.sound
    · exact ⟨c'.start, by rw [if_pos hsound]; rfl, by simp [hsound, ToneCounter.start],
        by simp [hsound, ToneCounter.start]⟩
    · exact ⟨c'.stop, by rw [if_neg hsound]; rfl, by simp [hsound, ToneCounter.stop],
        by simp [hsound, ToneCounter.stop]⟩
  · rw [audio_after hs.bounded.table htick, sounding?, if_neg htick]
    exact ⟨c', haudio, rfl, rfl⟩

/-- While the sound timer is neither set nor reset, the tone is asked for at one tick less than
the timer tells, and from then on silence is. -/
theorem soundings_of_unset (h : e.IsSound 0x1002 fr) (later : List Event)
    (hunset : ∀ m ∈ e.moments later, m.event ≠ .reset ∧ m.setting? .sound = none) :
    soundings (e.moments later) =
      List.replicate (min (later.count .tick) (e.machine.cpu.sound - 1).toNat) true ++
        List.replicate (later.count .tick - (e.machine.cpu.sound - 1).toNat) false := by
  induction later generalizing e with
  | nil => simp [moments, soundings]
  | cons event rest ih =>
    obtain ⟨hreset, hset⟩ := hunset _ List.mem_cons_self
    have hread := read_after h.bounded.table .sound event
    rw [if_neg hreset, hset] at hread
    replace hread : (e.after event).machine.cpu.sound = if event = .tick then
      Cpu.countDown e.machine.cpu.sound else e.machine.cpu.sound := hread
    have hrest : soundings ((e.after event).moments rest) = _ :=
      ih (keeps_event event e h) fun m hm => hunset m (List.mem_cons_of_mem _ hm)
    show soundings ([⟨event, e⟩] ++ (e.after event).moments rest) = _
    rw [soundings_append, soundings_singleton, hrest]
    by_cases htick : event = .tick
    · subst htick
      rw [if_pos rfl, Cpu.countDown] at hread
      rw [sounding?, if_pos rfl, List.count_cons_self]
      -- the tick that takes the timer down to zero asks for silence already
      by_cases hlong : 1 < e.machine.cpu.sound
      · have hsounds : 0 < (e.after .tick).machine.cpu.sound := by omega
        have hleft : (e.machine.cpu.sound - 1).toNat =
            ((e.after .tick).machine.cpu.sound - 1).toNat + 1 := by omega
        rw [hleft, decide_eq_true hsounds, Nat.add_min_add_right, Nat.add_sub_add_right]
        rfl
      · have hsilent : ¬ 0 < (e.after .tick).machine.cpu.sound := by omega
        have hnone : (e.machine.cpu.sound - 1).toNat = 0 := by omega
        have hnone' : ((e.after .tick).machine.cpu.sound - 1).toNat = 0 := by omega
        rw [hnone, hnone', decide_eq_false hsilent, Nat.min_zero, Nat.min_zero]
        rfl
    · rw [if_neg htick] at hread
      rw [sounding?, if_neg htick, List.count_cons_of_ne htick, hread]
      rfl

end Emulator

/-! ## The timers of a run -/

section

variable {config : MachineConfig Display} {host host' : Host} {e : Emulator Display}

open Moment

/-- In every run each timer is what it was last set to less the ticks since then, and zero at
least. A tick asks the audio once, for the tone if it leaves the sound timer above zero and for
silence if not, and no other event asks it for anything; a counter has counted just this. While the
sound timer is neither set nor reset, the ticks ask for the tone one time less than it tells, and
for silence from then on. -/
theorem timers_of_run (h : Machine.create config host = .ok e host') (events : List Event) :
    let s := e.run events
    let moments := e.moments events
    (∀ timer : Timer, timer.read s.machine.cpu =
      max 0 ((lastSetting timer moments : Int) - ticksSince timer moments)) ∧
    (∃ message,
      let tone := (s.machine.audio, s.host)
      let asked := if 0 < (s.after .tick).machine.cpu.sound then Audio.start tone
        else Audio.stop tone
      (s.after .tick).machine.audio = asked.1 ∧
        (s.after .tick).host = asked.2.log "timer" message) ∧
    (∀ event, event ≠ .tick → (s.after event).machine.audio = s.machine.audio) ∧
    (∀ c, config.audio = .counter c → ∃ c', s.machine.audio = .counter c' ∧
      c'.starts = c.starts + (soundings moments).count true ∧
      c'.stops = c.stops + (soundings moments).count false) ∧
    ∀ later, (∀ m ∈ s.moments later, m.event ≠ .reset ∧ m.setting? .sound = none) →
      soundings (s.moments later) =
        List.replicate (min (later.count .tick) (s.machine.cpu.sound - 1).toNat) true ++
          List.replicate (later.count .tick - (s.machine.cpu.sound - 1).toNat) false := by
  intro s moments
  have hfresh := Machine.fresh_of_create h
  have hsound : s.IsSound 0x1002 e.machine.display.frame :=
    Emulator.sound_run hfresh.isSound events
  refine ⟨fun timer => Emulator.read_run hfresh.isSound hfresh.cpu timer events,
    Emulator.exists_after_tick s, fun event => Emulator.audio_after hsound.bounded.table,
    fun c hc => ?_, fun later => Emulator.soundings_of_unset hsound later⟩
  obtain ⟨display, audio, -, haudio, hsame, -⟩ := Machine.has_of_create h
  rw [hc] at haudio
  cases haudio
  exact Emulator.counter_run hfresh.isSound hsame events

/-- The bytes of `LD V0, 0x03` and `LD ST, V0`. -/
def chime : List Byte := [0x60, 0x03, 0xF0, 0x18]

/-- The second step of this program sets the sound timer, and nothing else sets a timer. -/
theorem setting?_chime (h : Machine.create config host = .ok e host')
    (hmemory : e.machine.memory = Memory.start chime) (timer : Timer) :
    (⟨.step, e⟩ : Moment Display).setting? timer = none ∧
      (⟨.step, e.after .step⟩ : Moment Display).setting? timer =
        if timer = .sound then some 3 else none := by
  have hfresh := Machine.fresh_of_create h
  have hfetch : e.machine.fetch = .ok 0x6003 := hfresh.fetch hmemory (by decide) (by decide)
  have hload : Word.operation? 0x6003 = some .loadByte :=
    Word.operation?_eq_some_iff.mpr (by decide)
  have hfirst := Emulator.step_of_perform hfresh.table hfetch hload rfl
  have hcpu : (e.after .step).machine.cpu = Cpu.advance (Cpu.set {} 0 3) := by
    rw [Emulator.after_step, hfirst]
    show Cpu.advance (e.machine.cpu.set 0 3) = _
    rw [hfresh.cpu]
  have hmemory' : (e.after .step).machine.memory = Memory.start chime := by
    rw [Emulator.after_step, hfirst]
    exact hmemory
  have hsound : (e.after .step).IsSound 0x1002 e.machine.display.frame :=
    Emulator.keeps_event .step e hfresh.isSound
  have hfetch' : (e.after .step).machine.fetch = .ok 0xF018 :=
    hsound.bounded.fetch_start (k := 2) hmemory' (by rw [hcpu]; rfl) (by decide) (by decide)
  have hset : Word.operation? 0xF018 = some .setSound :=
    Word.operation?_eq_some_iff.mpr (by decide)
  have hsecond := Emulator.step_of_perform hsound.bounded.table hfetch' hset rfl
  rw [setting?_of_step_ok hfirst, setting?_of_step_ok hsecond, hcpu]
  refine ⟨if_neg ?_, ?_⟩ <;> cases timer <;> decide

theorem sound_chime (h : Machine.create config host = .ok e host')
    (hmemory : e.machine.memory = Memory.start chime) :
    (e.run [.step, .step]).machine.cpu.sound = 3 := by
  have hsound : (e.after .step).IsSound 0x1002 e.machine.display.frame :=
    Emulator.keeps_event .step e (Machine.fresh_of_create h).isSound
  have hread := Emulator.read_after hsound.bounded.table .sound .step
  rwa [(setting?_chime h hmemory .sound).2] at hread

/-- A sound timer of three is down to one after two ticks, and asks for its tone twice. -/
theorem timers_of_run_chime : ∃ (e : Emulator Display) (host' : Host), Machine.create
      { display := Display.bitmap (FrameBuffer.blank 8 4), rom := chime } {} = .ok e host' ∧
    (e.run [.step, .step, .tick, .tick]).machine.cpu.sound = 1 ∧
    (e.run [.step, .step]).machine.cpu.sound = 3 ∧
    soundings ((e.run [.step, .step]).moments [.tick, .tick, .tick]) = [true, true, false] := by
  obtain ⟨e, host', h, hmemory, -⟩ := Machine.exists_create
    { display := Display.bitmap (FrameBuffer.blank 8 4), rom := chime } {} rfl rfl rfl (by decide)
  obtain ⟨hfirst, hsecond⟩ := setting?_chime h hmemory .sound
  have htick (s : Emulator Display) : (⟨.tick, s⟩ : Moment Display).setting? .sound = none :=
    setting?_of_ne_step Event.noConfusion s
  obtain ⟨htimers, -⟩ := timers_of_run h [.step, .step, .tick, .tick]
  obtain ⟨-, -, -, -, hlater⟩ := timers_of_run h [.step, .step]
  have hone : (e.run [.step, .step, .tick, .tick]).machine.cpu.sound = 1 := by
    simpa [Timer.read, Emulator.moments, lastSetting, ticksSince, sinceReset, List.rtakeWhile,
      hfirst, hsecond, htick] using htimers .sound
  have hthree := sound_chime h hmemory
  refine ⟨e, host', h, hone, hthree, ?_⟩
  rw [hlater _ (by simp [Emulator.moments, htick]), hthree]
  decide

end

end Chip8
