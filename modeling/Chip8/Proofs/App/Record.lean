/-
  The record of the steps. In turns (`Turn`) an application takes the steps of a frame, up to one
  that fails, or passes on a key or a tick; what the machine goes through on the way is a run
  (`Emulator.played`), of which the recorder keeps the latest steps. The main statement is
  `record_of_turns`: after any turns the entries are those of the last steps tried, in order, and
  each tells of the processor before the step and of the word that the step executed.
-/
import Chip8.Proofs.App.Step
import Chip8.Proofs.Machine.Failure
import Chip8.Proofs.Machine.Ticks
import Chip8.Proofs.Machine.Twins
import Chip8.Proofs.Trace

namespace Chip8

/-! ## Steps tried -/

namespace Emulator

/-- The steps that are tried when so many are to be taken: up to the first one that fails. -/
def tries (e : Emulator Display) : Nat → List Event
  | 0 => []
  | n + 1 =>
    match answerOf (step e) with
    | .ok _ => .step :: (e.after .step).tries n
    | .error _ => [.step]

/-- The steps of a run that find a word. -/
def attempts (e : Emulator Display) (events : List Event) : List (Moment Display) :=
  (e.steps events).filter (·.before.machine.fetch.isOk)

variable {e : Emulator Display}

theorem attempts_append (e : Emulator Display) (front behind : List Event) :
    e.attempts (front ++ behind) = e.attempts front ++ (e.run front).attempts behind := by
  simp only [attempts, steps, moments_append_list, List.filter_append]

theorem attempts_cons (e : Emulator Display) (event : Event) (rest : List Event) :
    e.attempts (event :: rest) = e.attempts [event] ++ (e.after event).attempts rest :=
  attempts_append e [event] rest

theorem attempts_of_isIdle {event : Event} (h : event.isIdle = true) : e.attempts [event] = [] := by
  unfold attempts
  rw [steps_of_isIdle h]
  rfl

theorem attempts_step_of_fetch {w : Word} (h : e.machine.fetch = .ok w) :
    e.attempts [.step] = [⟨.step, e⟩] := by
  have hfound : e.machine.fetch.isOk = true := by rw [h]; rfl
  simp [attempts, steps, moments, hfound]

theorem attempts_step_of_fetch_error {fault : Fault} (h : e.machine.fetch = .error fault) :
    e.attempts [.step] = [] := by
  have hnone : e.machine.fetch.isOk = false := by rw [h]; rfl
  simp [attempts, steps, moments, hnone]

end Emulator

/-! ## Entries -/

namespace TraceEntry

/-- The entry tells of the processor before the step, and of the word that the step executes. -/
structure TellsOf (t : TraceEntry) (m : Moment Display) : Prop where
  pc : t.pc = m.before.machine.cpu.pc
  v : t.v = m.before.machine.cpu.v.toList
  i : t.i = m.before.machine.cpu.i
  sp : t.sp = m.before.machine.cpu.sp
  delay : t.delay = m.before.machine.cpu.delay
  sound : t.sound = m.before.machine.cpu.sound
  word : ∃ w, m.before.machine.fetch = .ok w ∧ t.opcode = some w ∧
    standardTable.disassemble w = .ok t.mnemonic ∧
    Emulator.step m.before = (Emulator.execute w >>= fun _ => pure w) m.before

/-- On a bounded machine the addresses of an entry are those of the processor. -/
theorem tellsOf_capture {e : Emulator Display} (hm : e.machine.IsBounded 0x1002) {w : Word}
    {text : Text} (hw : e.machine.fetch = .ok w)
    (htext : standardTable.disassemble w = .ok text) :
    (capture e.machine.cpu (some w) text).TellsOf ⟨.step, e⟩ where
  pc := wrap16_of_mem hm.cpu.pc_nonneg (by have := hm.cpu.pc_le; omega)
  v := rfl
  i := wrap16_of_mem hm.cpu.i_nonneg (by have := hm.cpu.i_le; omega)
  sp := rfl
  delay := rfl
  sound := rfl
  word := ⟨w, hw, rfl, htext, Emulator.step_of_fetch hw⟩

end TraceEntry

namespace TraceRecorder

/-- The recorder holds the latest of the steps, as many as fit in. -/
structure Holds (count : Nat) (past : List (Moment Display)) (r : TraceRecorder) : Prop where
  capacity : r.capacity = count
  entries : List.Forall₂ (fun m t => TraceEntry.TellsOf t m) (lastOf count past) r.entries

variable {count : Nat} {past : List (Moment Display)} {r : TraceRecorder}

theorem forall₂_lastOf {α β : Type} {R : α → β → Prop} {l : List α} {l' : List β}
    (h : List.Forall₂ R l l') (count : Nat) :
    List.Forall₂ R (lastOf count l) (lastOf count l') := by
  unfold lastOf
  rw [h.length_eq]
  exact List.forall₂_drop _ h

theorem Holds.record (h : r.Holds count past) {m : Moment Display} {t : TraceEntry}
    (ht : t.TellsOf m) : (r.record t).Holds count (past ++ [m]) := by
  constructor
  · rw [capacity_record, h.capacity]
  · have hboth := List.rel_append h.entries (.cons ht .nil)
    rw [entries_record, h.capacity, ← lastOf_lastOf_append]
    exact forall₂_lastOf hboth count

theorem holds_of_ofCapacity {capacity : Int} (h : ofCapacity capacity = .ok r) :
    r.Holds capacity.toNat [] := by
  obtain ⟨hcapacity, hempty⟩ := of_ofCapacity h
  exact ⟨hcapacity, by rw [hempty, lastOf_nil]; exact .nil⟩

end TraceRecorder

/-! ## Turns -/

/-- What an application is asked to do between two looks at its record. -/
inductive Turn where
  /-- The steps of a frame of so many. -/
  | steps (cycles : Int)
  /-- A key of the host. -/
  | hostKey (name : Text) (pressed : Bool)
  /-- A tick or a key that the machine gets from elsewhere. -/
  | idle (event : Event) (h : event.isIdle = true)

namespace Turn

def act : Turn → Act App Unit
  | steps cycles => do
    modify fun a => { a with settings := { a.settings with cycles } }
    App.stepFrame
  | hostKey name pressed => App.hostKey name pressed
  | idle event _ => do let _ ← App.onEmulator event.act

/-- What a host key is passed on as. An application passes on keys to its own keypad only. -/
def passedOn (owner : Bool) (name : Text) (pressed : Bool) : List Event :=
  if owner then [if pressed then .press name else .release name] else []

/-- What the machine goes through. -/
def events (owner : Bool) (e : Emulator Display) : Turn → List Event
  | steps cycles => e.tries cycles.toNat
  | hostKey name pressed => passedOn owner name pressed
  | idle event _ => [event]

end Turn

/-- What the machine goes through in turns. -/
def Emulator.played (owner : Bool) (e : Emulator Display) : List Turn → List Event
  | [] => []
  | turn :: rest =>
    let events := turn.events owner e
    events ++ (e.run events).played owner rest

namespace App

/-- The state after turns. -/
def takeTurns (a : App) (turns : List Turn) : App :=
  turns.foldl (fun a turn => stateOf (turn.act a)) a

/-- The application goes along with the machine `e`, and its recorder holds the latest of the
steps so far. -/
structure Tracks (owner : Bool) (count : Nat) (fr : Display) (past : List (Moment Display))
    (e : Emulator Display) (a : App) : Prop where
  owner : a.owner = owner
  twin : e.Twin a.emulator
  sound : e.IsSound 0x1002 fr
  recorder : ∃ r, a.recorder = some r ∧ r.Holds count past

namespace Tracks

variable {owner : Bool} {count : Nat} {fr : Display} {past : List (Moment Display)}
  {e e' : Emulator Display} {a : App}

/-- What is only printed does not matter. -/
theorem withHost (h : a.Tracks owner count fr past e) {host : Host}
    (hmuted : host.muted = a.host.muted) : (a.mapHost fun _ => host).Tracks owner count fr past e :=
  { h with twin := h.twin.withHost hmuted }

theorem halt (h : a.Tracks owner count fr past e) :
    (stateOf (App.halt a)).Tracks owner count fr past e := by
  obtain ⟨host, hmuted, hhalt⟩ := exists_halt (P := fun h => h.muted = a.host.muted)
    (fun h _ _ hmuted => (h.muted_log _ _).trans hmuted) rfl
  rw [hhalt]
  exact { h.withHost hmuted with }

/-- A tick or a key from elsewhere. -/
theorem idle (h : a.Tracks owner count fr past e) {event : Event} (hidle : event.isIdle = true) :
    ({ a with emulator := a.emulator.after event } : App).Tracks owner count fr
      (past ++ e.attempts [event]) (e.after event) := by
  rw [Emulator.attempts_of_isIdle hidle, List.append_nil]
  exact { h with
    twin := Emulator.twin_after h.twin event
    sound := Emulator.keeps_event event e h.sound }

/-! ## Steps -/

theorem recorded (h : a.Tracks owner count fr past e) :
    ∃ r, a.recorded = some r ∧ r.Holds count (past ++ e.attempts [.step]) := by
  obtain ⟨r, hr, hholds⟩ := h.recorder
  have hfetch := h.twin.fetch
  cases hf : e.machine.fetch with
  | error fault =>
    rw [hf] at hfetch
    rw [recorded_of_fetch_error hfetch.symm, Emulator.attempts_step_of_fetch_error hf,
      List.append_nil]
    exact ⟨r, hr, hholds⟩
  | ok w =>
    have htells := TraceEntry.tellsOf_capture h.sound.bounded hf (disassemble_standardTable w)
    rw [hf] at hfetch
    rw [Emulator.attempts_step_of_fetch hf]
    unfold App.recorded
    rw [hr, ← hfetch, ← h.twin.machine]
    exact ⟨_, rfl, hholds.record htells⟩

theorem stepped (h : a.Tracks owner count fr past e) (htwin : (e.after .step).Twin e') :
    (a.stepped e').Tracks owner count fr (past ++ e.attempts [.step]) (e.after .step) where
  owner := h.owner
  twin := htwin
  sound := Emulator.keeps_event .step e h.sound
  recorder := h.recorded

/-- Steps in a row: those that are tried. -/
theorem stepTimes (h : a.Tracks owner count fr past e) (n : Nat) :
    (stateOf (App.stepTimes n a)).Tracks owner count fr (past ++ e.attempts (e.tries n))
      (e.run (e.tries n)) := by
  -- each step joins the past of the steps behind it
  induction n generalizing a e past with
  | zero =>
    change a.Tracks owner count fr (past ++ []) e
    rwa [List.append_nil]
  | succ n ih =>
    have hstep := Emulator.matching_step_twin h.twin
    have htwin := hstep.state
    have hanswer := hstep.answer
    rw [← e.after_step] at htwin
    unfold App.stepTimes Emulator.tries
    rw [hanswer]
    cases hr : Emulator.step a.emulator with
    | ok w e' =>
      rw [hr] at htwin
      have hnext := ih (h.stepped htwin)
      rw [List.append_assoc, ← Emulator.attempts_cons] at hnext
      rw [Act.bind_ok (stepOnce_of_ok hr)]
      exact hnext
    | error fault e' =>
      rw [hr] at htwin
      rw [Act.bind_error (stepOnce_of_error hr)]
      exact h.stepped htwin

theorem leave (h : a.Tracks owner count fr past e) (fault : Fault) :
    (stateOf (App.leave fault a)).Tracks owner count fr past e := by
  by_cases hunknown : ∃ w, fault = .unknownInstruction w
  · obtain ⟨w, rfl⟩ := hunknown
    rw [stateOf_leave_unknown]
    exact h.halt
  · rwa [leave_of_known hunknown]

theorem stepFrame (h : a.Tracks owner count fr past e) :
    (stateOf (App.stepFrame a)).Tracks owner count fr
      (past ++ e.attempts (e.tries a.settings.cycles.toNat))
      (e.run (e.tries a.settings.cycles.toNat)) := by
  have hsteps := h.stepTimes a.settings.cycles.toNat
  cases hr : App.stepTimes a.settings.cycles.toNat a with
  | ok _ a' =>
    rw [hr] at hsteps
    rw [stepFrame_of_ok hr]
    exact hsteps
  | error fault a' =>
    rw [hr] at hsteps
    rw [stepFrame_of_error hr]
    exact hsteps.leave fault

/-! ## Turns -/

/-- A key of which the host cannot be told does not reach the machine; it would not have changed
anything there. -/
theorem refused (h : a.Tracks owner count fr past e) {name : Text} {pressed : Bool}
    (hcan : ¬ a.host.CanTell "input" (keyText name pressed)) :
    a.Tracks owner count fr past (e.after (if pressed then .press name else .release name)) := by
  obtain ⟨hpress, hrelease⟩ :=
    Emulator.twin_after_key_of_unmapped h.twin (ofName?_of_not_canTell hcan)
  exact { h with
    twin := by cases pressed; exacts [hrelease, hpress]
    sound := Emulator.keeps_event _ e h.sound }

theorem hostKey (h : a.Tracks owner count fr past e) (name : Text) (pressed : Bool) :
    (stateOf (App.hostKey name pressed a)).Tracks owner count fr
      (past ++ e.attempts (Turn.passedOn owner name pressed))
      (e.run (Turn.passedOn owner name pressed)) := by
  obtain rfl : a.owner = owner := h.owner
  unfold Turn.passedOn
  by_cases howner : a.owner = true
  · have hidle : (if pressed then Event.press name else .release name).isIdle = true := by
      cases pressed <;> rfl
    rw [if_pos howner]
    by_cases hcan : a.host.CanTell "input" (keyText name pressed)
    · have hlogged := h.withHost (a.host.muted_log "input" (keyText name pressed))
      rw [hostKey_of_canTell howner hcan, stateOf_onEmulator]
      cases pressed with
      | true =>
        rw [if_pos rfl, if_pos rfl, ← Emulator.after_press]
        exact hlogged.idle rfl
      | false =>
        rw [if_neg Bool.false_ne_true, if_neg Bool.false_ne_true, ← Emulator.after_release]
        exact hlogged.idle rfl
    · obtain ⟨fault, hfault, -⟩ := hostKey_of_not_canTell howner hcan
      rw [hfault, Emulator.attempts_of_isIdle hidle, List.append_nil]
      exact h.refused hcan
  · rw [if_neg howner, hostKey_of_not_owner (Bool.not_eq_true _ ▸ howner)]
    change a.Tracks a.owner count fr (past ++ []) e
    rwa [List.append_nil]

theorem turn (h : a.Tracks owner count fr past e) (turn : Turn) :
    (stateOf (turn.act a)).Tracks owner count fr (past ++ e.attempts (turn.events owner e))
      (e.run (turn.events owner e)) := by
  cases turn with
  | steps cycles =>
    have hset : ({ a with settings := { a.settings with cycles } } : App).Tracks owner count fr
        past e := { h with }
    exact hset.stepFrame
  | hostKey name pressed => exact h.hostKey name pressed
  | idle event hidle =>
    unfold Turn.act
    rw [Act.stateOf_bind_pure, stateOf_onEmulator]
    exact h.idle hidle

theorem takeTurns (h : a.Tracks owner count fr past e) (turns : List Turn) :
    (a.takeTurns turns).Tracks owner count fr (past ++ e.attempts (e.played owner turns))
      (e.run (e.played owner turns)) := by
  induction turns generalizing a e past with
  | nil =>
    change a.Tracks owner count fr (past ++ []) e
    rwa [List.append_nil]
  | cons turn rest ih =>
    have hrest := ih (h.turn turn)
    rw [List.append_assoc, ← Emulator.attempts_append, ← Emulator.run_append_list] at hrest
    exact hrest

end Tracks

/-! ## The record of a run -/

/-- An application whose machine was just set up and whose recorder is empty takes any turns: the
steps of frames of any lengths, up to steps that fail, host keys, and ticks and keys that the
machine gets from elsewhere. Then its machine is as after the run that the turns amount to, and
of the steps of this run that found a word its recorder holds the last ones, as many as its
capacity, the oldest one first. Each entry tells of the processor before its step, of the word
that the step executed, and of the text of this word. -/
theorem record_of_turns {config : MachineConfig Display} {host host' : Host}
    {e : Emulator Display} (hcreate : Machine.create config host = .ok e host') {capacity : Int}
    {recorder : TraceRecorder} (hcapacity : TraceRecorder.ofCapacity capacity = .ok recorder)
    (settings : AppSettings) (owner running : Bool) (frames : Nat) (turns : List Turn) :
    let start : App :=
      { settings, emulator := e, owner, running, frames, recorder := some recorder }
    let a := start.takeTurns turns
    let events := e.played owner turns
    a.emulator.machine = (e.run events).machine ∧
    ∃ r, a.recorder = some r ∧
      List.Forall₂ (fun m t => TraceEntry.TellsOf t m)
        (TraceRecorder.lastOf capacity.toNat (e.attempts events)) r.entries := by
  intro start a events
  have hfresh := Machine.fresh_of_create hcreate
  have hstart : start.Tracks owner capacity.toNat e.machine.display.frame [] e :=
    { owner := rfl
      twin := .refl hfresh.table
      sound := hfresh.isSound
      recorder := ⟨recorder, rfl, TraceRecorder.holds_of_ofCapacity hcapacity⟩ }
  have hend := hstart.takeTurns turns
  obtain ⟨r, hr, hholds⟩ := hend.recorder
  exact ⟨hend.twin.machine.symm, r, hr, hholds.entries⟩

/-- A word that is no instruction is tried twice; a recorder for one step keeps the second one. -/
theorem record_of_turns_unknown : ∃ (e : Emulator Display) (host' : Host) (r : TraceRecorder)
    (t : TraceEntry), Machine.create
      { display := Display.bitmap (FrameBuffer.blank 8 4), rom := [0x50, 0x00] } {} = .ok e host' ∧
    (({ settings := {}, emulator := e, recorder := some (.empty 1) } : App).takeTurns
      [.steps 1, .steps 1]).recorder = some r ∧
    e.attempts (e.played true [.steps 1, .steps 1]) = [⟨.step, e⟩, ⟨.step, e⟩] ∧
    r.entries = [t] ∧ t.TellsOf ⟨.step, e⟩ := by
  obtain ⟨e, host', hcreate, hreach, hfetch⟩ := Emulator.exists_unknown
  have hfails : Emulator.step e = .error (.unknownInstruction 0x5000) e := by
    rw [Emulator.step_of_fetch hfetch]
    exact Act.bind_error (Emulator.execute_of_none hreach.isBounded.table (by decide))
  have hafter : e.after .step = e := by
    rw [e.after_step, hfails]
    rfl
  have htries : e.tries 1 = [.step] := by
    unfold Emulator.tries
    rw [hfails]
    rfl
  have hplayed : e.played true [.steps 1, .steps 1] = [.step, .step] := by
    change e.tries 1 ++ ((e.run (e.tries 1)).tries 1 ++ []) = _
    rw [htries]
    change [.step] ++ ((e.after .step).tries 1 ++ []) = _
    rw [hafter, htries]
    rfl
  have hattempts : e.attempts (e.played true [.steps 1, .steps 1]) =
      [⟨.step, e⟩, ⟨.step, e⟩] := by
    rw [hplayed, Emulator.attempts_cons, hafter, Emulator.attempts_step_of_fetch hfetch]
    rfl
  have hcapacity : TraceRecorder.ofCapacity 1 = .ok (.empty 1) := rfl
  obtain ⟨-, r, hr, hentries⟩ :=
    record_of_turns hcreate hcapacity {} true true 0 [.steps 1, .steps 1]
  rw [hattempts] at hentries
  cases hr' : r.entries with
  | nil => rw [hr'] at hentries; cases hentries
  | cons t rest =>
    rw [hr'] at hentries
    cases hentries with
    | cons htells hrest =>
      cases hrest
      exact ⟨e, host', r, t, hcreate, hr, hattempts, hr', htells⟩

end App

end Chip8
