/-
  A step of an application: a step of its machine, which adds an entry to the record if there is a
  word to be run (`stepOnce_of_ok`, `stepOnce_of_error`). The steps of a frame end where one of
  them fails; what the application does then depends on the fault (`stepFrame_of_error`). The steps
  are recorded with texts that every output takes (`IsPlain.stepped`), so that the record can always
  be printed (`halt_of_isPlain`). A host key is passed on to the machine once the host was told of
  it; if the host cannot be told, the key stands for nothing (`ofName?_of_not_canTell`).
-/
import Chip8.App.Basic
import Chip8.Proofs.Keypad
import Chip8.Proofs.Machine.Outcome
import Chip8.Proofs.Trace

namespace Chip8

/-- Every word has a text. -/
theorem exists_disassemble (w : Word) : ∃ text, standardTable.disassemble w = .ok text := by
  cases hop : w.operation? with
  | none => exact ⟨_, disassemble_of_none hop⟩
  | some op => exact ⟨_, disassemble_of_operation? hop⟩

/-- The text of a word in the standard instruction set. -/
def Word.mnemonic (w : Word) : Text := (standardTable.disassemble w).toOption.getD []

theorem disassemble_standardTable (w : Word) : standardTable.disassemble w = .ok w.mnemonic := by
  obtain ⟨text, htext⟩ := exists_disassemble w
  unfold Word.mnemonic
  rw [htext]
  rfl

/-- Every output takes the texts of the standard instruction set. -/
theorem Word.takes_mnemonic (o : Outlet) (w : Word) : o.Takes w.mnemonic := by
  have hmnemonic := disassemble_standardTable w
  cases hop : w.operation? with
  | none =>
    rw [← Except.ok.inj ((disassemble_of_none hop).symm.trans hmnemonic)]
    exact o.takes_ofString "???"
  | some op =>
    rw [← Except.ok.inj ((disassemble_of_operation? hop).symm.trans hmnemonic)]
    exact op.takes_text o w

theorem TraceEntry.isPlain_capture (c : Cpu) (w : Word) :
    (capture c (some w) w.mnemonic).IsPlain := by
  intro o
  rw [takes_format, mnemonic_capture, note_capture]
  exact ⟨w.takes_mnemonic o, List.forall_mem_nil _⟩

/-- Printing the record only prints messages. -/
theorem TraceRecorder.holds_dump {P : Host → Prop}
    (hlog : ∀ h category message, P h → P (h.logged category message)) (r : TraceRecorder)
    (category : Text) (limit : Option Int) {h : Host} (hh : P h) :
    P (stateOf (r.dump (.text category) limit h)) := by
  rw [dump_text]
  refine Act.keeps_forM _ (fun line _ h hh => ?_) h hh
  rw [Host.stateOf_tryLog]
  exact hlog h category line hh

namespace App

variable {a : App} {e : Emulator Display} {w : Word} {fault : Fault}

/-- Looking for the next word leaves everything as it is. -/
theorem onFetch (a : App) : onEmulator Emulator.fetch a =
    match a.emulator.machine.fetch with
    | .ok w => .ok w a
    | .error fault => .error fault a := by
  unfold onEmulator Act.within Emulator.fetch
  dsimp only
  cases a.emulator.machine.fetch <;> rfl

theorem stateOf_onEmulator {α : Type} (act : Act (Emulator Display) α) (a : App) :
    stateOf (onEmulator act a) = { a with emulator := stateOf (act a.emulator) } :=
  stateOf_resultWithin ..

theorem onHost_eq {α : Type} (act : Act Host α) (a : App) :
    onHost act a = resultWithin (fun host => a.mapHost fun _ => host) (act a.host) := by
  unfold onHost onEmulator Emulator.onHost Act.within
  cases act a.host <;> rfl

/-- The record with the step that is about to happen, if there is a record and a word to be run. -/
def recorded (a : App) : Option TraceRecorder :=
  match a.recorder, a.emulator.machine.fetch with
  | some recorder, .ok w =>
    some (recorder.record (.capture a.emulator.machine.cpu (some w) w.mnemonic))
  | recorder, _ => recorder

/-- After a step that left the machine `e`. -/
def stepped (a : App) (e : Emulator Display) : App :=
  { a with emulator := e, recorder := a.recorded }

/-- The record is made of texts that every output takes. -/
def IsPlain (a : App) : Prop := ∀ r, a.recorder = some r → ∀ t ∈ r.entries, t.IsPlain

theorem isPlain_ofEmulator (settings : AppSettings) (e : Emulator Display) (owner : Bool) :
    (ofEmulator settings e owner).IsPlain := by
  intro r hr t ht
  change (if _ then _ else _) = some r at hr
  split at hr <;> cases hr
  cases ht

/-- The steps of the machine are recorded with such texts. -/
theorem IsPlain.stepped (h : a.IsPlain) (e : Emulator Display) : (a.stepped e).IsPlain := by
  intro r hr t ht
  change a.recorded = some r at hr
  unfold recorded at hr
  split at hr
  · cases hr
    rcases TraceRecorder.mem_entries_record ht with ht | rfl
    · exact h _ ‹_› t ht
    · exact TraceEntry.isPlain_capture _ _
  · exact h r hr t ht

theorem recordNext_of_fetch (h : a.emulator.machine.fetch = .ok w) :
    recordNext a = .ok () { a with recorder := a.recorded } := by
  have hfetch : onEmulator Emulator.fetch a = .ok w a := by rw [onFetch, h]
  obtain ⟨settings, e, owner, running, frames, recorder⟩ := a
  unfold recordNext recorded
  rw [Act.get_bind, h]
  cases recorder with
  | none => rfl
  | some recorder =>
    dsimp only
    rw [Act.bind_ok hfetch, disassemble_standardTable]
    rfl

/-- Without a word there is nothing to record, and nothing to run. -/
theorem stepOnce_of_fetch_error (h : a.emulator.machine.fetch = .error fault) :
    stepOnce a = .error fault a := by
  have hfetch : onEmulator Emulator.fetch a = .error fault a := by rw [onFetch, h]
  have hstep : onEmulator Emulator.step a = .error fault a := by
    simp only [onEmulator, Act.within, Emulator.step_of_fetch_error h]
    rfl
  unfold stepOnce
  -- with a record the step is not reached: the look at its word fails before
  cases hrecorder : a.recorder with
  | none =>
    have hnext : recordNext a = .ok () a := by
      unfold recordNext
      rw [Act.get_bind, hrecorder]
      rfl
    rw [Act.bind_ok hnext]
    exact Act.bind_error hstep
  | some recorder =>
    have hnext : recordNext a = .error fault a := by
      unfold recordNext
      rw [Act.get_bind, hrecorder]
      exact Act.bind_error hfetch
    exact Act.bind_error hnext

theorem recorded_of_fetch_error (h : a.emulator.machine.fetch = .error fault) :
    a.recorded = a.recorder := by
  unfold recorded
  rw [h]
  cases a.recorder <;> rfl

theorem stepOnce_of_ok (h : Emulator.step a.emulator = .ok w e) :
    stepOnce a = .ok () (a.stepped e) := by
  cases hf : a.emulator.machine.fetch with
  | error fault =>
    rw [Emulator.step_of_fetch_error hf] at h
    cases h
  | ok w' =>
    have hstep : onEmulator Emulator.step { a with recorder := a.recorded } =
        .ok w (a.stepped e) := by
      simp only [onEmulator, Act.within, h]
      rfl
    unfold stepOnce
    rw [Act.bind_ok (recordNext_of_fetch hf), Act.bind_ok hstep]
    rfl

theorem stepOnce_of_error (h : Emulator.step a.emulator = .error fault e) :
    stepOnce a = .error fault (a.stepped e) := by
  cases hf : a.emulator.machine.fetch with
  | error fault' =>
    rw [Emulator.step_of_fetch_error hf] at h
    cases h
    rw [stepOnce_of_fetch_error hf, stepped, recorded_of_fetch_error hf]
  | ok w' =>
    have hstep : onEmulator Emulator.step { a with recorder := a.recorded } =
        .error fault (a.stepped e) := by
      simp only [onEmulator, Act.within, h]
      rfl
    unfold stepOnce
    rw [Act.bind_ok (recordNext_of_fetch hf), Act.bind_error hstep]

/-- What a step keeps, succeed or fail, steps in a row keep. -/
theorem keeps_stepTimes {P : App → Prop}
    (hstep : ∀ a, P a → P (a.stepped (stateOf (Emulator.step a.emulator)))) (n : Nat) :
    Act.Keeps P (stepTimes n) := by
  induction n with
  | zero => exact Act.keeps_pure ()
  | succ n ih =>
    refine Act.keeps_bind ?_ fun _ => ih
    intro a h
    have hstepped := hstep a h
    cases hr : Emulator.step a.emulator with
    | ok w e =>
      rw [hr] at hstepped
      rwa [stepOnce_of_ok hr]
    | error fault e =>
      rw [hr] at hstepped
      rwa [stepOnce_of_error hr]

theorem keeps_isPlain_stepTimes (n : Nat) : Act.Keeps IsPlain (stepTimes n) :=
  keeps_stepTimes (fun _ h => h.stepped _) n

/-! ## Steps of a frame -/

/-- The fault that a run tells of when a step fails. -/
def reported : Fault → Fault
  | .unknownInstruction w => .unknownEncountered w
  | fault => fault

/-- What a frame does when a step of it fails: at a word that is no instruction the application
stops and prints its record. -/
def leave : Fault → Act App Unit
  | .unknownInstruction w => do
    halt
    throw (.unknownEncountered w)
  | fault => throw fault

theorem leave_of_known (h : ¬ ∃ w, fault = .unknownInstruction w) (a : App) :
    leave fault a = .error (reported fault) a := by
  cases fault
  case unknownInstruction w => exact absurd ⟨w, rfl⟩ h
  all_goals rfl

theorem stepFrame_of_ok {a' : App} (h : stepTimes a.settings.cycles.toNat a = .ok () a') :
    stepFrame a = .ok () a' := by
  unfold stepFrame
  rw [h]

theorem stepFrame_of_error {a' : App}
    (h : stepTimes a.settings.cycles.toNat a = .error fault a') : stepFrame a = leave fault a' := by
  unfold stepFrame
  rw [h]
  cases fault
  case unknownInstruction w =>
    change _ = (halt >>= fun _ => throw (Fault.unknownEncountered w)) a'
    dsimp only
    cases hhalt : halt a' with
    | ok _ b =>
      rw [Act.bind_ok hhalt]
      rfl
    | error fault b => rw [Act.bind_error hhalt]
  all_goals rfl

/-! ## Stopping -/

theorem halt_of_recorder_none (h : a.recorder = none) :
    halt a = .ok () { a with running := false } := by
  obtain ⟨settings, e, owner, running, frames, recorder⟩ := a
  subst h
  rfl

theorem halt_of_recorder {r : TraceRecorder} (h : a.recorder = some r) : halt a =
    resultWithin (fun host => { a.mapHost (fun _ => host) with running := false })
      (r.dump (.text "trace") (some dumpedSteps) a.host) := by
  obtain ⟨settings, e, owner, running, frames, recorder⟩ := a
  subst h
  exact onHost_eq (r.dump (.text "trace") (some dumpedSteps))
    ⟨settings, e, owner, false, frames, some r⟩

/-- Stopping prints the latest steps, if they are recorded and each of them can be told. -/
theorem halt_of_canTell {r : TraceRecorder} (h : a.recorder = some r)
    (hcan : ∀ t ∈ r.latest (some dumpedSteps), a.host.CanTell "trace" t.format) :
    halt a = .ok () { a.mapHost (fun h => { h with
      printed := h.printed ++ if a.host.isLogging "trace" then
        ((r.latest (some dumpedSteps)).map fun t =>
          Categories.line "trace" t.format ++ "\n").toArray
        else #[] }) with running := false } := by
  rw [halt_of_recorder h, r.dump_of_canTell hcan]
  rfl

/-- Stopping prints messages at most. -/
theorem exists_halt {P : Host → Prop}
    (hlog : ∀ h category message, P h → P (h.logged category message)) (h : P a.host) :
    ∃ host, P host ∧ stateOf (halt a) = { a.mapHost (fun _ => host) with running := false } := by
  cases hr : a.recorder with
  | none => exact ⟨a.host, h, congrArg stateOf (halt_of_recorder_none hr)⟩
  | some r =>
    rw [halt_of_recorder hr, stateOf_resultWithin]
    exact ⟨_, r.holds_dump hlog "trace" _ h, rfl⟩

theorem stateOf_leave_unknown (w : Word) (a : App) :
    stateOf (leave (.unknownInstruction w) a) = stateOf (halt a) := by
  change stateOf ((halt >>= fun _ => throw (Fault.unknownEncountered w)) a) = _
  cases h : halt a with
  | ok _ a' =>
    rw [Act.bind_ok h]
    rfl
  | error fault a' => rw [Act.bind_error h]

theorem IsPlain.canTell (h : a.IsPlain) {r : TraceRecorder} (hr : a.recorder = some r)
    (limit : Option Int) : ∀ t ∈ r.latest limit, a.host.CanTell "trace" t.format := by
  intro t ht
  refine Host.canTell_of_takes (a.host.outlet.takes_ofString "trace") (h r hr t ?_ _)
  cases limit with
  | none => exact ht
  | some n => exact List.mem_of_mem_drop ht

/-- With plain texts nothing comes in the way of stopping. -/
theorem halt_of_isPlain (h : a.IsPlain) : halt a = .ok () (stateOf (halt a)) := by
  cases hr : a.recorder with
  | none => rw [halt_of_recorder_none hr]; rfl
  | some r => rw [halt_of_canTell hr (h.canTell hr _)]; rfl

theorem leave_of_isPlain (h : a.IsPlain) (fault : Fault) :
    leave fault a = .error (reported fault) (stateOf (leave fault a)) := by
  by_cases hunknown : ∃ w, fault = .unknownInstruction w
  · obtain ⟨w, rfl⟩ := hunknown
    have hleave : leave (.unknownInstruction w) a =
        .error (.unknownEncountered w) (stateOf (halt a)) := Act.bind_ok (halt_of_isPlain h)
    rw [hleave]
    rfl
  · rw [leave_of_known hunknown]
    rfl

/-! ## Telling of a frame -/

/-- A number that is told of a frame has too many digits. -/
def HasManyDigits (a : App) : Prop :=
  10 ^ Numeral.decimalDigitLimit ≤ a.frames ∨
    10 ^ Numeral.decimalDigitLimit ≤ a.settings.cycles.natAbs

instance : Decidable a.HasManyDigits := inferInstanceAs (Decidable (_ ∨ _))

theorem frameText_of_hasManyDigits (h : a.HasManyDigits) :
    a.frameText = .error .numeralTooLong := by
  unfold frameText
  rcases Nat.lt_or_ge a.frames (10 ^ Numeral.decimalDigitLimit) with hfew | hmany
  · obtain ⟨text, htext⟩ := exists_decimalText (n := (a.frames : Int)) hfew
    rw [htext, decimalText_of_le (h.resolve_left (Nat.not_le.mpr hfew))]
    rfl
  · rw [decimalText_of_le (n := (a.frames : Int)) hmany]
    rfl

theorem exists_frameText (h : ¬ a.HasManyDigits) : ∃ text, a.frameText = .ok text := by
  rw [HasManyDigits, not_or, Nat.not_le, Nat.not_le] at h
  obtain ⟨frames, hframes⟩ := exists_decimalText (n := (a.frames : Int)) h.1
  obtain ⟨cycles, hcycles⟩ := exists_decimalText h.2
  unfold frameText
  rw [hframes, hcycles]
  exact ⟨_, rfl⟩

/-- A frame can be told of unless its numbers have too many digits. -/
theorem logFrame_cases (a : App) :
    ((a.host.isLogging "perf" = true ∧ a.HasManyDigits) ∧
      logFrame a = .error .numeralTooLong a) ∨
    (¬ (a.host.isLogging "perf" = true ∧ a.HasManyDigits) ∧ ∃ host,
      (host = a.host ∨ ∃ category message, host = a.host.logged category message) ∧
      logFrame a = .ok () (a.mapHost fun _ => host)) := by
  unfold logFrame
  rw [Act.get_bind]
  by_cases hon : a.host.isLogging "perf" = true
  · rw [if_pos hon]
    by_cases hmany : a.HasManyDigits
    · rw [frameText_of_hasManyDigits hmany]
      exact Or.inl ⟨⟨hon, hmany⟩, rfl⟩
    · obtain ⟨text, htext⟩ := exists_frameText hmany
      rw [htext]
      exact Or.inr ⟨fun h => hmany h.2, _, Or.inr ⟨"perf", text, rfl⟩, rfl⟩
  · rw [if_neg hon]
    exact Or.inr ⟨fun h => hon h.1, a.host, Or.inl rfl, rfl⟩

theorem stateOf_logFrame (a : App) : ∃ host,
    (host = a.host ∨ ∃ category message, host = a.host.logged category message) ∧
    stateOf (logFrame a) = a.mapHost fun _ => host := by
  rcases a.logFrame_cases with ⟨-, hfails⟩ | ⟨-, host, hlog, htold⟩
  · exact ⟨a.host, Or.inl rfl, congrArg stateOf hfails⟩
  · exact ⟨host, hlog, congrArg stateOf htold⟩

theorem answerOf_logFrame (a : App) : answerOf (logFrame a) =
    if a.host.isLogging "perf" = true ∧ a.HasManyDigits then .error .numeralTooLong
    else .ok () := by
  rcases a.logFrame_cases with ⟨hmany, hfails⟩ | ⟨hfew, host, -, htold⟩
  · rw [if_pos hmany, hfails]
    rfl
  · rw [if_neg hfew, htold]
    rfl

/-! ## Host keys -/

theorem onHost_tryLog_of_canTell {category message : Text} (h : a.host.CanTell category message) :
    onHost (Host.tryLog category message) a = .ok () (a.mapHost (·.logged category message)) := by
  rw [onHost_eq, Host.tryLog_of_canTell h]
  rfl

theorem onHost_tryLog_of_not {category message : Text} (h : ¬ a.host.CanTell category message) :
    ∃ fault, onHost (Host.tryLog category message) a = .error fault a ∧ fault.IsRefusal := by
  obtain ⟨fault, hfault, hrefusal⟩ := Host.tryLog_of_not h
  exact ⟨fault, by rw [onHost_eq, hfault]; rfl, hrefusal⟩

/-- A message about a host key is refused only if the name of the key is. -/
theorem canTell_keyText {h : Host} {name : Text} (htakes : h.outlet.Takes name) (pressed : Bool) :
    h.CanTell "input" (keyText name pressed) := by
  refine Host.canTell_of_takes (h.outlet.takes_ofString _) ?_
  have hdown : h.outlet.Takes (if pressed then "True" else "False" : Text) := by
    split <;> exact h.outlet.takes_ofString _
  unfold keyText
  simp only [Outlet.takes_append, Outlet.takes_ofString, htakes, hdown, and_self]

theorem takes_name_of_keyText {o : Outlet} {name : Text} {pressed : Bool}
    (h : o.Takes (keyText name pressed)) : o.Takes name := by
  unfold keyText at h
  simp only [Outlet.takes_append] at h
  exact h.1.1.2

/-- A press of which the host was told can be told by the keypad. -/
theorem canTellPress_of_canTell {h : Host} {name : Text}
    (hcan : h.CanTell "input" (keyText name true)) : Keypad.CanTellPress name h := by
  intro _ hon
  obtain ⟨hcategory, hmessage⟩ := Host.takes_line.mp (hcan hon)
  exact Host.takes_line.mpr ⟨hcategory,
    Outlet.takes_append.mpr ⟨h.outlet.takes_ofString _, takes_name_of_keyText hmessage⟩⟩

/-- A host key of which the host cannot be told stands for no key. -/
theorem ofName?_of_not_canTell {h : Host} {name : Text} {pressed : Bool}
    (hcan : ¬ h.CanTell "input" (keyText name pressed)) : PadKey.ofName? name = none := by
  have hname : ¬ h.outlet.Takes name := fun htakes => hcan (canTell_keyText htakes pressed)
  obtain ⟨d, hd⟩ := Outlet.exists_surrogate_of_not_takes hname
  exact PadKey.ofName?_of_surrogate hd

theorem hostKey_of_not_owner (h : a.owner = false) (name : Text) (pressed : Bool) :
    hostKey name pressed a = .ok () a := by
  unfold hostKey
  rw [Act.get_bind, h]
  rfl

/-- A host key is passed on after the host was told of it. -/
theorem hostKey_of_canTell (h : a.owner = true) {name : Text} {pressed : Bool}
    (hcan : a.host.CanTell "input" (keyText name pressed)) : hostKey name pressed a =
      onEmulator (if pressed then Emulator.press name else Emulator.release name)
        (a.mapHost (·.logged "input" (keyText name pressed))) := by
  unfold hostKey
  rw [Act.get_bind, if_pos h, Act.bind_ok (onHost_tryLog_of_canTell hcan)]

theorem hostKey_of_not_canTell (h : a.owner = true) {name : Text} {pressed : Bool}
    (hcan : ¬ a.host.CanTell "input" (keyText name pressed)) :
    ∃ fault, hostKey name pressed a = .error fault a ∧ fault.IsRefusal := by
  obtain ⟨fault, hfault, hrefusal⟩ := onHost_tryLog_of_not hcan
  refine ⟨fault, ?_, hrefusal⟩
  unfold hostKey
  rw [Act.get_bind, if_pos h]
  exact Act.bind_error hfault

end App

end Chip8
