/-
  What an application leaves when a step fails. Steps in a row fail where one of them does
  (`exists_of_stepTimes_error`). Only a word that is no instruction stops the application and has
  the latest steps printed, unless the output refuses one of them; any other failure leaves it
  running, with nothing printed (`error_of_stepFrame`, `exists_stepFrame_running`).
-/
import Chip8.Proofs.App.Record

namespace Chip8

namespace TraceRecorder

/-- The latest entries as an application prints them. -/
def dumped (r : TraceRecorder) : List Text :=
  (lastOf App.dumpedSteps.toNat r.entries).map fun t => Categories.line "trace" t.format ++ "\n"

end TraceRecorder

namespace App

variable {a a' : App} {fault : Fault} {fr : Display} {start : Host} {running : Bool}

/-! ## Steps in a row -/

/-- Steps in a row fail where one of them does. -/
theorem exists_of_stepTimes_error {n : Nat} (h : stepTimes n a = .error fault a') :
    ∃ j < n, ∃ s e, stepTimes j a = .ok () s ∧ Emulator.step s.emulator = .error fault e ∧
      a' = s.stepped e := by
  induction n generalizing a with
  | zero => cases h
  | succ n ih =>
    unfold stepTimes at h
    cases hr : Emulator.step a.emulator with
    | ok w e =>
      rw [Act.bind_ok (stepOnce_of_ok hr)] at h
      obtain ⟨j, hj, s, e', hs, hfails, hend⟩ := ih h
      refine ⟨j + 1, by omega, s, e', ?_, hfails, hend⟩
      unfold stepTimes
      rw [Act.bind_ok (stepOnce_of_ok hr), hs]
    | error fault' e =>
      rw [Act.bind_error (stepOnce_of_error hr)] at h
      cases h
      exact ⟨0, by omega, a, e, rfl, hr, rfl⟩

/-- An application that records its steps, and prints as it did at the start. -/
structure IsRecording (fr : Display) (start : Host) (running : Bool) (a : App) : Prop where
  sound : a.emulator.IsSound 0x1002 fr
  output : start.SameOutput a.host
  running : a.running = running
  recorder : ∃ r, a.recorder = some r

theorem IsRecording.recorded (h : a.IsRecording fr start running) : ∃ r, a.recorded = some r := by
  obtain ⟨r, hr⟩ := h.recorder
  unfold App.recorded
  rw [hr]
  cases a.emulator.machine.fetch with
  | ok w => exact ⟨_, rfl⟩
  | error fault => exact ⟨_, rfl⟩

theorem IsRecording.stepped (h : a.IsRecording fr start running) :
    (a.stepped (stateOf (Emulator.step a.emulator))).IsRecording fr start running where
  sound := Emulator.keeps_step a.emulator h.sound
  output := h.output.trans (Emulator.sameOutput_step h.sound.bounded.table)
  running := h.running
  recorder := h.recorded

/-! ## Stopping -/

/-- The application after its record was printed. -/
def dumpedAndHalted (a : App) (r : TraceRecorder) : App :=
  { a.mapHost (fun h => { h with printed := h.printed ++ r.dumped.toArray }) with running := false }

theorem halt_of_isLogging {r : TraceRecorder} (hr : a.recorder = some r)
    (hlogging : a.host.isLogging "trace" = true)
    (hcan : ∀ t ∈ r.latest (some dumpedSteps), a.host.CanTell "trace" t.format) :
    halt a = .ok () (a.dumpedAndHalted r) := by
  rw [halt_of_canTell hr hcan, if_pos hlogging]
  rfl

/-- Stopping fails if the output refuses a step of the record. -/
theorem exists_halt_error {r : TraceRecorder} (hr : a.recorder = some r)
    (hcan : ¬ ∀ t ∈ r.latest (some dumpedSteps), a.host.CanTell "trace" t.format) :
    ∃ fault a', halt a = .error fault a' ∧ fault.IsRefusal := by
  have hlines : ¬ ∀ line ∈ r.formatLatest (some dumpedSteps), a.host.CanTell "trace" line := by
    rwa [TraceRecorder.formatLatest, List.forall_mem_map]
  obtain ⟨fault, host, hfault, hrefusal⟩ := Host.exists_tryLog_forM_error hlines
  have hhalt : halt a = .error fault { a.mapHost (fun _ => host) with running := false } := by
    rw [halt_of_recorder hr, TraceRecorder.dump_text, hfault]
    rfl
  exact ⟨fault, _, hhalt, hrefusal⟩

/-- At a word that is no instruction the application stops. It prints its record, unless the output
refuses a step of it. -/
theorem leave_unknown_cases {w : Word} {r : TraceRecorder} (hr : a.recorder = some r)
    (hlogging : a.host.isLogging "trace" = true)
    (h : leave (.unknownInstruction w) a = .error fault a') : a'.running = false ∧
      (fault.IsRefusal ∨ fault = .unknownEncountered w ∧ a' = a.dumpedAndHalted r) := by
  have hstopped : a'.running = false := by
    have hstate := stateOf_leave_unknown w a
    obtain ⟨host, -, hhalt⟩ := exists_halt (a := a) (P := fun _ => True) (fun _ _ _ => id) trivial
    rw [h, hhalt] at hstate
    exact congrArg App.running hstate
  refine ⟨hstopped, ?_⟩
  change (halt >>= fun _ => throw (Fault.unknownEncountered w)) a = _ at h
  by_cases hcan : ∀ t ∈ r.latest (some dumpedSteps), a.host.CanTell "trace" t.format
  · rw [Act.bind_ok (halt_of_isLogging hr hlogging hcan)] at h
    cases h
    exact Or.inr ⟨rfl, rfl⟩
  · obtain ⟨fault', b, hhalt, hrefusal⟩ := exists_halt_error hr hcan
    rw [Act.bind_error hhalt] at h
    cases h
    exact Or.inl hrefusal

theorem not_isRefusal_reported {m : Machine Display} {cause : Fault} (h : m.StepFails cause) :
    ¬ (reported cause).IsRefusal := by
  rintro ⟨run, hrun⟩
  cases h with
  | call | ret =>
    unfold indexFault at hrun
    split at hrun <;> cases hrun
  | _ => cases hrun

/-- An application whose machine is like a reachable one, which records its steps and prints
trace messages, fails to take the steps of a frame: then one of the steps failed, for one of the
reasons that there are, after all steps before it had succeeded. If the reason was a word that is
no instruction, the application has stopped, and has printed the latest entries of its record,
unless the output refused one; it refuses none where the record was plain. If it was another
reason, the application is left as that step left it, running as before. -/
theorem error_of_stepFrame {e : Emulator Display} (hreach : e.IsReachable)
    (halike : e.machine.Alike a.emulator.machine) {recorder : TraceRecorder}
    (hrecorder : a.recorder = some recorder) (hlogging : a.host.isLogging "trace" = true)
    (h : stepFrame a = .error fault a') :
    ∃ j s cause t r, j < a.settings.cycles.toNat ∧ stepTimes j a = .ok () s ∧
      s.emulator.machine.StepFails cause ∧ stepOnce s = .error cause t ∧
      t.running = a.running ∧ t.recorder = some r ∧
      ((∃ w, cause = .unknownInstruction w) → a'.running = false ∧
        (fault.IsRefusal ∨ fault = reported cause ∧
          a' = { t.mapHost (fun h => { h with
            printed := h.printed ++ r.dumped.toArray }) with running := false })) ∧
      ((¬ ∃ w, cause = .unknownInstruction w) → fault = reported cause ∧ a' = t) ∧
      (a.IsPlain → fault = reported cause ∧ ¬ fault.IsRefusal) := by
  have hstart : a.IsRecording a.emulator.machine.display.frame a.host a.running :=
    { sound := ⟨halike.isBounded hreach.isBounded, rfl⟩
      output := .refl a.host
      running := rfl
      recorder := ⟨recorder, hrecorder⟩ }
  have hcount := Display.isCountable_of_cells? halike.cells hreach.isCountable
  cases hr : stepTimes a.settings.cycles.toNat a with
  | ok _ a₁ =>
    rw [stepFrame_of_ok hr] at h
    cases h
  | error cause t =>
    rw [stepFrame_of_error hr] at h
    have hplain : a.IsPlain → t.IsPlain := fun hplain => by
      have hkept := keeps_isPlain_stepTimes a.settings.cycles.toNat a hplain
      rwa [hr] at hkept
    obtain ⟨j, hj, s, e', hs, hfails, rfl⟩ := exists_of_stepTimes_error hr
    -- before the step that failed the machine was bounded still, so that the causes are known
    have hlast : s.IsRecording a.emulator.machine.display.frame a.host a.running := by
      have hkept := keeps_stepTimes (fun _ h => h.stepped) j a hstart
      rwa [hs] at hkept
    have hcause : s.emulator.machine.StepFails cause := by
      have hcount' := (Display.isCountable_congr hlast.sound.frame).mpr hcount
      exact hlast.sound.bounded.fault?_iff.mp
        ((Emulator.step_error_iff hlast.sound.bounded hcount').mp ⟨e', hfails⟩)
    have hleft : (s.stepped e').IsRecording a.emulator.machine.display.frame a.host a.running := by
      have hstepped := hlast.stepped
      rw [hfails] at hstepped
      exact hstepped
    obtain ⟨r, hrecorded⟩ := hleft.recorder
    refine ⟨j, s, cause, s.stepped e', r, hj, hs, hcause, stepOnce_of_error hfails,
      hleft.running, hrecorded, ?_, fun hknown => ?_, fun ha => ?_⟩
    · rintro ⟨w, rfl⟩
      have hlogging' : (s.stepped e').host.isLogging "trace" = true := by
        unfold Host.isLogging at hlogging ⊢
        rwa [← hleft.output.1]
      exact leave_unknown_cases hrecorded hlogging' h
    · rw [leave_of_known hknown] at h
      cases h
      exact ⟨rfl, rfl⟩
    · rw [leave_of_isPlain (hplain ha)] at h
      cases h
      exact ⟨rfl, not_isRefusal_reported hcause⟩

/-- At a word that is no instruction an application stops. -/
theorem error_of_stepFrame_unknown : ∃ (e : Emulator Display) (a a' : App), e.IsReachable ∧
    e.machine.Alike a.emulator.machine ∧ a.recorder = some (.empty recordedSteps) ∧
    a.host.isLogging "trace" = true ∧
    stepFrame a = .error (.unknownEncountered 0x5000) a' ∧ a'.running = false := by
  obtain ⟨e, host', -, hreach, hfetch⟩ := Emulator.exists_unknown
  let a : App :=
    { settings := { cycles := 1 }
      emulator := e.mapHost fun host => { host with categories := ⟨["trace"]⟩ }
      recorder := some (.empty recordedSteps) }
  have halike : e.machine.Alike a.emulator.machine := Machine.Alike.refl _
  have hop : Word.operation? 0x5000 = none := by decide
  have hfails : Emulator.step a.emulator = .error (.unknownInstruction 0x5000) a.emulator := by
    have hfetch' : a.emulator.machine.fetch = .ok 0x5000 := hfetch
    have htable : a.emulator.machine.table = some standardTable := hreach.isBounded.table
    rw [Emulator.step_of_fetch hfetch']
    exact Act.bind_error (Emulator.execute_of_none htable hop)
  have hsteps : stepTimes 1 a = .error (.unknownInstruction 0x5000) (a.stepped a.emulator) :=
    Act.bind_error (stepOnce_of_error hfails)
  have hplain : (a.stepped a.emulator).IsPlain := by
    refine IsPlain.stepped (fun r hr t ht => ?_) _
    cases hr
    cases ht
  have hframe := (stepFrame_of_error (a := a) hsteps).trans (leave_of_isPlain hplain _)
  have hlogging : (⟨["trace"]⟩ : Categories).isOn "trace" = true := by decide
  obtain ⟨j, s, cause, t, r, hj, hs, -, hfault, -, -, hunknown, -, -⟩ :=
    error_of_stepFrame hreach halike rfl hlogging hframe
  obtain rfl : j = 0 := Nat.lt_one_iff.mp hj
  cases hs
  cases (stepOnce_of_error hfails).symm.trans hfault
  exact ⟨e, a, _, hreach, halike, rfl, hlogging, hframe, (hunknown ⟨_, rfl⟩).1⟩

/-- A step past the end of the memory fails, and the application goes on running. It has printed
nothing, although its record has an entry. -/
theorem exists_stepFrame_running : ∃ (e : Emulator Display) (host' : Host) (a a' : App),
    Machine.create { display := Display.bitmap (FrameBuffer.blank 8 4), rom := [0x1F, 0xFF] }
      { categories := ⟨["trace"]⟩ } = .ok e host' ∧
    a = ofEmulator { cycles := 2 } e false ∧ a.host.isLogging "trace" = true ∧
    stepFrame a = .error .cellIndex a' ∧
    a'.running = true ∧ a'.host.printed = a.host.printed ∧
    ∃ r, a'.recorder = some r ∧ r.size = 1 := by
  obtain ⟨e, e₁, host', hcreate, -, hstep, ⟨message, hhost⟩, -, hfetch⟩ :=
    Emulator.exists_jump_past_end ⟨["trace"]⟩
  have hcategories : e.host.categories = ⟨["trace"]⟩ :=
    (Machine.sameOutput_of_create hcreate).1.symm
  have htrace : e.host.isLogging "trace" = true := by
    unfold Host.isLogging
    rw [hcategories]
    decide
  have hsilent : e.host.isLogging "cpu" = false := by
    unfold Host.isLogging
    rw [hcategories]
    decide
  let a := ofEmulator { cycles := 2 } e false
  have hrecorder : a.recorder = some (.empty recordedSteps) := if_pos htrace
  have hfails : Emulator.step (a.stepped e₁).emulator = .error .cellIndex e₁ :=
    Emulator.step_of_fetch_error hfetch
  have hsteps : stepTimes 2 a = .error .cellIndex ((a.stepped e₁).stepped e₁) := by
    have hfirst : stepOnce a = .ok () (a.stepped e₁) := stepOnce_of_ok hstep
    refine (Act.bind_ok hfirst).trans ?_
    exact Act.bind_error (stepOnce_of_error hfails)
  have hframe : stepFrame a = .error .cellIndex ((a.stepped e₁).stepped e₁) :=
    stepFrame_of_error (a := a) hsteps
  refine ⟨e, host', a, _, hcreate, rfl, htrace, hframe, rfl, ?_, ?_⟩
  · change e₁.host.printed = e.host.printed
    rw [hhost, Host.logged_eq, if_neg fun h => Bool.false_ne_true (hsilent.symm.trans h.1)]
  · change ∃ r, (a.stepped e₁).recorded = some r ∧ r.size = 1
    rw [recorded_of_fetch_error (a := a.stepped e₁) hfetch]
    change ∃ r, a.recorded = some r ∧ r.size = 1
    unfold recorded
    cases hf : a.emulator.machine.fetch with
    | error fault => cases (Emulator.step_of_fetch_error hf).symm.trans hstep
    | ok w =>
      rw [hrecorder]
      refine ⟨_, rfl, ?_⟩
      rw [TraceRecorder.size, TraceRecorder.entries_record, TraceRecorder.entries_empty,
        TraceRecorder.length_lastOf]
      rfl

end App

end Chip8
