/-
  The schedule of a run. A finished frame plays the keys of a batch, a fixed number of steps and
  one tick (`frameEvents`). A run finishes frames, and then it ends within the next batch or the
  next frame (`Ending`): the host or the shell quits, the shell fails, the host cannot be told of a
  key, or a step fails. Or it ends at once, because the last frame cannot be told of. However it
  ends, the tone is silenced and the host is closed once. The main statement is
  `run_plays_frames`.
-/
import Chip8.Proofs.App.Pump

namespace Chip8

/-- What a finished frame does to the machine. -/
def frameEvents (cycles : Nat) (batch : List HostEvent) : List Event :=
  keyEvents batch ++ List.replicate cycles .step ++ [.tick]

namespace App

/-- How a run ends after its last finished frame, in the batch that follows: the fault that it tells
of, if any, and what still happens to the machine. -/
inductive Ending (settings : AppSettings) (frames : Nat) (e : Emulator Display) (s : Session)
    (batch : List HostEvent) : Option Fault → List Event → Prop
  /-- The host or the shell quits. -/
  | quit (hended : (s.afterAll batch).running = false) (hkeys : e.Succeeds (keyEvents batch)) :
    Ending settings frames e s batch none (keyEvents batch)
  /-- The shell is to show the processor, and there is no word at the program counter. -/
  | shell {front behind : List HostEvent} {fault : Fault}
    (hbatch : batch = front ++ .escapeDown :: behind)
    (hrunning : (s.afterAll front).running = true) (hkeys : e.Succeeds (keyEvents front))
    (hfetch : (e.run (keyEvents front)).machine.fetch = .error fault) :
    Ending settings frames e s batch (some fault) (keyEvents front)
  /-- A step fails after fewer steps than a frame has. -/
  | step {j : Nat} {fault : Fault} (hrunning : (s.afterAll batch).running = true)
    (hj : j < settings.cycles.toNat)
    (hsteps : e.Succeeds (keyEvents batch ++ List.replicate j .step))
    (hfault : (⟨.step, e.run (keyEvents batch ++ List.replicate j .step)⟩ :
      Moment Display).answer = .error fault) :
    Ending settings frames e s batch (some (reported fault))
      (keyEvents batch ++ List.replicate j .step ++ [.step])
  /-- The host cannot be told of a key. -/
  | key {front behind : List HostEvent} {event : HostEvent} {fault : Fault}
    (hbatch : batch = front ++ event :: behind) (hkeys : e.Succeeds (keyEvents front))
    (hrefused : ¬ event.IsTold (e.run (keyEvents front)).host) (hfault : fault.IsRefusal) :
    Ending settings frames e s batch (some fault) (keyEvents front)
  /-- The host is to be told of the last finished frame, in numbers with too many digits. -/
  | report (hframes : 0 < frames) (hperf : e.host.isLogging "perf" = true)
    (hdigits : 10 ^ Numeral.decimalDigitLimit ≤ frames ∨
      10 ^ Numeral.decimalDigitLimit ≤ settings.cycles.natAbs) :
    Ending settings frames e s batch (some .numeralTooLong) []

variable {before : List HostCall} {settings : AppSettings} {frames : Nat}
  {e : Emulator Display} {s : Session} {a : App}

/-- One of the steps in a row failed, and the application plays the machine up to it. -/
def FailsWithin (before : List HostCall) (settings : AppSettings) (frames : Nat)
    (e : Emulator Display) (s : Session) (n : Nat) (fault : Fault) (a : App) : Prop :=
  ∃ j < n, e.Succeeds (List.replicate j .step) ∧
    (⟨.step, e.run (List.replicate j .step)⟩ : Moment Display).answer = .error fault ∧
    a.Plays before settings frames ((e.run (List.replicate j .step)).after .step) s

/-- The host is to be told of the last of so many frames, in numbers with too many digits. -/
def CannotReport (settings : AppSettings) (frames : Nat) (e : Emulator Display) : Prop :=
  e.host.isLogging "perf" = true ∧ (10 ^ Numeral.decimalDigitLimit ≤ frames ∨
    10 ^ Numeral.decimalDigitLimit ≤ settings.cycles.natAbs)

/-- The frames end within a batch. -/
def EndsWithin (before : List HostCall) (settings : AppSettings) (frames : Nat)
    (e : Emulator Display) (s : Session) (batch : List HostEvent)
    (r : EStateM.Result Fault App Unit) : Prop :=
  ∃ fault? last a s', r = ended fault? a ∧ Ending settings frames e s batch fault? last ∧
    a.Plays before settings frames (e.run last) s'

namespace Plays

/-! ## Steps -/

/-- The next instruction of the machine. -/
theorem stepOnce (h : a.Plays before settings frames e s) :
    EndsIn (fun _ a' => (∃ answer, (⟨.step, e⟩ : Moment Display).answer = .ok answer) ∧
        a'.Plays before settings frames (e.after .step) s)
      (fun fault a' => (⟨.step, e⟩ : Moment Display).answer = .error fault ∧
        a'.Plays before settings frames (e.after .step) s)
      (stepOnce a) := by
  have hmatch := h.follows.step
  rw [Emulator.after_step, Emulator.answer_step]
  generalize Emulator.step e = r at hmatch ⊢
  cases hr : Emulator.step a.emulator with
  | ok w e' =>
    rw [hr] at hmatch
    rw [stepOnce_of_ok hr]
    cases hmatch with
    | ok hfollows =>
      exact ⟨⟨_, rfl⟩, { h with follows := hfollows, plain := h.plain.stepped e' }⟩
  | error fault e' =>
    rw [hr] at hmatch
    rw [stepOnce_of_error hr]
    cases hmatch with
    | error hfollows =>
      exact ⟨rfl, { h with follows := hfollows, plain := h.plain.stepped e' }⟩

/-- Steps in a row, up to one that fails. -/
theorem stepTimes (h : a.Plays before settings frames e s) (n : Nat) :
    EndsIn (fun _ a' => e.Succeeds (List.replicate n .step) ∧
        a'.Plays before settings frames (e.run (List.replicate n .step)) s)
      (FailsWithin before settings frames e s n) (stepTimes n a) := by
  induction n generalizing a e with
  | zero => exact ⟨Emulator.succeeds_nil e, h⟩
  | succ n ih =>
    have hfirst : EndsIn (fun _ a' =>
          (∃ answer, (⟨.step, e⟩ : Moment Display).answer = .ok answer) ∧
          a'.Plays before settings frames (e.after .step) s)
        (FailsWithin before settings frames e s (n + 1)) (App.stepOnce a) :=
      h.stepOnce.mono (fun _ _ h => h) fun _ _ h =>
        ⟨0, by omega, Emulator.succeeds_nil e, h⟩
    refine hfirst.bind fun _ a₁ ⟨hanswer, h₁⟩ => (ih h₁).mono ?_ ?_
    · rintro _ a' ⟨hsteps, hplays⟩
      exact ⟨Emulator.succeeds_cons hanswer hsteps, hplays⟩
    · rintro fault a' ⟨j, hj, hsteps, hfails⟩
      exact ⟨j + 1, by omega, Emulator.succeeds_cons hanswer hsteps, hfails⟩

/-! ## Frames -/

/-- Stopping changes nothing of the machine. -/
theorem halt (h : a.Plays before settings frames e s) :
    (stateOf (App.halt a)).Plays before settings frames e ⟨false, s.console⟩ := by
  obtain ⟨host, hquiet, hhalt⟩ := exists_halt (P := a.host.AsksQuietly)
    (fun t _ _ hquiet => hquiet.trans (t.quietly_log ..)) (.refl a.host)
  rw [hhalt]
  exact { h with follows := h.follows.quietly (.refl _) rfl hquiet, running := rfl }

theorem leave (h : a.Plays before settings frames e s) (fault : Fault) :
    ∃ s', (stateOf (App.leave fault a)).Plays before settings frames e s' := by
  by_cases hunknown : ∃ w, fault = .unknownInstruction w
  · obtain ⟨w, rfl⟩ := hunknown
    rw [stateOf_leave_unknown]
    exact ⟨_, h.halt⟩
  · rw [leave_of_known hunknown]
    exact ⟨s, h⟩

/-- The steps of a frame. -/
theorem stepFrame (h : a.Plays before settings frames e s) :
    EndsIn (fun _ a' => e.Succeeds (List.replicate settings.cycles.toNat .step) ∧
        a'.Plays before settings frames (e.run (List.replicate settings.cycles.toNat .step)) s)
      (fun fault' a' => ∃ fault s', fault' = reported fault ∧
        FailsWithin before settings frames e s' settings.cycles.toNat fault a')
      (stepFrame a) := by
  have hsteps := h.stepTimes settings.cycles.toNat
  rw [← h.settings] at hsteps
  cases hr : App.stepTimes a.settings.cycles.toNat a with
  | ok _ a' =>
    rw [hr] at hsteps
    rw [stepFrame_of_ok hr, ← h.settings]
    exact hsteps
  | error fault a' =>
    rw [hr] at hsteps
    obtain ⟨j, hj, hsucceeds, hfault, hplays⟩ := hsteps
    obtain ⟨s', hleft⟩ := hplays.leave fault
    rw [stepFrame_of_error hr, leave_of_isPlain hplays.plain, ← h.settings]
    exact ⟨fault, s', rfl, j, hj, hsucceeds, hfault, hleft⟩

theorem tick (h : a.Plays before settings frames e s) :
    (a.mapEmulator Emulator.tick).Plays before settings frames (e.after .tick) s :=
  { h with follows := h.follows.tick }

theorem present (h : a.Plays before settings frames e s) :
    a.present.Plays before settings frames e s := by
  unfold App.present
  rw [if_pos h.owner]
  exact { h with follows := h.follows.present }

/-- The host is told of a finished frame, unless the numbers of it have too many digits. -/
theorem logFrame (h : a.Plays before settings frames e s) :
    EndsIn (fun _ a' => a'.Plays before settings frames e s)
      (fun fault a' => fault = .numeralTooLong ∧ CannotReport settings frames e ∧
        a'.Plays before settings frames e s)
      (logFrame a) := by
  rcases a.logFrame_cases with ⟨⟨hperf, hmany⟩, hfails⟩ | ⟨-, host, hlog, htold⟩
  · rw [Host.isLogging, ← h.follows.output.1] at hperf
    rw [HasManyDigits, h.frames, h.settings] at hmany
    rw [hfails]
    exact ⟨rfl, ⟨hperf, hmany⟩, h⟩
  · rw [htold]
    exact { h with follows := h.follows.quietly (.refl _) rfl (Host.quietly_of_log hlog) }

/-- The steps of a frame and its tick. -/
theorem runFrame (h : a.Plays before settings frames e s) :
    EndsIn (fun _ a' => e.Succeeds (List.replicate settings.cycles.toNat .step ++ [.tick]) ∧
        a'.Plays before settings (frames + 1)
          (e.run (List.replicate settings.cycles.toNat .step ++ [.tick])) s)
      (fun fault' a' =>
        (∃ fault s', fault' = reported fault ∧
          FailsWithin before settings frames e s' settings.cycles.toNat fault a') ∨
        e.Succeeds (List.replicate settings.cycles.toNat .step ++ [.tick]) ∧
          fault' = .numeralTooLong ∧ CannotReport settings (frames + 1)
            (e.run (List.replicate settings.cycles.toNat .step ++ [.tick])) ∧
          a'.Plays before settings (frames + 1)
            (e.run (List.replicate settings.cycles.toNat .step ++ [.tick])) s)
      (runFrame a) := by
  unfold App.runFrame
  refine (h.stepFrame.mono (fun _ _ h => h) fun _ _ h => Or.inl h).bind
    fun _ a₁ ⟨hsteps, h₁⟩ => ?_
  have hsucceeds : e.Succeeds (List.replicate settings.cycles.toNat .step ++ [.tick]) :=
    Emulator.succeeds_append hsteps (Emulator.succeeds_cons ⟨none, rfl⟩ (Emulator.succeeds_nil _))
  have hcounted : ({ (a₁.mapEmulator Emulator.tick).present with
      frames := (a₁.mapEmulator Emulator.tick).present.frames + 1 } : App).Plays before settings
      (frames + 1) (e.run (List.replicate settings.cycles.toNat .step ++ [.tick])) s := by
    rw [Emulator.run_append_list]
    exact { h₁.tick.present with frames := congrArg (· + 1) h₁.tick.present.frames }
  rw [Act.modify_bind, Act.modify_bind]
  exact hcounted.logFrame.mono (fun _ _ h => ⟨hsucceeds, h⟩) fun _ _ h => Or.inr ⟨hsucceeds, h⟩

/-! ## The loop -/

/-- Within a batch the shell may fail, or the host not be told of a key. -/
theorem endsWithin_of_pump (h : a.Plays before settings frames e s) {batch : List HostEvent}
    {fault : Fault} {a' : App} (hr : App.pump batch a = .error fault a') :
    EndsWithin before settings frames e s batch (.error fault a') := by
  have hpump := h.pump batch
  rw [hr] at hpump
  obtain ⟨front, event, behind, s', hbatch, hkeys, hstops, hplays⟩ := hpump
  refine ⟨some fault, _, a', s', rfl, ?_, hplays⟩
  rcases hstops with ⟨rfl, hfront, hfetch⟩ | ⟨hrefused, hrefusal⟩
  · exact .shell hbatch hfront hkeys hfetch
  · exact .key hbatch hkeys hrefused hrefusal

/-- After a batch whose keys were played a step of the frame may fail. -/
theorem endsWithin_of_failsWithin {batch : List HostEvent} (hkeys : e.Succeeds (keyEvents batch))
    (hrunning : (s.afterAll batch).running = true) {s' : Session} {fault : Fault} {a' : App}
    (hfails : FailsWithin before settings frames (e.run (keyEvents batch)) s'
      settings.cycles.toNat fault a') :
    EndsWithin before settings frames e s batch (.error (reported fault) a') := by
  obtain ⟨j, hj, hsteps, hfault, hplays⟩ := hfails
  have hrun : e.run (keyEvents batch ++ List.replicate j .step) =
      (e.run (keyEvents batch)).run (List.replicate j .step) := Emulator.run_append_list e _ _
  refine ⟨some (reported fault), _, a', s', rfl,
    .step hrunning hj (Emulator.succeeds_append hkeys hsteps) (hrun ▸ hfault), ?_⟩
  rw [Emulator.run_append, hrun]
  exact hplays

/-- The frame of a batch is finished, and the application plays on. -/
structure Finishes (before : List HostCall) (settings : AppSettings) (frames : Nat)
    (e : Emulator Display) (s : Session) (batch : List HostEvent) (a : App) : Prop where
  succeeds : e.Succeeds (frameEvents settings.cycles.toNat batch)
  running : (s.afterAll batch).running = true
  plays : a.Plays before settings (frames + 1) (e.run (frameEvents settings.cycles.toNat batch))
    (s.afterAll batch)

theorem finishes {batch : List HostEvent} (hkeys : e.Succeeds (keyEvents batch))
    (hrunning : (s.afterAll batch).running = true)
    (hsteps : (e.run (keyEvents batch)).Succeeds
      (List.replicate settings.cycles.toNat .step ++ [.tick]))
    (h : a.Plays before settings (frames + 1) ((e.run (keyEvents batch)).run
      (List.replicate settings.cycles.toNat .step ++ [.tick])) (s.afterAll batch)) :
    Finishes before settings frames e s batch a := by
  have hevents : frameEvents settings.cycles.toNat batch =
      keyEvents batch ++ (List.replicate settings.cycles.toNat .step ++ [.tick]) :=
    List.append_assoc ..
  constructor
  · rw [hevents]
    exact Emulator.succeeds_append hkeys hsteps
  · exact hrunning
  · rw [hevents, Emulator.run_append_list]
    exact h

/-- The loop with one more batch ends within the batch, or finishes a frame. Then it goes on, unless
the host cannot be told of the frame. -/
theorem runFrames_cons (h : a.Plays before settings frames e s) (batch : List HostEvent)
    (rest : List (List HostEvent)) :
    EndsWithin before settings frames e s batch (App.runFrames (batch :: rest) a) ∨
    ∃ a', Finishes before settings frames e s batch a' ∧
      (App.runFrames (batch :: rest) a = App.runFrames rest a' ∨
        App.runFrames (batch :: rest) a = .error .numeralTooLong a' ∧
          CannotReport settings (frames + 1)
            (e.run (frameEvents settings.cycles.toNat batch))) := by
  have hpump := h.pump batch
  have hloop : App.runFrames (batch :: rest) = (do
      App.pump batch
      if (← get).running then
        App.runFrame
        modify (App.mapHost (·.call (.waitTick frameRate)))
        App.runFrames rest) := rfl
  rw [hloop]
  cases hr : App.pump batch a with
  | error fault a' =>
    left
    rw [Act.bind_error hr]
    exact h.endsWithin_of_pump hr
  | ok _ a₁ =>
    rw [hr] at hpump
    obtain ⟨hkeys, h₁⟩ := hpump
    rw [Act.bind_ok hr, Act.get_bind]
    by_cases hrunning : (s.afterAll batch).running = true
    · rw [if_pos (h₁.running.trans hrunning)]
      have hframe := h₁.runFrame
      cases hr₂ : App.runFrame a₁ with
      | error fault a' =>
        rw [hr₂] at hframe
        rw [Act.bind_error hr₂]
        obtain ⟨fault, s', rfl, hfails⟩ | ⟨hsteps, rfl, hreport, hplays⟩ := hframe
        · exact Or.inl (endsWithin_of_failsWithin hkeys hrunning hfails)
        · refine Or.inr ⟨a', finishes hkeys hrunning hsteps hplays, Or.inr ⟨rfl, ?_⟩⟩
          rw [frameEvents, List.append_assoc, Emulator.run_append_list]
          exact hreport
      | ok _ a₂ =>
        rw [hr₂] at hframe
        obtain ⟨hsteps, h₂⟩ := hframe
        have hshown := h₂.mapHost fun host => host.quietly_call (c := .waitTick frameRate) rfl
        exact Or.inr ⟨_, finishes hkeys hrunning hsteps hshown, Or.inl (Act.bind_ok hr₂)⟩
    · left
      rw [if_neg (h₁.running ▸ hrunning)]
      exact ⟨none, _, a₁, _, rfl, .quit (Bool.eq_false_iff.mpr hrunning) hkeys, h₁⟩

/-- The loop finishes frames and ends within the next batch; the last batch of all quits. -/
theorem runFrames (h : a.Plays before settings frames e s) (hrunning : s.running = true)
    (batches : List (List HostEvent)) :
    ∃ done batch rest, batches ++ [[.quit]] = done ++ batch :: rest ∧
      e.Succeeds (done.flatMap (frameEvents settings.cycles.toNat)) ∧
      (s.afterAll done.flatten).running = true ∧
      EndsWithin before settings (frames + done.length)
        (e.run (done.flatMap (frameEvents settings.cycles.toNat))) (s.afterAll done.flatten) batch
        (App.runFrames batches a) := by
  induction batches generalizing a e s frames with
  | nil =>
    have hpump := h.pump [.quit]
    refine ⟨[], [.quit], [], rfl, Emulator.succeeds_nil e, hrunning, ?_⟩
    unfold App.runFrames
    cases hr : App.pump [.quit] a with
    | error fault a' => exact h.endsWithin_of_pump hr
    | ok _ a' =>
      rw [hr] at hpump
      exact ⟨none, _, a', _, rfl, .quit rfl hpump.1, hpump.2⟩
  | cons batch rest ih =>
    obtain hends | ⟨a₁, hframe, hgoes | ⟨hfails, hreport⟩⟩ := h.runFrames_cons batch rest
    · exact ⟨[], batch, _, rfl, Emulator.succeeds_nil e, hrunning, hends⟩
    · obtain ⟨done, last, behind, hscript, hdone, hlast, hends⟩ := ih hframe.plays hframe.running
      refine ⟨batch :: done, last, behind, congrArg (batch :: ·) hscript, ?_, ?_, ?_⟩
      · rw [List.flatMap_cons]
        exact Emulator.succeeds_append hframe.succeeds hdone
      · rw [List.flatten_cons, Session.afterAll_append]
        exact hlast
      · rw [hgoes, List.flatMap_cons, Emulator.run_append_list, List.flatten_cons,
          Session.afterAll_append, List.length_cons, Nat.add_comm done.length, ← Nat.add_assoc]
        exact hends
    · -- the frame was finished, and the next batch is not looked at
      obtain ⟨next, behind, hnext⟩ : ∃ next behind, rest ++ [[HostEvent.quit]] = next :: behind :=
        List.exists_cons_of_ne_nil (by simp)
      refine ⟨[batch], next, behind, congrArg (batch :: ·) hnext, ?_, ?_, ?_⟩
      · rw [List.flatMap_singleton]
        exact hframe.succeeds
      · rw [List.flatten_singleton]
        exact hframe.running
      · rw [hfails, List.flatMap_singleton, List.flatten_singleton]
        exact ⟨some .numeralTooLong, [], a₁, _, rfl, .report (Nat.succ_pos _) hreport.1 hreport.2,
          hframe.plays⟩

/-! ## Closing -/

/-- Whatever ended the frames, the audio is silenced and the host closed. -/
theorem close (h : a.Plays before settings frames e s) :
    e.Alike a.close.emulator ∧ a.close.emulator.machine.audio = e.machine.audio.silenced ∧
      a.close.frames = frames ∧ ∃ added, a.close.host.calls.toList = before ++ added ++ [.quit] ∧
        .quit ∉ added ∧ Host.tone added = false := by
  obtain ⟨⟨added, hcalls, hopen, hsilent⟩, haudio⟩ := Audio.tuned_shutdown h.follows.tuned
  refine ⟨{ h.follows.alike with }, ?_, h.frames, added, ?_, hopen, hsilent⟩
  · have hsame : e.machine.audio = a.emulator.machine.audio := h.follows.tone.1
    rw [hsame]
    exact haudio
  · change ((Audio.shutdown _).2.call .quit).calls.toList = _
    rw [← hcalls]
    simp [Host.call]

end Plays

/-! ## Runs -/

theorem create_of_ok {rom : List Byte} {host host' : Host} {config : MachineConfig Display}
    (hparts : parts settings rom host = .ok config) (hready : host.mixerRate.isReady = true)
    (h : Machine.create config host = .ok e host') :
    create settings rom host = .ok (ofEmulator settings e true) host' := by
  unfold create
  rw [hparts]
  dsimp only
  rw [if_pos hready, h]

theorem of_create_ok {rom : List Byte} {host host' : Host}
    (h : create settings rom host = .ok a host') :
    ∃ config ready, parts settings rom host = .ok config ∧ host.AsksQuietly ready ∧
      Machine.create config ready = .ok a.emulator host' ∧
      a = ofEmulator settings a.emulator true := by
  unfold create at h
  cases hparts : parts settings rom host with
  | error fault =>
    rw [hparts] at h
    cases h
  | ok config =>
    rw [hparts] at h
    have hquiet : host.AsksQuietly (if host.mixerRate.isReady then host
        else host.log "audio" "mixer unavailable, running silent") := by
      split
      · exact .refl host
      · exact host.quietly_log _ _
    dsimp only at h
    generalize (if host.mixerRate.isReady then host
      else host.log "audio" "mixer unavailable, running silent") = ready at h hquiet
    cases hm : Machine.create config ready with
    | error fault host' =>
      rw [hm] at h
      cases h
    | ok e host' =>
      rw [hm] at h
      cases h
      exact ⟨config, ready, rfl, hquiet, hm, rfl⟩

theorem of_parts_ok {rom : List Byte} {host : Host} {config : MachineConfig Display}
    (h : parts settings rom host = .ok config) :
    config.display.IsCountable ∧ config.keyboard = .keypad {} := by
  unfold parts Window.ofSettings at h
  split at h
  · cases h
    refine ⟨?_, rfl⟩
    rintro f ⟨⟩
    exact FrameBuffer.isCountable_of_blank? (w := 64) (h := 32) rfl
  · cases h

/-- An application that was just created plays its own machine. -/
theorem plays_of_create {rom : List Byte} {host host₁ host' : Host}
    (hstart : host.AsksQuietly host₁) (h : create settings rom host₁ = .ok a host') :
    a.Plays host.calls.toList settings 0 a.emulator ⟨true, host.console⟩ := by
  obtain ⟨config, ready, hparts, hready, hmachine, happ⟩ := of_create_ok h
  obtain ⟨hcount, hkeypad⟩ := of_parts_ok hparts
  obtain ⟨hmade, hsilent, hkeyboard⟩ := Machine.quietly_create hmachine
  have hquiet := hstart.trans (hready.trans hmade)
  refine
    { follows :=
        { reachable := ⟨config, ready, host', a.emulator, [], hcount, hmachine, rfl⟩
          keypad := ⟨{}, by rw [hkeyboard, hkeypad]; rfl⟩
          alike := Machine.Alike.refl _
          tone := ⟨rfl, rfl⟩
          tuned := ⟨?_, ?_⟩
          console := hquiet.console
          output := .refl _ }
      owner := by rw [happ]; rfl
      settings := by rw [happ]; rfl
      frames := by rw [happ]; rfl
      running := by rw [happ]; rfl
      plain := by rw [happ]; exact isPlain_ofEmulator settings _ true }
  · rw [hsilent]
    exact (Host.Sounds.start host).asks hquiet.asks
  · intro b hb hplaying
    change a.emulator.machine.audio = .beeper b at hb
    rw [hb] at hsilent
    exact absurd (hsilent.symm.trans hplaying) Bool.false_ne_true

/-- A run of an image that can be read on a host that can be set up finishes frames and ends in
the batch after them. Its machine is as the new one is after as many times the keys of a batch, the
steps of a frame and a tick, and then what the ending still does; all of this succeeds, but for
a step that ends the run. No frame follows a batch in which the host or the shell quits. In the
end the audio is silenced and the host is closed, once, without a tone. -/
theorem run_plays_frames {look : FileLookup} {host h₀ : Host} {path : PathName} {rom : List Byte}
    {app₀ : App} (hpath : settings.rom = some path) (hread : Rom.read look path = .ok rom)
    (htoolkit : host.toolkit = true)
    (hcreate : create settings rom (startHost host) = .ok app₀ h₀)
    (batches : List (List HostEvent)) :
    let cycles := settings.cycles.toNat
    let start : Session := ⟨true, host.console⟩
    ∃ done batch rest fault? last app, batches ++ [[.quit]] = done ++ batch :: rest ∧
      run settings look batches host = .ended fault? app ∧ app.frames = done.length ∧
      (app₀.emulator.run (done.flatMap (frameEvents cycles) ++ last)).Alike app.emulator ∧
      app.emulator.machine.audio =
        (app₀.emulator.run (done.flatMap (frameEvents cycles) ++ last)).machine.audio.silenced ∧
      app₀.emulator.Succeeds (done.flatMap (frameEvents cycles)) ∧
      (∀ k ≤ done.length, (start.afterAll (done.take k).flatten).running = true) ∧
      .quit ∉ done.flatten ∧
      Ending settings done.length (app₀.emulator.run (done.flatMap (frameEvents cycles)))
        (start.afterAll done.flatten) batch fault? last ∧
      ∃ added, app.host.calls.toList = host.calls.toList ++ added ++ [.quit] ∧ .quit ∉ added ∧
        Host.tone added = false := by
  intro cycles start
  have himage : readImage settings look host = .ok rom := by
    unfold readImage
    rw [htoolkit, hpath]
    dsimp only
    rw [hread]
    rfl
  have hstart : host.AsksQuietly (startHost host) :=
    (host.quietly_call rfl).trans (Host.quietly_call rfl _)
  obtain ⟨done, batch, rest, hscript, hdone, hon, fault?, last, a, s', hends, hending, hplays⟩ :=
    (plays_of_create hstart hcreate).runFrames rfl batches
  rw [Nat.zero_add] at hending hplays
  rw [← Emulator.run_append_list] at hplays
  obtain ⟨halike, haudio, hframes, hcalls⟩ := hplays.close
  refine ⟨done, batch, rest, fault?, last, a.close, hscript, ?_, hframes, halike, haudio, hdone,
    fun k _ => ?_, Session.not_mem_quit_of_running hon, hending, hcalls⟩
  · unfold run
    rw [himage]
    dsimp only
    rw [hcreate]
    dsimp only
    rw [hends]
    cases fault? <;> rfl
  · have hsplit : done.flatten = (done.take k).flatten ++ (done.drop k).flatten := by
      rw [← List.flatten_append, List.take_append_drop]
    rw [hsplit, Session.afterAll_append] at hon
    exact Session.running_of_afterAll hon

/-- A program that jumps to itself is run for one frame of one step, and then the host quits. -/
theorem run_plays_frames_loop : ∃ (settings : AppSettings) (look : FileLookup) (app₀ app : App)
    (h₀ : Host), settings.cycles = 1 ∧
    create settings [0x12, 0x00] (startHost {}) = .ok app₀ h₀ ∧
    run settings look [[], [.quit]] {} = .ended none app ∧ app.frames = 1 ∧
    (app₀.emulator.run [.step, .tick]).Alike app.emulator := by
  let rom : List Byte := [0x12, 0x00]
  let settings : AppSettings := { rom := some (PathName.parse "loop"), cycles := 1 }
  let look : FileLookup := fun _ => .ok (.file rom)
  let config : MachineConfig Display :=
    { display := .window (Window.ofScale 10), keyboard := .keypad {}, audio := .beeper .standard,
      rom := rom }
  have hread : Rom.read look (PathName.parse "loop") = .ok rom := by rfl
  obtain ⟨e, h₀, hmachine, hmemory, -⟩ :=
    Machine.exists_create config (startHost {}) rfl rfl rfl (by decide)
  have hcreate : create settings rom (startHost {}) = .ok (ofEmulator settings e true) h₀ := by
    have hparts : parts settings rom (startHost {}) = .ok config := by rfl
    have hready : (startHost {}).mixerRate.isReady = true := by rfl
    exact create_of_ok hparts hready hmachine
  have hpath : settings.rom = some (PathName.parse "loop") := rfl
  have htoolkit : ({} : Host).toolkit = true := rfl
  -- the only step of the frame succeeds
  have hfresh := Machine.fresh_of_create hmachine
  have hfetch : e.machine.fetch = .ok (Word.ofBytes (rom.getD 0 0) (rom.getD 1 0)) :=
    hfresh.fetch hmemory (by decide) (by decide)
  have hop : (Word.ofBytes (rom.getD 0 0) (rom.getD 1 0)).operation? = some .jump := by decide
  have hstep : ∃ answer, (⟨.step, e⟩ : Moment Display).answer = .ok answer := by
    have hexecute := Emulator.execute_of_operation? hfresh.table hop
    rw [Emulator.answer_step, Emulator.step_of_fetch hfetch, Act.bind_ok hexecute]
    exact ⟨_, rfl⟩
  obtain ⟨done, batch, rest, fault?, last, app, hscript, hrun, hframes, halike, -, -, -, hquit,
    hending, -⟩ := run_plays_frames hpath hread htoolkit hcreate [[], [.quit]]
  have hdone : done = [[]] ∧ batch = [.quit] := by
    cases done with
    | nil =>
      obtain ⟨rfl, -⟩ := List.cons.inj hscript
      cases hending with
      | quit hended hkeys => cases hended
      | @shell front behind fault hbatch hrunning hkeys hfetch => cases front <;> cases hbatch
      | @step j fault hrunning hj hsteps hfault =>
        obtain rfl : j = 0 := Nat.lt_one_iff.mp hj
        obtain ⟨answer, hanswer⟩ := hstep
        cases hanswer.symm.trans hfault
      | @key front behind event fault hbatch hkeys hrefused hfault => cases front <;> cases hbatch
      | report hfirst hperf hdigits => exact absurd hfirst (Nat.lt_irrefl 0)
    | cons first done =>
      obtain ⟨rfl, htail⟩ := List.cons.inj hscript
      cases done with
      | nil => exact ⟨rfl, (List.cons.inj htail).1.symm⟩
      | cons second done =>
        obtain ⟨rfl, -⟩ := List.cons.inj htail
        exact absurd (by simp) hquit
  obtain ⟨rfl, rfl⟩ := hdone
  cases hending with
  | quit hended hkeys => exact ⟨settings, look, _, app, h₀, rfl, hcreate, hrun, hframes, halike⟩
  | @shell front behind fault hbatch hrunning hkeys hfetch =>
    cases front with
    | nil => cases hbatch
    | cons event front => cases front <;> cases hbatch
  | step hrunning hj hsteps hfault => cases hrunning
  | @key front behind event fault hbatch hkeys hrefused hfault =>
    cases front with
    | nil =>
      cases hbatch
      exact absurd trivial hrefused
    | cons event front => cases front <;> cases hbatch
  | report hfirst hperf hdigits =>
    have hfew : 1 < 10 ^ Numeral.decimalDigitLimit := Nat.one_lt_pow (by decide) (by decide)
    have hmany : 10 ^ Numeral.decimalDigitLimit ≤ 1 := hdigits.elim id id
    exact absurd hfew (Nat.not_lt.mpr hmany)

end App

end Chip8
