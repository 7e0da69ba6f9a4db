/-
  Diagnostics change nothing. Two applications are twins if they differ in what was printed, in
  the categories that are on and in their records only. Whatever is asked of twins they answer
  alike, and they stay twins (`TwinOn.request`, `TwinOn.answerOf_request`), as long as their hosts
  hear alike of what may be refused: the names of host keys, and the numbers of a frame.
  Whether messages are printed decides about nothing when an application is set up either, as long
  as the size of its window can be told (`sameSetUp_create`). If it cannot, then the application is
  not set up where video messages are on (`exists_create_video`). The main statement is
  `transparent_of_create`, and `transparent_run` says the same of whole runs.
-/
import Chip8.App.Run
import Chip8.Proofs.App.Inspect
import Chip8.Proofs.App.Record
import Chip8.Proofs.Machine.TwinSetup

namespace Chip8

/-- The name of the key that an event of the host is about. -/
def HostEvent.name? : HostEvent → Option Text
  | keyDown name | keyUp name => some name
  | _ => none

/-- The names of the host keys in a turn. -/
def Turn.names : Turn → List Text
  | hostKey name _ | idle (.press name) _ => [name]
  | _ => []

namespace App

/-- The same applications apart from their diagnostics: what was printed, the categories that are
on, and the record. -/
structure Twin (a a' : App) : Prop where
  emulator : a.emulator.Twin a'.emulator
  settings : a.settings = a'.settings
  owner : a.owner = a'.owner
  running : a.running = a'.running
  frames : a.frames = a'.frames

/-- Twins with the given settings that print as two hosts do, and whose records can be printed. They
have finished so many frames at most. -/
structure TwinOn (start start' : Host) (given : AppSettings) (count : Nat) (a a' : App) : Prop
    extends Twin a a' where
  output : start.SameOutput a.host
  output' : start'.SameOutput a'.host
  plain : a.IsPlain
  plain' : a'.IsPlain
  settings_eq : a.settings = given
  frames_le : a.frames ≤ count

/-- Two hosts hear of a key alike: both want to hear of it or neither does, or its name is not
refused. -/
def HearAlike (h h' : Host) (name : Text) : Prop :=
  h.isLogging "input" = h'.isLogging "input" ∨ h.outlet.Takes name

/-- Two hosts hear of a frame alike: both want to hear of it or neither does, or its numbers have
few enough digits. -/
def ReportAlike (h h' : Host) (settings : AppSettings) (frames : Nat) : Prop :=
  h.isLogging "perf" = h'.isLogging "perf" ∨
    frames < 10 ^ Numeral.decimalDigitLimit ∧
      settings.cycles.natAbs < 10 ^ Numeral.decimalDigitLimit

variable {a a' b b' : App} {start start' : Host} {settings : AppSettings} {frames : Nat}
  {name : Text}

namespace TwinOn

theorem mono (h : TwinOn start start' settings frames a a') {frames' : Nat}
    (hle : frames ≤ frames') : TwinOn start start' settings frames' a a' :=
  { h with frames_le := Nat.le_trans h.frames_le hle }

theorem isLogging (h : TwinOn start start' settings frames a a') (category : Text) :
    a.host.isLogging category = start.isLogging category ∧
      a'.host.isLogging category = start'.isLogging category := by
  rw [Host.isLogging, Host.isLogging, Host.isLogging, Host.isLogging, h.output.1, h.output'.1]
  exact ⟨rfl, rfl⟩

/-- What is asked of both hosts keeps them twins, and does not change how they print. -/
theorem mapHost (h : TwinOn start start' settings frames a a') {change change' : Host → Host}
    (hchange : ∀ h h', h.Twin h' → (change h).Twin (change' h'))
    (houtput : ∀ h : Host, h.SameOutput (change h) ∧ h.SameOutput (change' h)) :
    TwinOn start start' settings frames (a.mapHost change) (a'.mapHost change') :=
  { h with
    emulator := h.emulator.mapHost hchange
    output := h.output.trans (houtput _).1
    output' := h.output'.trans (houtput _).2 }

theorem put (h : TwinOn start start' settings frames a a') (text text' : Text) :
    TwinOn start start' settings frames (a.mapHost (·.put text)) (a'.mapHost (·.put text')) :=
  h.mapHost (fun _ _ htwin => htwin.put ..) fun _ => ⟨.refl _, .refl _⟩

theorem printLine (h : TwinOn start start' settings frames a a') (text text' : String) :
    TwinOn start start' settings frames (a.printLine text) (a'.printLine text') := h.put ..

theorem logged (h : TwinOn start start' settings frames a a') (category message message' : Text) :
    TwinOn start start' settings frames (a.mapHost (·.logged category message))
      (a'.mapHost (·.logged category message')) :=
  h.mapHost (fun _ _ htwin => htwin.log ..)
    fun host => ⟨host.sameOutput_logged _ _, host.sameOutput_logged _ _⟩

theorem withConsole (h : TwinOn start start' settings frames a a') (lines : List (Option Text)) :
    TwinOn start start' settings frames (a.mapHost fun host => { host with console := lines })
      (a'.mapHost fun host => { host with console := lines }) :=
  h.mapHost (fun _ _ htwin => htwin.withConsole lines) fun _ => ⟨.refl _, .refl _⟩

theorem of_hasTold (h : TwinOn start start' settings frames a a') (hb : a.HasTold b)
    (hb' : a'.HasTold b') : TwinOn start start' settings frames b b' := by
  obtain ⟨shown, rfl⟩ := hb
  obtain ⟨shown', rfl⟩ := hb'
  have hconsole : a.host.console = a'.host.console := h.emulator.host.console
  rw [hconsole]
  exact h.mapHost (fun _ _ htwin => htwin.withConsole _) fun _ => ⟨.refl _, .refl _⟩

theorem withRunning (h : TwinOn start start' settings frames a a') (running : Bool) :
    TwinOn start start' settings frames { a with running } { a' with running } :=
  { h with running := rfl }

theorem inspectFault? (h : TwinOn start start' settings frames a a') (command : ShellCommand) :
    a.inspectFault? command = a'.inspectFault? command := by
  cases command with
  | cpu =>
    unfold App.inspectFault?
    rw [h.emulator.fetch]
  | trace => rw [inspectFault?_trace_of_isPlain h.plain, inspectFault?_trace_of_isPlain h.plain']
  | resume | quit | screen | memory arguments | help => rfl

/-! ## Frames -/

theorem stepped (h : TwinOn start start' settings frames a a') {e e' : Emulator Display}
    (htwin : e.Twin e') (hstep : stateOf (Emulator.step a.emulator) = e)
    (hstep' : stateOf (Emulator.step a'.emulator) = e') :
    TwinOn start start' settings frames (a.stepped e) (a'.stepped e') := by
  have htable' : a'.emulator.machine.table = some standardTable :=
    h.emulator.machine ▸ h.emulator.table
  exact
    { h with
      emulator := htwin
      output := h.output.trans (hstep ▸ Emulator.sameOutput_step h.emulator.table)
      output' := h.output'.trans (hstep' ▸ Emulator.sameOutput_step htable')
      plain := h.plain.stepped e
      plain' := h.plain'.stepped e' }

end TwinOn

theorem agree_stepOnce : Act.Agree (TwinOn start start' settings frames) stepOnce stepOnce := by
  intro a a' h
  have hmatch := Emulator.matching_step_twin h.emulator
  cases hr : Emulator.step a.emulator with
  | ok w e =>
    obtain ⟨e', htwin, hr'⟩ := hmatch.of_ok hr
    rw [stepOnce_of_ok hr, stepOnce_of_ok hr']
    exact .ok (h.stepped htwin (congrArg stateOf hr) (congrArg stateOf hr'))
  | error fault e =>
    obtain ⟨e', htwin, hr'⟩ := hmatch.of_error hr
    rw [stepOnce_of_error hr, stepOnce_of_error hr']
    exact .error (h.stepped htwin (congrArg stateOf hr) (congrArg stateOf hr'))

theorem agree_stepTimes (n : Nat) :
    Act.Agree (TwinOn start start' settings frames) (stepTimes n) (stepTimes n) := by
  induction n with
  | zero => exact Act.agree_pure ()
  | succ n ih => exact Act.agree_bind agree_stepOnce fun _ => ih

namespace TwinOn

theorem halt (h : TwinOn start start' settings frames a a') :
    TwinOn start start' settings frames (stateOf (App.halt a)) (stateOf (App.halt a')) := by
  have hlog (first : Host) (host : Host) (category message : Text)
      (hsame : host.muted = first.muted ∧ first.SameOutput host) :
      (host.logged category message).muted = first.muted ∧
        first.SameOutput (host.logged category message) :=
    ⟨(host.muted_log _ _).trans hsame.1, hsame.2.trans (host.sameOutput_logged _ _)⟩
  obtain ⟨host, ⟨hmuted, hsame⟩, hhalt⟩ := exists_halt (a := a) (hlog a.host) ⟨rfl, .refl _⟩
  obtain ⟨host', ⟨hmuted', hsame'⟩, hhalt'⟩ := exists_halt (a := a') (hlog a'.host) ⟨rfl, .refl _⟩
  have hhosts : host.Twin host' := hmuted.trans (h.emulator.host.trans hmuted'.symm)
  rw [hhalt, hhalt']
  exact
    { h with
      emulator := h.emulator.mapHost fun _ _ _ => hhosts
      output := h.output.trans hsame
      output' := h.output'.trans hsame'
      running := rfl }

theorem matching_leave (h : TwinOn start start' settings frames a a') (fault : Fault) :
    Matching (TwinOn start start' settings frames) (leave fault a) (leave fault a') := by
  rw [leave_of_isPlain h.plain, leave_of_isPlain h.plain']
  refine .error ?_
  by_cases hunknown : ∃ w, fault = .unknownInstruction w
  · obtain ⟨w, rfl⟩ := hunknown
    rw [stateOf_leave_unknown, stateOf_leave_unknown]
    exact h.halt
  · rwa [leave_of_known hunknown, leave_of_known hunknown]

end TwinOn

theorem agree_stepFrame : Act.Agree (TwinOn start start' settings frames) stepFrame stepFrame := by
  intro a a' h
  have hsteps := agree_stepTimes a.settings.cycles.toNat a a' h
  cases hr : stepTimes a.settings.cycles.toNat a with
  | ok _ b =>
    obtain ⟨b', htwin, hr'⟩ := hsteps.of_ok hr
    rw [h.settings] at hr'
    rw [stepFrame_of_ok hr, stepFrame_of_ok hr']
    exact .ok htwin
  | error fault b =>
    obtain ⟨b', htwin, hr'⟩ := hsteps.of_error hr
    rw [h.settings] at hr'
    rw [stepFrame_of_error hr, stepFrame_of_error hr']
    exact htwin.matching_leave fault

namespace TwinOn

theorem tick (h : TwinOn start start' settings frames a a') :
    TwinOn start start' settings frames (a.mapEmulator Emulator.tick)
      (a'.mapEmulator Emulator.tick) :=
  { h with
    emulator := Emulator.twin_tick h.emulator
    output := h.output.trans (Emulator.sameOutput_tick _)
    output' := h.output'.trans (Emulator.sameOutput_tick _) }

theorem present (h : TwinOn start start' settings frames a a') :
    TwinOn start start' settings frames a.present a'.present := by
  have hshown (s : Display × Host) : s.2.SameOutput (Display.present s).2 :=
    Display.holds_present (fun _ _ _ hsame => hsame) s (.refl s.2)
  unfold App.present
  rw [h.owner]
  split
  · exact
      { h with
        emulator := Emulator.twin_present h.emulator
        output := h.output.trans (hshown a.emulator.stage)
        output' := h.output'.trans (hshown a'.emulator.stage) }
  · exact h

/-- Both hosts may have printed a message. -/
theorem withHosts (h : TwinOn start start' settings frames a a') {host host' : Host}
    (hlog : host = a.host ∨ ∃ category message, host = a.host.logged category message)
    (hlog' : host' = a'.host ∨ ∃ category message, host' = a'.host.logged category message) :
    TwinOn start start' settings frames (a.mapHost fun _ => host) (a'.mapHost fun _ => host') :=
  { h with
    emulator := h.emulator.mapHost fun _ _ _ => Host.twin_of_log h.emulator.host hlog hlog'
    output := h.output.trans (Emulator.sameOutput_of_logged hlog)
    output' := h.output'.trans (Emulator.sameOutput_of_logged hlog') }

/-- Telling of a frame leaves twins, whether it can be told of or not. -/
theorem logFrame (h : TwinOn start start' settings frames a a') :
    TwinOn start start' settings frames (stateOf (App.logFrame a))
      (stateOf (App.logFrame a')) := by
  obtain ⟨host, hlog, hstate⟩ := a.stateOf_logFrame
  obtain ⟨host', hlog', hstate'⟩ := a'.stateOf_logFrame
  rw [hstate, hstate']
  exact h.withHosts hlog hlog'

/-- Hosts that hear of a frame alike answer it alike. -/
theorem matching_logFrame (h : TwinOn start start' settings frames a a')
    (htold : ReportAlike start start' settings frames) :
    Matching (TwinOn start start' settings frames) (App.logFrame a) (App.logFrame a') := by
  refine Matching.iff.mpr ⟨?_, h.logFrame⟩
  have hmany : a.HasManyDigits ↔ a'.HasManyDigits := by
    rw [HasManyDigits, HasManyDigits, h.frames, h.settings]
  rw [answerOf_logFrame, answerOf_logFrame, (h.isLogging "perf").1, (h.isLogging "perf").2]
  rcases htold with hsame | ⟨hframes, hcycles⟩
  · simp only [hsame, hmany]
  · have hfew : ¬ a.HasManyDigits := by
      rintro (hmany | hmany)
      · exact absurd (Nat.lt_of_le_of_lt h.frames_le hframes) (Nat.not_lt.mpr hmany)
      · rw [h.settings_eq] at hmany
        exact absurd hcycles (Nat.not_lt.mpr hmany)
    rw [if_neg fun hfails => hfew hfails.2, if_neg fun hfails => hfew (hmany.mpr hfails.2)]

/-- The frame is counted after its steps and its tick. -/
theorem counted (h : TwinOn start start' settings frames a a') :
    TwinOn start start' settings (frames + 1) { a with frames := a.frames + 1 }
      { a' with frames := a'.frames + 1 } :=
  { h with
    frames := congrArg (· + 1) h.frames
    frames_le := Nat.succ_le_succ h.frames_le }

theorem runFrame (h : TwinOn start start' settings frames a a') :
    TwinOn start start' settings (frames + 1) (stateOf (App.runFrame a))
      (stateOf (App.runFrame a')) := by
  have hsteps := agree_stepFrame a a' h
  unfold App.runFrame
  cases hr : App.stepFrame a with
  | ok _ b =>
    obtain ⟨b', htwin, hr'⟩ := hsteps.of_ok hr
    rw [Act.bind_ok hr, Act.bind_ok hr']
    exact htwin.tick.present.counted.logFrame
  | error fault b =>
    obtain ⟨b', htwin, hr'⟩ := hsteps.of_error hr
    rw [Act.bind_error hr, Act.bind_error hr']
    exact htwin.mono (Nat.le_succ frames)

theorem matching_runFrame (h : TwinOn start start' settings frames a a')
    (htold : ReportAlike start start' settings (frames + 1)) :
    Matching (TwinOn start start' settings (frames + 1)) (App.runFrame a) (App.runFrame a') := by
  unfold App.runFrame
  refine (agree_stepFrame a a' h).bind_mono (fun _ _ h => h.mono (Nat.le_succ frames))
    fun _ b b' htwin => ?_
  exact htwin.tick.present.counted.matching_logFrame htold

/-! ## Events of the host -/

theorem onEmulator {α : Type} {act : Act (Emulator Display) α}
    (h : TwinOn start start' settings frames a a')
    (hact : Matching Emulator.Twin (act a.emulator) (act a'.emulator))
    (hsame : a.host.SameOutput (stateOf (act a.emulator)).host)
    (hsame' : a'.host.SameOutput (stateOf (act a'.emulator)).host) :
    Matching (TwinOn start start' settings frames) (App.onEmulator act a)
      (App.onEmulator act a') := by
  have hboth : Matching (fun e e' : Emulator Display => e.Twin e' ∧
      a.host.SameOutput e.host ∧ a'.host.SameOutput e'.host) (act a.emulator) (act a'.emulator) :=
    hact.and_states hsame hsame'
  exact hboth.resultWithin fun e e' ⟨htwin, hsame, hsame'⟩ =>
    { h with
      emulator := htwin
      output := h.output.trans hsame
      output' := h.output'.trans hsame' }

/-- An event that the machines' hosts hear of alike. -/
theorem matching_event (h : TwinOn start start' settings frames a a') (event : Event)
    (hheard : event.HeardAlike a.host a'.host) :
    Matching (TwinOn start start' settings frames) (App.onEmulator event.act a)
      (App.onEmulator event.act a') := by
  have htable' : a'.emulator.machine.table = some standardTable :=
    h.emulator.machine ▸ h.emulator.table
  exact h.onEmulator (Emulator.matching_event_twin h.emulator event hheard)
    (Emulator.sameOutput_event h.emulator.table event) (Emulator.sameOutput_event htable' event)

/-- What is told of a key that the hosts hear of alike is answered alike. -/
theorem matching_tell (h : TwinOn start start' settings frames a a')
    (hheard : HearAlike start start' name) (pressed : Bool) :
    Matching (TwinOn start start' settings frames)
      (onHost (Host.tryLog "input" (keyText name pressed)) a)
      (onHost (Host.tryLog "input" (keyText name pressed)) a') := by
  have houtlet : a.host.outlet = a'.host.outlet := h.emulator.host.outlet
  obtain ⟨hlogging, hlogging'⟩ := h.isLogging "input"
  rw [onHost_eq, onHost_eq]
  refine Matching.iff.mpr ⟨?_, ?_⟩
  · rw [answerOf_resultWithin, answerOf_resultWithin]
    rcases hheard with hsame | htakes
    · exact Host.answerOf_tryLog_congr houtlet (hlogging.trans (hsame.trans hlogging'.symm))
    · have htakes' : a.host.outlet.Takes name := h.output.2 ▸ htakes
      rw [Host.tryLog_of_canTell (canTell_keyText htakes' pressed),
        Host.tryLog_of_canTell (canTell_keyText (houtlet ▸ htakes') pressed)]
      rfl
  · rw [stateOf_resultWithin, stateOf_resultWithin, Host.stateOf_tryLog, Host.stateOf_tryLog]
    exact h.logged ..

theorem heardAlike (h : TwinOn start start' settings frames a a')
    (hheard : HearAlike start start' name) : Keypad.HeardAlike name a.host a'.host := by
  have houtlet : a.host.outlet = a'.host.outlet := h.emulator.host.outlet
  obtain ⟨hlogging, hlogging'⟩ := h.isLogging "input"
  rcases hheard with hsame | htakes
  · exact Or.inl ⟨houtlet, hlogging.trans (hsame.trans hlogging'.symm)⟩
  · have htakes' : a.host.outlet.Takes name := h.output.2 ▸ htakes
    exact Or.inr ⟨canTellPress_of_canTell (canTell_keyText htakes' true),
      canTellPress_of_canTell (canTell_keyText (houtlet ▸ htakes') true)⟩

/-- A key that is passed on to both machines. -/
theorem matching_key (h : TwinOn start start' settings frames a a')
    (hheard : HearAlike start start' name) (pressed : Bool) :
    Matching (TwinOn start start' settings frames)
      (App.onEmulator (if pressed then Emulator.press name else Emulator.release name) a)
      (App.onEmulator (if pressed then Emulator.press name else Emulator.release name) a') := by
  have hsame (e : Emulator Display) : e.host.SameOutput
      (stateOf ((if pressed then Emulator.press name else Emulator.release name) e)).host := by
    split
    · rw [Emulator.press, Emulator.stateOf_onKeyboard]
      exact Emulator.sameOutput_of_logged (Keyboard.exists_logged_of_press name _)
    · rw [Emulator.release, Emulator.stateOf_onKeyboard]
      exact Emulator.sameOutput_of_logged (Keyboard.exists_logged_of_release name _)
  refine h.onEmulator ?_ (hsame _) (hsame _)
  split
  · exact Emulator.matching_press_twin h.emulator (h.heardAlike hheard)
  · exact Emulator.matching_release_twin h.emulator name

theorem matching_hostKey (h : TwinOn start start' settings frames a a')
    (hheard : HearAlike start start' name) (pressed : Bool) :
    Matching (TwinOn start start' settings frames) (App.hostKey name pressed a)
      (App.hostKey name pressed a') := by
  unfold App.hostKey
  rw [Act.get_bind, Act.get_bind, h.owner]
  split
  · exact (h.matching_tell hheard pressed).bind fun _ _ _ h => h.matching_key hheard pressed
  · exact .ok h

end TwinOn

theorem agree_inspect (command : ShellCommand) :
    Act.Agree (TwinOn start start' settings frames) (inspect command) (inspect command) := by
  intro a a' h
  obtain ⟨b, hb, htold⟩ := exists_inspect command a
  obtain ⟨b', hb', htold'⟩ := exists_inspect command a'
  have htwin := h.of_hasTold htold htold'
  rw [hb, hb', h.inspectFault?]
  cases a'.inspectFault? command with
  | none => exact .ok htwin
  | some fault => exact .error htwin

theorem agree_readCommands (lines : List (Option Text)) :
    Act.Agree (TwinOn start start' settings frames) (readCommands lines) (readCommands lines) := by
  induction lines with
  | nil => exact Act.agree_modify fun _ _ h => (h.put ..).printLine ..
  | cons line rest ih =>
    unfold readCommands
    refine Act.agree_bind (Act.agree_modify fun _ _ h => (h.put ..).withConsole rest) fun _ => ?_
    split
    · exact Act.agree_modify fun _ _ h => h.printLine ..
    · exact Act.agree_modify fun _ _ h => (h.printLine ..).withRunning false
    · exact Act.agree_bind (agree_inspect _) fun _ => ih

theorem agree_enterShell :
    Act.Agree (TwinOn start start' settings frames) enterShell enterShell := by
  intro a a' h
  have hpaused := (h.printLine "\n-- paused --" "\n-- paused --").printLine shellHelp shellHelp
  have hconsole : a.host.console = a'.host.console := h.emulator.host.console
  unfold enterShell
  rw [Act.modify_bind, Act.modify_bind, Act.get_bind, Act.get_bind, hpaused.running]
  change Matching _ ((if _ then readCommands a.host.console else pure ()) _)
    ((if _ then readCommands a'.host.console else pure ()) _)
  rw [hconsole]
  split
  · exact agree_readCommands _ _ _ hpaused
  · exact .ok hpaused

theorem agree_handle (event : HostEvent)
    (hheard : ∀ name ∈ event.name?, HearAlike start start' name) :
    Act.Agree (TwinOn start start' settings frames) (handle event) (handle event) := by
  cases event with
  | quit => exact Act.agree_modify fun _ _ h => h.withRunning false
  | keyDown name => exact fun _ _ h => h.matching_hostKey (hheard name rfl) true
  | keyUp name => exact fun _ _ h => h.matching_hostKey (hheard name rfl) false
  | escapeDown => exact agree_enterShell
  | other => exact Act.agree_pure ()

theorem agree_pump (events : List HostEvent)
    (hheard : ∀ name ∈ events.filterMap HostEvent.name?, HearAlike start start' name) :
    Act.Agree (TwinOn start start' settings frames) (pump events) (pump events) :=
  Act.agree_forM events fun event hmem => agree_handle event fun name hname =>
    hheard name (List.mem_filterMap.mpr ⟨event, hmem, hname⟩)

/-! ## Requests -/

/-- What an application can be asked for while it runs. -/
inductive Request where
  /-- The steps of a frame and its tick. -/
  | frame
  /-- A batch of events of the host, which may open the shell. -/
  | pump (events : List HostEvent)
  /-- Steps without a tick, a key, or a tick without steps. -/
  | turn (turn : Turn)

namespace Request

def act : Request → Act App Unit
  | frame => runFrame
  | pump events => App.pump events
  | turn t => t.act

/-- The names of the host keys in a request. -/
def names : Request → List Text
  | frame => []
  | pump events => events.filterMap HostEvent.name?
  | turn t => t.names

/-- What a request tells of a frame is heard alike. -/
def IsReportedAlike (h h' : Host) (a : App) : Request → Prop
  | frame => ReportAlike h h' a.settings (a.frames + 1)
  | _ => True

end Request

/-- The application after requests, some of which may have failed. -/
def afterAll (a : App) (requests : List Request) : App :=
  requests.foldl (fun a request => stateOf (request.act a)) a

namespace TwinOn

/-- The settings and the number of frames may be those of the application itself. -/
theorem anchor (h : TwinOn start start' settings frames a a') :
    TwinOn start start' a.settings a.frames a a' :=
  { h with settings_eq := rfl, frames_le := Nat.le_refl _ }

theorem matching_turn (h : TwinOn start start' settings frames a a') (turn : Turn)
    (hheard : ∀ name ∈ turn.names, HearAlike start start' name) :
    Matching (fun b b' => TwinOn start start' b.settings b.frames b b') (turn.act a)
      (turn.act a') := by
  cases turn with
  | steps cycles =>
    have hset : TwinOn start start' { settings with cycles } frames
        { a with settings := { a.settings with cycles } }
        { a' with settings := { a'.settings with cycles } } :=
      { h with
        settings := congrArg (fun s : AppSettings => { s with cycles }) h.settings
        settings_eq := congrArg (fun s : AppSettings => { s with cycles }) h.settings_eq }
    exact (agree_stepFrame _ _ hset).mono fun _ _ h => h.anchor
  | hostKey name pressed =>
    exact (h.matching_hostKey (hheard name List.mem_cons_self) pressed).mono fun _ _ h => h.anchor
  | idle event hidle =>
    have hevent : event.HeardAlike a.host a'.host := by
      cases event with
      | press name => exact h.heardAlike (hheard name List.mem_cons_self)
      | _ => trivial
    exact (h.matching_event event hevent).bind_mono (fun _ _ h => h.anchor)
      fun _ _ _ h => .ok h.anchor

/-- Whatever is asked of twins leaves twins, if the keys are heard alike. -/
theorem request (h : TwinOn start start' settings frames a a') (request : Request)
    (hheard : ∀ name ∈ request.names, HearAlike start start' name) :
    TwinOn start start' (stateOf (request.act a)).settings (stateOf (request.act a)).frames
      (stateOf (request.act a)) (stateOf (request.act a')) := by
  cases request with
  | frame => exact h.runFrame.anchor
  | pump events => exact ((agree_pump events hheard) a a' h).state.anchor
  | turn t => exact (h.matching_turn t hheard).state

/-- Twins answer every request alike that their hosts hear of alike. -/
theorem answerOf_request (h : TwinOn start start' settings frames a a') (request : Request)
    (hheard : ∀ name ∈ request.names, HearAlike start start' name)
    (htold : request.IsReportedAlike start start' a) :
    answerOf (request.act a) = answerOf (request.act a') := by
  cases request with
  | frame => exact (h.anchor.matching_runFrame htold).answer
  | pump events => exact ((agree_pump events hheard) a a' h).answer
  | turn t => exact (h.matching_turn t hheard).answer

theorem afterAll (h : TwinOn start start' settings frames a a') {requests : List Request}
    (hheard : ∀ name ∈ requests.flatMap Request.names, HearAlike start start' name) :
    TwinOn start start' (a.afterAll requests).settings (a.afterAll requests).frames
      (a.afterAll requests) (a'.afterAll requests) := by
  induction requests generalizing a a' settings frames with
  | nil => exact h.anchor
  | cons request rest ih =>
    rw [List.flatMap_cons, List.forall_mem_append] at hheard
    exact ih (h.request request hheard.1) hheard.2

end TwinOn

/-! ## Setting up -/

/-- The size of the window can be told, or the hosts want to know it both or neither. -/
def SaysAlike (settings : AppSettings) (categories categories' : Categories) : Prop :=
  categories.isOn "video" = categories'.isOn "video" ∨
    FrameBuffer.standardWidth * settings.scale.toNat < 10 ^ Numeral.decimalDigitLimit

/-- The parts of a machine are a window of the scale in the settings and a standard audio. -/
theorem exists_window_of_parts {settings : AppSettings} {rom : List Byte} {host : Host}
    {config : MachineConfig Display} (h : parts settings rom host = .ok config) :
    ∃ w : Window, config.display = .window w ∧ w.scale = settings.scale.toNat ∧
      config.audio.IsStandard := by
  unfold parts Window.ofSettings at h
  split at h
  · cases h
    refine ⟨_, rfl, rfl, ?_⟩
    dsimp only
    split
    · exact rfl
    · trivial
  · cases h

/-- The host that the machine is set up on. -/
def startedHost (host : Host) : Host :=
  if host.mixerRate.isReady then host else host.log "audio" "mixer unavailable, running silent"

theorem create_of_parts {settings : AppSettings} {rom : List Byte} {host : Host}
    {config : MachineConfig Display} (h : parts settings rom host = .ok config) :
    create settings rom host =
      match Machine.create config (startedHost host) with
      | .error fault host => .error fault host
      | .ok e host => .ok (ofEmulator settings e true) host := by
  unfold create
  rw [h]
  rfl

theorem twin_startedHost {h h' : Host} (htwin : h.Twin h') :
    (startedHost h).Twin (startedHost h') := by
  unfold startedHost
  rw [htwin.mixerRate]
  split
  · exact htwin
  · exact htwin.log ..

theorem sameOutput_startedHost (h : Host) : h.SameOutput (startedHost h) := by
  unfold startedHost
  split
  · exact .refl h
  · exact h.sameOutput_logged ..

theorem sameSetUp_create (settings : AppSettings) (rom : List Byte) {h h' : Host}
    (htwin : h.Twin h') (htold : SaysAlike settings h.categories h'.categories) :
    SameSetUp (TwinOn h h' settings 0) (create settings rom h) (create settings rom h') := by
  -- of the host the parts depend on the mixer only
  have hparts : parts settings rom h = parts settings rom h' := by
    unfold parts
    rw [htwin.mixerRate]
  cases hconfig : parts settings rom h' with
  | error fault =>
    unfold create
    rw [hparts, hconfig]
    exact .error htwin
  | ok config =>
    obtain ⟨w, hwindow, hscale, haudio⟩ := exists_window_of_parts hconfig
    have hsize : w.SaysAlike (startedHost h) (startedHost h') := by
      unfold Window.SaysAlike Host.isLogging
      rw [← (sameOutput_startedHost h).1, ← (sameOutput_startedHost h').1, Window.size, hscale]
      exact htold
    have hcreate := Machine.sameSetUp_create hwindow haudio (twin_startedHost htwin) hsize
    rw [create_of_parts (hparts.trans hconfig), create_of_parts hconfig]
    generalize hr : Machine.create config (startedHost h) = r at hcreate ⊢
    generalize hr' : Machine.create config (startedHost h') = r' at hcreate ⊢
    cases hcreate with
    | ok he =>
      exact .ok
        { emulator := he
          settings := rfl
          owner := rfl
          running := rfl
          frames := rfl
          output := (sameOutput_startedHost h).trans (Machine.sameOutput_of_create hr)
          output' := (sameOutput_startedHost h').trans (Machine.sameOutput_of_create hr')
          plain := isPlain_ofEmulator settings _ true
          plain' := isPlain_ofEmulator settings _ true
          settings_eq := rfl
          frames_le := Nat.le_refl 0 }
    | error hhosts => exact .error hhosts

/-- The window of an application that runs a loop, and its parts. -/
def loopConfig (scale : Nat) : MachineConfig Display where
  display := .window (.ofScale scale)
  keyboard := .keypad {}
  rom := [0x12, 0x00]

theorem parts_loop {scale : Nat} (hpos : 0 < scale) (categories : Categories) :
    parts { scale } [0x12, 0x00] { categories, mixerRate := .notReady } =
      .ok (loopConfig scale) := by
  have hscale : Window.ofSettings scale Palette.monochrome false Window.standardCaption =
      .ok (.ofScale scale) := if_pos (Int.natCast_pos.mpr hpos)
  unfold parts
  rw [hscale]
  rfl

/-- Without diagnostics it is set up at every scale. -/
theorem exists_create_loop {scale : Nat} (hpos : 0 < scale) : ∃ a host',
    create { scale } [0x12, 0x00] { mixerRate := .notReady } = .ok a host' := by
  have hrom : (loopConfig scale).rom.length ≤ romLimit := by
    change 2 ≤ romLimit
    decide
  obtain ⟨e, host', hcreate, -⟩ := Machine.exists_create (loopConfig scale)
    { mixerRate := .notReady } rfl rfl rfl hrom
  have hstarted : startedHost { mixerRate := .notReady } = { mixerRate := .notReady } := rfl
  rw [create_of_parts (parts_loop hpos {}), hstarted, hcreate]
  exact ⟨_, _, rfl⟩

/-- Where video messages are on it is not set up if the size of its window cannot be told. -/
theorem exists_create_loop_error {scale : Nat} (hpos : 0 < scale)
    (hsize : 10 ^ Numeral.decimalDigitLimit ≤ FrameBuffer.standardWidth * scale) : ∃ host',
    create { scale } [0x12, 0x00] { categories := ⟨["video"]⟩, mixerRate := .notReady } =
      .error .numeralTooLong host' := by
  let host : Host := startedHost { categories := ⟨["video"]⟩, mixerRate := .notReady }
  have htwin : host.Twin (startedHost { mixerRate := .notReady }) := twin_startedHost rfl
  have hlogging : host.isLogging "video" = true := by
    unfold Host.isLogging
    rw [← (sameOutput_startedHost _).1]
    decide
  obtain ⟨s, hfails⟩ :=
    Window.exists_powerOn_error (w := .ofScale scale) htwin.toolkit hlogging hsize
  let e : Emulator Display := .unready (.window (.ofScale scale)) (.keypad {}) (.counter {}) host
  have hdisplay : Emulator.onDisplay Screen.powerOn e =
      .error .numeralTooLong (e.withStage (.window s.1, s.2)) := by
    change resultWithin _ (resultWithin _ (Window.powerOn (.ofScale scale, host))) = _
    rw [hfails]
    rfl
  have hpower : Emulator.powerOn (loopConfig scale).seed (loopConfig scale).rom e =
      .error .numeralTooLong (e.withStage (.window s.1, s.2)) := Act.bind_error hdisplay
  have hcreate : Machine.create (loopConfig scale) host = .error .numeralTooLong s.2 :=
    Machine.create_of_error hpower
  rw [create_of_parts (parts_loop hpos _), hcreate]
  exact ⟨s.2, rfl⟩

/-- Applications that are set up on the same host with different diagnostics. If the size of the
window can be told, or is told on both or on neither, then either both fail alike, after the same
calls, or both are set up. After any requests, some of which may have failed, with keys that the
hosts hear of alike, their machines, the calls to their hosts, their numbers of frames, and whether
they run are the same. The next request gets the same answer from both, if what it tells of keys
and of a frame is heard alike. -/
theorem transparent_of_create (settings : AppSettings) (rom : List Byte) (host : Host)
    (categories categories' : Categories) (htold : SaysAlike settings categories categories') :
    let h : Host := { host with categories }
    let h' : Host := { host with categories := categories' }
    SameSetUp
      (fun a a' => ∀ requests : List Request,
        (∀ name ∈ requests.flatMap Request.names, HearAlike h h' name) →
        (a.afterAll requests).Twin (a'.afterAll requests) ∧
        ∀ request : Request, (∀ name ∈ request.names, HearAlike h h' name) →
          request.IsReportedAlike h h' (a.afterAll requests) →
          answerOf (request.act (a.afterAll requests)) =
            answerOf (request.act (a'.afterAll requests)))
      (create settings rom h) (create settings rom h') := by
  intro h h'
  have hsetUp : SameSetUp (TwinOn h h' settings 0) (create settings rom h)
      (create settings rom h') := sameSetUp_create settings rom rfl htold
  generalize create settings rom h = r at hsetUp ⊢
  generalize create settings rom h' = r' at hsetUp ⊢
  cases hsetUp with
  | error hhosts => exact .error hhosts
  | ok hstart =>
    refine .ok fun requests hheard => ?_
    have htwin := hstart.afterAll hheard
    exact ⟨htwin.toTwin, htwin.answerOf_request⟩

/-- An application of the usual scale is set up whatever messages are on, and runs on alike. -/
theorem transparent_of_create_loop : ∃ (a a' : App) (host host' : Host),
    create {} [0x12, 0x00] { categories := ⟨["all"]⟩, mixerRate := .notReady } = .ok a host ∧
    create {} [0x12, 0x00] { mixerRate := .notReady } = .ok a' host' ∧
    ∀ requests : List Request, (∀ name ∈ requests.flatMap Request.names,
      Outlet.characters.Takes name) →
      (a.afterAll requests).emulator.machine = (a'.afterAll requests).emulator.machine := by
  have hscale : SaysAlike {} ⟨["all"]⟩ {} := by
    have hpow : 10 ^ 3 ≤ 10 ^ Numeral.decimalDigitLimit :=
      Nat.pow_le_pow_right (by decide) (by decide)
    exact .inr (Nat.lt_of_lt_of_le (by decide) hpow)
  obtain ⟨a', host', hcreate⟩ := exists_create_loop (show 0 < 10 by decide)
  have husual : ({ scale := (10 : Nat) } : AppSettings) = {} := rfl
  rw [husual] at hcreate
  have hsame : SameSetUp _
      (create {} [0x12, 0x00] { categories := ⟨["all"]⟩, mixerRate := .notReady })
      (create {} [0x12, 0x00] { mixerRate := .notReady }) :=
    transparent_of_create {} [0x12, 0x00] { mixerRate := .notReady } ⟨["all"]⟩ {} hscale
  rw [hcreate] at hsame
  generalize create {} [0x12, 0x00] { categories := ⟨["all"]⟩, mixerRate := .notReady } = r
    at hsame ⊢
  cases hsame with
  | ok hst =>
    exact ⟨_, a', _, host', rfl, hcreate, fun requests hnames =>
      (hst requests fun name hname => Or.inr (hnames name hname)).1.emulator.machine⟩

/-- A window whose width has more digits than a number may have: an application is set up with it,
but not where video messages are on. -/
theorem exists_create_video : ∃ (scale : Nat) (a : App) (host host' : Host),
    create { scale } [0x12, 0x00] { mixerRate := .notReady } = .ok a host ∧
    create { scale } [0x12, 0x00] { categories := ⟨["video"]⟩, mixerRate := .notReady } =
      .error .numeralTooLong host' := by
  -- a scale that still has as many digits as it may, while the width has one more
  obtain ⟨count, hcount⟩ : ∃ count, Numeral.decimalDigitLimit = count + 1 := ⟨4299, rfl⟩
  have hpos : 0 < 10 ^ count := Nat.pow_pos (by decide)
  have hsize : 10 ^ Numeral.decimalDigitLimit ≤ FrameBuffer.standardWidth * 10 ^ count := by
    rw [hcount, Nat.pow_succ, FrameBuffer.standardWidth]
    omega
  obtain ⟨a, host, hloop⟩ := exists_create_loop hpos
  obtain ⟨host', hfails⟩ := exists_create_loop_error hpos hsize
  exact ⟨_, a, host, host', hloop, hfails⟩

/-! ## Whole runs -/

/-- Fewer frames have fewer digits. -/
theorem ReportAlike.of_le {h h' : Host} {frames' : Nat}
    (htold : ReportAlike h h' settings frames') (hle : frames ≤ frames') :
    ReportAlike h h' settings frames :=
  htold.imp id fun hfew => ⟨Nat.lt_of_le_of_lt hle hfew.1, hfew.2⟩

theorem matching_runFrames (h : TwinOn start start' settings frames a a')
    {batches : List (List HostEvent)}
    (hheard : ∀ name ∈ batches.flatten.filterMap HostEvent.name?, HearAlike start start' name)
    (htold : ReportAlike start start' settings (frames + batches.length)) :
    Matching Twin (runFrames batches a) (runFrames batches a') := by
  induction batches generalizing a a' frames with
  | nil => exact ((agree_pump [.quit] nofun) a a' h).mono fun _ _ h => h.toTwin
  | cons batch rest ih =>
    rw [List.flatten_cons, List.filterMap_append, List.forall_mem_append] at hheard
    rw [List.length_cons, Nat.add_comm rest.length, ← Nat.add_assoc] at htold
    refine ((agree_pump batch hheard.1) a a' h).bind_mono (fun _ _ h => h.toTwin)
      fun _ b b' hb => ?_
    rw [Act.get_bind, Act.get_bind, hb.running]
    split
    · refine (hb.matching_runFrame (htold.of_le (Nat.le_add_right _ _))).bind_mono
        (fun _ _ h => h.toTwin) fun _ c c' hc => ?_
      have hwait : TwinOn start start' settings (frames + 1)
          (c.mapHost (·.call (.waitTick frameRate))) (c'.mapHost (·.call (.waitTick frameRate))) :=
        hc.mapHost (fun _ _ htwin => htwin.call _) fun _ => ⟨.refl _, .refl _⟩
      exact ih hwait hheard.2 htold
    · exact .ok hb.toTwin

theorem Twin.close (h : a.Twin a') : a.close.Twin a'.close := by
  let silent (a : App) : App :=
    a.mapEmulator (Emulator.withAudio (Audio.shutdown (a.emulator.machine.audio, a.host)))
  have haudio := Audio.sameOn_shutdown (Host.keptByCalls_twin _) h.emulator.sound
  have hsilent : (silent a).Twin (silent a') :=
    { h with emulator := h.emulator.withAudio haudio }
  exact { hsilent with emulator := hsilent.emulator.mapHost fun _ _ htwin => htwin.call _ }

/-- Whole runs on twin hosts end with the same fault, if any, after the same calls, if the hosts
hear alike of the window, of the frames and of the keys. -/
theorem transparent_run (settings : AppSettings) (look : FileLookup)
    (batches : List (List HostEvent)) {h h' : Host} (htwin : h.Twin h')
    (htold : SaysAlike settings h.categories h'.categories)
    (hframes : ReportAlike h h' settings batches.length)
    (hheard : ∀ name ∈ batches.flatten.filterMap HostEvent.name?, HearAlike h h' name) :
    (run settings look batches h).fault? = (run settings look batches h').fault? ∧
      (run settings look batches h).host.calls = (run settings look batches h').host.calls := by
  have himage : readImage settings look h = readImage settings look h' := by
    unfold readImage
    rw [htwin.toolkit]
  unfold run
  rw [himage]
  cases readImage settings look h' with
  | error fault => exact ⟨rfl, htwin.calls⟩
  | ok rom =>
    have hstarted : (startHost h).Twin (startHost h') := (htwin.call _).call _
    have hsetUp : SameSetUp (TwinOn (startHost h) (startHost h') settings 0)
        (create settings rom (startHost h)) (create settings rom (startHost h')) :=
      sameSetUp_create settings rom hstarted htold
    dsimp only
    generalize create settings rom (startHost h) = r at hsetUp ⊢
    generalize create settings rom (startHost h') = r' at hsetUp ⊢
    cases hsetUp with
    | error hhosts => exact ⟨rfl, hhosts.calls⟩
    | @ok a a' _ _ hstart =>
      have hend := matching_runFrames hstart hheard
        ((Nat.zero_add batches.length).symm ▸ hframes)
      dsimp only
      generalize runFrames batches a = r at hend ⊢
      generalize runFrames batches a' = r' at hend ⊢
      cases hend with
      | ok hlast => exact ⟨rfl, hlast.close.emulator.host.calls⟩
      | error hlast => exact ⟨rfl, hlast.close.emulator.host.calls⟩

end App

end Chip8
