/-
  What the host's events do to a running application. Keys are passed on to the machine, and the
  shell reads lines of the console until one of them resumes or quits (`Session`); nothing else
  happens to the machine. `App.Plays` says that an application plays a machine: its own machine
  follows it. Pumping a batch plays the batch's keys in order, or it stops at an event
  (`StopsAt`, `Plays.pump`): in the shell, when the processor is to be shown and there is no word to
  show, or at a key of which the host cannot be told.
-/
import Chip8.App.Run
import Chip8.Proofs.App.Inspect
import Chip8.Proofs.Machine.Follow

namespace Chip8

/-! ## Sessions -/

/-- The machine's event that a host event is passed on as. -/
def HostEvent.key? : HostEvent → Option Event
  | keyDown name => some (.press name)
  | keyUp name => some (.release name)
  | _ => none

/-- The host can be told of the event, which only a key with a name that is refused can prevent. -/
def HostEvent.IsTold (h : Host) : HostEvent → Prop
  | keyDown name => h.CanTell "input" (App.keyText name true)
  | keyUp name => h.CanTell "input" (App.keyText name false)
  | _ => True

/-- The keys of a batch, in order. -/
def keyEvents (batch : List HostEvent) : List Event := batch.filterMap HostEvent.key?

/-- Whether an application goes on, and the lines that its console still has. -/
structure Session where
  running : Bool
  console : List (Option Text)

namespace Session

/-- After the shell has read from the lines: up to one that resumes or quits, or all of them. -/
def readLines : List (Option Text) → Session
  | [] => ⟨true, []⟩
  | line :: rest =>
    match ShellCommand.ofLine (line.getD []) with
    | .resume => ⟨true, rest⟩
    | .quit => ⟨false, rest⟩
    | _ => readLines rest

/-- After an event of the host: its quitting and the shell's end the session. -/
def after (s : Session) : HostEvent → Session
  | .quit => { s with running := false }
  | .escapeDown => if s.running then readLines s.console else s
  | _ => s

def afterAll (s : Session) (events : List HostEvent) : Session := events.foldl after s

theorem afterAll_append (s : Session) (front behind : List HostEvent) :
    s.afterAll (front ++ behind) = (s.afterAll front).afterAll behind := List.foldl_append

/-- What has ended stays ended. -/
theorem running_of_after {s : Session} {event : HostEvent} (h : (s.after event).running = true) :
    s.running = true := by
  cases event with
  | quit => cases h
  | escapeDown =>
    by_contra hended
    unfold after at h
    rw [if_neg hended] at h
    exact hended h
  | _ => exact h

theorem running_of_afterAll {s : Session} {events : List HostEvent}
    (h : (s.afterAll events).running = true) : s.running = true := by
  induction events generalizing s with
  | nil => exact h
  | cons event rest ih => exact running_of_after (ih h)

/-- The application does not outlast the host's quitting. -/
theorem not_mem_quit_of_running {s : Session} {events : List HostEvent}
    (h : (s.afterAll events).running = true) : HostEvent.quit ∉ events := by
  intro hquit
  obtain ⟨front, behind, rfl⟩ := List.append_of_mem hquit
  rw [afterAll_append] at h
  have hafter : ((s.afterAll front).after .quit).running = true := running_of_afterAll h
  cases hafter

end Session

namespace App

/-- The application plays the machine `e`: its own machine follows it, it has finished the number of
frames, and what it recorded can be printed. -/
structure Plays (before : List HostCall) (settings : AppSettings) (frames : Nat)
    (e : Emulator Display) (s : Session) (a : App) : Prop where
  follows : e.Follows before s.console a.emulator
  owner : a.owner = true
  settings : a.settings = settings
  frames : a.frames = frames
  running : a.running = s.running
  plain : a.IsPlain

variable {before : List HostCall} {settings : AppSettings} {frames : Nat}
  {e : Emulator Display} {s : Session} {a : App}

/-- A batch stops at an event: the shell is to show the processor, and there is no word at the
program counter, or the host cannot be told of a key. -/
def StopsAt (e : Emulator Display) (s : Session) (event : HostEvent) (fault : Fault) : Prop :=
  (event = .escapeDown ∧ s.running = true ∧ e.machine.fetch = .error fault) ∨
    (¬ event.IsTold e.host ∧ fault.IsRefusal)

namespace Plays

theorem fetch (h : a.Plays before settings frames e s) :
    a.emulator.machine.fetch = e.machine.fetch := by
  rw [Machine.fetch, Machine.fetch, h.follows.alike.memory, h.follows.alike.cpu]

/-- The host may be asked for what has nothing to do with the tone. -/
theorem mapHost (h : a.Plays before settings frames e s) {change : Host → Host}
    (hq : ∀ host : Host, host.AsksQuietly (change host)) :
    (a.mapHost change).Plays before settings frames e s :=
  { h with follows := h.follows.quietly (.refl _) rfl (hq a.host) }

theorem printLine (h : a.Plays before settings frames e s) (text : String) :
    (a.printLine text).Plays before settings frames e s :=
  h.mapHost fun host => host.quietly_put _

/-! ## Inspection -/

/-- What is only shown does not matter. -/
theorem of_hasTold (h : a.Plays before settings frames e s) {a' : App} (htold : a.HasTold a') :
    a'.Plays before settings frames e s := by
  obtain ⟨shown, rfl⟩ := htold
  exact { h with follows := h.follows.quietly (.refl _) rfl ⟨.of_calls_eq rfl, rfl, rfl, .refl _⟩ }

theorem inspect (h : a.Plays before settings frames e s) (command : ShellCommand) :
    EndsIn (fun _ a' => a'.Plays before settings frames e s)
      (fun fault a' => a'.Plays before settings frames e s ∧ e.machine.fetch = .error fault)
      (inspect command a) := by
  obtain ⟨a', hinspect, htold⟩ := exists_inspect command a
  have hplays := h.of_hasTold htold
  rw [hinspect]
  cases hfault : a.inspectFault? command with
  | none => exact hplays
  | some fault =>
    refine ⟨hplays, ?_⟩
    rw [← h.fetch]
    exact fetch_of_inspectFault? h.plain hfault

/-! ## The shell -/

/-- The shell reads up to a line that resumes or quits, unless it fails at showing the
processor. -/
theorem readCommands {lines : List (Option Text)}
    (h : a.Plays before settings frames e ⟨true, lines⟩) :
    EndsIn (fun _ a' => a'.Plays before settings frames e (.readLines lines))
      (fun fault a' => e.machine.fetch = .error fault ∧
        ∃ console, a'.Plays before settings frames e ⟨true, console⟩)
      (readCommands lines a) := by
  induction lines generalizing a with
  | nil =>
    have hprompt : a.prompt.Plays before settings frames e ⟨true, []⟩ :=
      h.mapHost fun host => host.quietly_put _
    exact hprompt.printLine "-- resumed --"
  | cons line rest ih =>
    let a₁ := a.prompt.mapHost fun host => { host with console := rest }
    have hprompt : a.prompt.Plays before settings frames e ⟨true, line :: rest⟩ :=
      h.mapHost fun host => host.quietly_put _
    have h₁ : a₁.Plays before settings frames e ⟨true, rest⟩ :=
      { hprompt with follows := hprompt.follows.withConsole rest }
    unfold App.readCommands Session.readLines
    rw [Act.modify_bind]
    cases hcommand : ShellCommand.ofLine (line.getD []) with
    | resume => exact h₁.printLine "-- resumed --"
    | quit => exact { h₁.printLine "-- quit --" with running := rfl }
    | cpu | screen | memory arguments | trace | help =>
      refine EndsIn.bind ((h₁.inspect _).mono (fun _ _ h => h) ?_) fun _ a' h' => ih h'
      exact fun fault a' h' => ⟨h'.2, rest, h'.1⟩

theorem enterShell (h : a.Plays before settings frames e s) :
    EndsIn (fun _ a' => a'.Plays before settings frames e (s.after .escapeDown))
      (fun fault a' => s.running = true ∧ e.machine.fetch = .error fault ∧
        ∃ console, a'.Plays before settings frames e ⟨true, console⟩)
      (enterShell a) := by
  have hpaused := (h.printLine "\n-- paused --").printLine shellHelp
  have hconsole := hpaused.follows.console
  unfold App.enterShell Session.after
  rw [Act.modify_bind, Act.get_bind]
  dsimp only
  rw [hpaused.running]
  by_cases hrunning : s.running = true
  · rw [if_pos hrunning, if_pos hrunning]
    have hopen : ((a.printLine "\n-- paused --").printLine shellHelp).Plays before settings frames
        e ⟨true, s.console⟩ := { hpaused with running := hpaused.running.trans hrunning }
    rw [hconsole]
    exact hopen.readCommands.mono (fun _ _ h => h) fun _ _ h => ⟨hrunning, h⟩
  · rw [if_neg hrunning, if_neg hrunning]
    exact hpaused

/-! ## Batches -/

/-- A key that the machine takes. -/
theorem onKey (h : a.Plays before settings frames e s) {act : Act (Emulator Display) Unit}
    {event : Event} {e₁ : Emulator Display} (hact : act a.emulator = .ok () e₁)
    (hfollows : (e.after event).Follows before s.console e₁) :
    onEmulator act a = .ok () { a with emulator := e₁ } ∧
      App.Plays before settings frames (e.after event) s { a with emulator := e₁ } := by
  refine ⟨?_, { h with follows := hfollows }⟩
  unfold onEmulator Act.within
  dsimp only
  rw [hact]
  rfl

/-- A key of the host, if the host can be told of it. -/
theorem keyDown (h : a.Plays before settings frames e s) {name : Text}
    (hcan : e.host.CanTell "input" (keyText name true)) : ∃ a', hostKey name true a = .ok () a' ∧
      e.Succeeds [.press name] ∧ a'.Plays before settings frames (e.after (.press name)) s := by
  have hlogged := h.mapHost fun host => host.quietly_log "input" (keyText name true)
  obtain ⟨e₁, hpress, hanswer, hfollows⟩ := hlogged.follows.press (canTellPress_of_canTell hcan)
  obtain ⟨hkey, hplays⟩ := hlogged.onKey hpress hfollows
  refine ⟨_, ?_, Emulator.succeeds_cons ⟨none, hanswer⟩ (Emulator.succeeds_nil _), hplays⟩
  rw [hostKey_of_canTell h.owner (h.follows.output.canTell_iff.mp hcan), if_pos rfl, hkey]

theorem keyUp (h : a.Plays before settings frames e s) {name : Text}
    (hcan : e.host.CanTell "input" (keyText name false)) : ∃ a', hostKey name false a = .ok () a' ∧
      e.Succeeds [.release name] ∧ a'.Plays before settings frames (e.after (.release name)) s := by
  have hlogged := h.mapHost fun host => host.quietly_log "input" (keyText name false)
  obtain ⟨e₁, hrelease, hanswer, hfollows⟩ := hlogged.follows.release name
  obtain ⟨hkey, hplays⟩ := hlogged.onKey hrelease hfollows
  refine ⟨_, ?_, Emulator.succeeds_cons ⟨none, hanswer⟩ (Emulator.succeeds_nil _), hplays⟩
  rw [hostKey_of_canTell h.owner (h.follows.output.canTell_iff.mp hcan),
    if_neg Bool.false_ne_true, hkey]

/-- A key of which the host cannot be told changes nothing. -/
theorem keyRefused (h : a.Plays before settings frames e s) {name : Text} {pressed : Bool}
    (hcan : ¬ e.host.CanTell "input" (keyText name pressed)) :
    ∃ fault, hostKey name pressed a = .error fault a ∧ fault.IsRefusal :=
  hostKey_of_not_canTell h.owner (h.follows.output.canTell_iff.not.mp hcan)

/-- One event of the host. -/
theorem handle (h : a.Plays before settings frames e s) (event : HostEvent) :
    EndsIn (fun _ a' => e.Succeeds event.key?.toList ∧
        a'.Plays before settings frames (e.run event.key?.toList) (s.after event))
      (fun fault a' => StopsAt e s event fault ∧ ∃ s', a'.Plays before settings frames e s')
      (handle event a) := by
  cases event with
  | quit => exact ⟨Emulator.succeeds_nil e, { h with running := rfl }⟩
  | keyDown name =>
    change EndsIn _ _ (App.hostKey name true a)
    by_cases hcan : e.host.CanTell "input" (keyText name true)
    · obtain ⟨a', hkey, hsucceeds, hplays⟩ := h.keyDown hcan
      rw [hkey]
      exact ⟨hsucceeds, hplays⟩
    · obtain ⟨fault, hkey, hrefusal⟩ := h.keyRefused hcan
      rw [hkey]
      exact ⟨Or.inr ⟨hcan, hrefusal⟩, s, h⟩
  | keyUp name =>
    change EndsIn _ _ (App.hostKey name false a)
    by_cases hcan : e.host.CanTell "input" (keyText name false)
    · obtain ⟨a', hkey, hsucceeds, hplays⟩ := h.keyUp hcan
      rw [hkey]
      exact ⟨hsucceeds, hplays⟩
    · obtain ⟨fault, hkey, hrefusal⟩ := h.keyRefused hcan
      rw [hkey]
      exact ⟨Or.inr ⟨hcan, hrefusal⟩, s, h⟩
  | escapeDown =>
    refine h.enterShell.mono (fun _ _ h => ⟨Emulator.succeeds_nil e, h⟩) ?_
    rintro fault a' ⟨hrunning, hfetch, console, hplays⟩
    exact ⟨Or.inl ⟨rfl, hrunning, hfetch⟩, _, hplays⟩
  | other => exact ⟨Emulator.succeeds_nil e, h⟩

theorem keyEvents_cons (event : HostEvent) (rest : List HostEvent) :
    keyEvents (event :: rest) = event.key?.toList ++ keyEvents rest := by
  unfold keyEvents
  cases hkey : event.key? with
  | none => rw [List.filterMap_cons_none hkey]; rfl
  | some key => rw [List.filterMap_cons_some hkey]; rfl

/-- A batch of events: its keys in order, unless it stops at an event. -/
theorem pump (h : a.Plays before settings frames e s) (batch : List HostEvent) :
    EndsIn (fun _ a' => e.Succeeds (keyEvents batch) ∧
        a'.Plays before settings frames (e.run (keyEvents batch)) (s.afterAll batch))
      (fun fault a' => ∃ front event behind s', batch = front ++ event :: behind ∧
        e.Succeeds (keyEvents front) ∧
        StopsAt (e.run (keyEvents front)) (s.afterAll front) event fault ∧
        a'.Plays before settings frames (e.run (keyEvents front)) s')
      (pump batch a) := by
  induction batch generalizing a e s with
  | nil => exact ⟨Emulator.succeeds_nil e, h⟩
  | cons event rest ih =>
    have hstart : EndsIn (fun _ a' => e.Succeeds event.key?.toList ∧
          a'.Plays before settings frames (e.run event.key?.toList) (s.after event))
        (fun fault a' => ∃ front last behind s', event :: rest = front ++ last :: behind ∧
          e.Succeeds (keyEvents front) ∧
          StopsAt (e.run (keyEvents front)) (s.afterAll front) last fault ∧
          a'.Plays before settings frames (e.run (keyEvents front)) s')
        (App.handle event a) := by
      refine (h.handle event).mono (fun _ _ h => h) ?_
      rintro fault a' ⟨hstops, s', hplays⟩
      exact ⟨[], event, rest, s', rfl, Emulator.succeeds_nil e, hstops, hplays⟩
    refine hstart.bind fun _ a₁ ⟨hkey, h₁⟩ => (ih h₁).mono ?_ ?_
    · rintro _ a' ⟨hrest, hplays⟩
      rw [keyEvents_cons, Emulator.run_append_list]
      exact ⟨Emulator.succeeds_append hkey hrest, hplays⟩
    · rintro fault a' ⟨front, last, behind, s', rfl, hfront, hstops, hplays⟩
      refine ⟨event :: front, last, behind, s', rfl, ?_⟩
      rw [keyEvents_cons, Emulator.run_append_list]
      exact ⟨Emulator.succeeds_append hkey hfront, hstops, hplays⟩

end Plays

end App

end Chip8
