/-
  The shell of a paused application. It answers the lines up to the first one that is blank or
  quits, and an answer leaves nothing behind but text (`readCommands_append`). Then the
  application goes on or stops. There are two lines that the shell cannot answer. One asks for the
  processor when no whole word is left at the program counter: it fails there, in the middle of the
  answer. The other asks for a record of which the output refuses a text. The main statement is
  `shellEnds_of_enterShell`.
-/
import Chip8.Proofs.App.Inspect
import Chip8.Proofs.Machine.Failure
import Chip8.Proofs.Machine.Ticks
import Chip8.Proofs.Text.Lowercase

namespace Chip8

/-! ## Lines -/

/-- The text of a line without blanks around it. An interrupt is like an empty line. -/
def lineText (line : Option Text) : Text := (line.getD []).trim

def isBlankLine (line : Option Text) : Bool := (lineText line).isEmpty

def isQuitLine (line : Option Text) : Bool :=
  (lineText line).lower == "q" || (lineText line).lower == "quit"

/-- The line asks for the processor. -/
def isCpuLine (line : Option Text) : Bool := (lineText line).lower.head? == some (.char 'c')

/-- The line asks for the record. -/
def isTraceLine (line : Option Text) : Bool := (lineText line).lower.head? == some (.char 't')

namespace ShellCommand

variable {line : Option Text}

theorem ofLine_eq_resume_iff : ofLine (line.getD []) = .resume ↔ isBlankLine line = true := by
  rw [isBlankLine, List.isEmpty_iff, ← Text.lower_eq_nil_iff, lineText]
  unfold ofLine
  generalize (line.getD []).trim.lower = t
  split <;> simp_all

theorem ofLine_eq_quit_iff : ofLine (line.getD []) = .quit ↔ isQuitLine line = true := by
  have hq : Text.ofString "q" = [.char 'q'] := rfl
  have hquit : Text.ofString "quit" = [.char 'q', .char 'u', .char 'i', .char 't'] := rfl
  rw [isQuitLine, lineText, hq, hquit]
  unfold ofLine
  generalize (line.getD []).trim.lower = t
  split <;> simp_all

theorem ofLine_eq_cpu_iff : ofLine (line.getD []) = .cpu ↔ isCpuLine line = true := by
  rw [isCpuLine, lineText, beq_iff_eq, List.head?_eq_some_iff]
  unfold ofLine
  generalize (line.getD []).trim.lower = t
  split <;> simp_all

theorem ofLine_eq_trace_iff : ofLine (line.getD []) = .trace ↔ isTraceLine line = true := by
  rw [isTraceLine, lineText, beq_iff_eq, List.head?_eq_some_iff]
  unfold ofLine
  generalize (line.getD []).trim.lower = t
  split <;> simp_all

end ShellCommand

namespace App

variable {a : App} {line : Option Text} {lines : List (Option Text)}

/-! ## Reading -/

/-- The shell answers the line and reads on: the line is neither blank nor quits, if it asks for
the processor there is a word to show with it, and if it asks for the record that can be shown. -/
structure Answers (a : App) (line : Option Text) : Prop where
  blank : isBlankLine line = false
  quit : isQuitLine line = false
  cpu : isCpuLine line = true → a.emulator.machine.cpu.pc < 0xFFF
  trace : isTraceLine line = true → ∀ r, a.recorder = some r → a.host.outlet.Takes r.shownText

theorem prompt_eq_told (rest : List (Option Text)) (a : App) :
    (a.prompt.mapHost fun h => { h with console := rest }) = a.told ["chip8> "] rest := by
  simp [prompt, Host.print, Host.put, told, mapHost, mapEmulator, Emulator.mapHost]

theorem exists_printLine_prompt (text : String) (rest : List (Option Text)) (a : App) :
    ∃ shown, (a.told ["chip8> "] rest).printLine text = a.told shown rest := by
  obtain ⟨shown, hshown⟩ := (HasTold.refl (a.told ["chip8> "] rest)).printLine text
  exact ⟨_, hshown.trans (told_told ..)⟩

/-- The end of the console. -/
theorem exists_readCommands_nil (hconsole : a.host.console = []) :
    ∃ shown, readCommands [] a = .ok () (a.told shown []) := by
  have hprompt : a.prompt = a.told ["chip8> "] [] := by
    rw [← prompt_eq_told, ← hconsole]
    rfl
  obtain ⟨shown, hshown⟩ := a.exists_printLine_prompt "-- resumed --" []
  rw [← hprompt] at hshown
  exact ⟨shown, congrArg (EStateM.Result.ok ()) hshown⟩

theorem exists_readCommands_of_blank (hblank : isBlankLine line = true)
    (rest : List (Option Text)) (a : App) :
    ∃ shown, readCommands (line :: rest) a = .ok () (a.told shown rest) := by
  obtain ⟨shown, hshown⟩ := a.exists_printLine_prompt "-- resumed --" rest
  unfold readCommands
  rw [Act.modify_bind, prompt_eq_told, ShellCommand.ofLine_eq_resume_iff.mpr hblank]
  exact ⟨shown, congrArg (EStateM.Result.ok ()) hshown⟩

theorem exists_readCommands_of_quit (hquit : isQuitLine line = true)
    (rest : List (Option Text)) (a : App) : ∃ shown,
      readCommands (line :: rest) a = .ok () { a.told shown rest with running := false } := by
  obtain ⟨shown, hshown⟩ := a.exists_printLine_prompt "-- quit --" rest
  unfold readCommands
  rw [Act.modify_bind, prompt_eq_told, ShellCommand.ofLine_eq_quit_iff.mpr hquit]
  let stopped (b : App) : App := { b with running := false }
  exact ⟨shown, congrArg (fun b => EStateM.Result.ok () (stopped b)) hshown⟩

theorem Answers.of_told {shown : List Text} (h : (a.told shown lines).Answers line) :
    a.Answers line := { h with }

/-- A line that is neither blank nor quits. -/
theorem exists_readCommands (hblank : isBlankLine line = false) (hquit : isQuitLine line = false)
    (rest : List (Option Text)) (a : App) : ∃ shown, readCommands (line :: rest) a =
      match a.inspectFault? (.ofLine (line.getD [])) with
      | none => readCommands rest (a.told shown rest)
      | some fault => .error fault (a.told shown rest) := by
  let a₁ := a.prompt.mapHost fun h => { h with console := rest }
  have hprompt : a₁ = a.told ["chip8> "] rest := a.prompt_eq_told rest
  obtain ⟨a₂, hinspect, shown₁, hshown⟩ := exists_inspect (.ofLine (line.getD [])) a₁
  have hfault : a₁.inspectFault? (.ofLine (line.getD [])) =
      a.inspectFault? (.ofLine (line.getD [])) := rfl
  obtain ⟨shown, htold⟩ : ∃ shown, a₂ = a.told shown rest := by
    rw [hshown, hprompt, told_told]
    exact ⟨_, rfl⟩
  have hread : readCommands (line :: rest) a =
      (inspect (.ofLine (line.getD [])) >>= fun _ => readCommands rest) a₁ := by
    conv_lhs => unfold readCommands
    rw [Act.modify_bind]
    cases hcommand : ShellCommand.ofLine (line.getD []) with
    | resume =>
      rw [ShellCommand.ofLine_eq_resume_iff.mp hcommand] at hblank
      cases hblank
    | quit =>
      rw [ShellCommand.ofLine_eq_quit_iff.mp hcommand] at hquit
      cases hquit
    | cpu | screen | memory arguments | trace | help => rfl
  rw [hfault, htold] at hinspect
  refine ⟨shown, hread.trans ?_⟩
  cases hf : a.inspectFault? (.ofLine (line.getD [])) with
  | none =>
    rw [hf] at hinspect
    exact Act.bind_ok hinspect
  | some fault =>
    rw [hf] at hinspect
    exact Act.bind_error hinspect

theorem inspectFault?_of_answers (hm : a.emulator.machine.IsBounded 0x1002) (h : a.Answers line) :
    a.inspectFault? (.ofLine (line.getD [])) = none := by
  cases hcommand : ShellCommand.ofLine (line.getD []) with
  | cpu =>
    have hpc := h.cpu (ShellCommand.ofLine_eq_cpu_iff.mp hcommand)
    exact inspectFault?_cpu_of_ok (hm.fetch_of_lt hpc)
  | trace =>
    have hshown := h.trace (ShellCommand.ofLine_eq_trace_iff.mp hcommand)
    cases hr : a.recorder with
    | none =>
      unfold inspectFault?
      rw [hr]
      rfl
    | some r =>
      rw [inspectFault?_trace hr]
      exact Outlet.refusal?_eq_none_iff.mpr (hshown r hr)
  | resume | quit | screen | memory arguments | help => rfl

/-- Lines that the shell answers leave nothing behind but text. -/
theorem readCommands_append (hm : a.emulator.machine.IsBounded 0x1002)
    {front rest : List (Option Text)} (hconsole : a.host.console = front ++ rest)
    (hfront : ∀ line ∈ front, a.Answers line) :
    ∃ shown, readCommands (front ++ rest) a = readCommands rest (a.told shown rest) := by
  induction front generalizing a with
  | nil =>
    refine ⟨[], ?_⟩
    rw [List.nil_append, show rest = a.host.console from hconsole.symm, told_nil]
  | cons line front ih =>
    have hline := hfront line List.mem_cons_self
    obtain ⟨shown, hread⟩ := exists_readCommands hline.blank hline.quit (front ++ rest) a
    rw [inspectFault?_of_answers hm hline] at hread
    obtain ⟨shown', hrest⟩ := ih (a := a.told shown (front ++ rest)) hm rfl fun l hl =>
      { hfront l (List.mem_cons_of_mem line hl) with }
    refine ⟨shown ++ shown', ?_⟩
    rw [List.cons_append, hread]
    exact hrest.trans (congrArg _ (told_told ..))

/-- How the shell ends: the lines before the last one that it reads are answered. -/
inductive ShellEnds (a : App) : EStateM.Result Fault App Unit → Prop
  /-- All lines are answered, and the application goes on. -/
  | atEnd (shown : List Text) (hlines : ∀ line ∈ a.host.console, a.Answers line) :
    ShellEnds a (.ok () (a.told shown []))
  /-- At a blank line the application goes on. -/
  | resumed {front behind : List (Option Text)} {line : Option Text} (shown : List Text)
    (hlines : a.host.console = front ++ line :: behind) (hfront : ∀ l ∈ front, a.Answers l)
    (hblank : isBlankLine line = true) :
    ShellEnds a (.ok () (a.told shown behind))
  /-- At a line that quits it stops. -/
  | quit {front behind : List (Option Text)} {line : Option Text} (shown : List Text)
    (hlines : a.host.console = front ++ line :: behind) (hfront : ∀ l ∈ front, a.Answers l)
    (hquit : isQuitLine line = true) :
    ShellEnds a (.ok () { a.told shown behind with running := false })
  /-- The processor is asked for and there is no whole word at the program counter. -/
  | failed {front behind : List (Option Text)} {line : Option Text} (shown : List Text)
    (hlines : a.host.console = front ++ line :: behind) (hfront : ∀ l ∈ front, a.Answers l)
    (hcpu : isCpuLine line = true) (hpc : 0xFFF ≤ a.emulator.machine.cpu.pc) :
    ShellEnds a (.error .cellIndex (a.told shown behind))
  /-- The record is asked for, which was not made by the application alone: the output refuses a
  text of it. -/
  | untold {front behind : List (Option Text)} {line : Option Text} {r : TraceRecorder}
    {fault : Fault} (shown : List Text) (hlines : a.host.console = front ++ line :: behind)
    (hfront : ∀ l ∈ front, a.Answers l) (htrace : isTraceLine line = true)
    (hr : a.recorder = some r) (hfault : a.host.outlet.refusal? r.shownText = some fault)
    (hplain : ¬ a.IsPlain) :
    ShellEnds a (.error fault (a.told shown behind))

theorem ShellEnds.of_told {shown : List Text} {r : EStateM.Result Fault App Unit}
    (h : ShellEnds (a.told shown a.host.console) r) : ShellEnds a r := by
  cases h with
  | atEnd shown' hlines =>
    rw [told_told]
    exact .atEnd _ fun l hl => (hlines l hl).of_told
  | resumed shown' hlines hfront hblank =>
    rw [told_told]
    exact .resumed _ hlines (fun l hl => (hfront l hl).of_told) hblank
  | quit shown' hlines hfront hquit =>
    rw [told_told]
    exact .quit _ hlines (fun l hl => (hfront l hl).of_told) hquit
  | failed shown' hlines hfront hcpu hpc =>
    rw [told_told]
    exact .failed _ hlines (fun l hl => (hfront l hl).of_told) hcpu hpc
  | untold shown' hlines hfront htrace hr hfault hplain =>
    rw [told_told]
    exact .untold _ hlines (fun l hl => (hfront l hl).of_told) htrace hr hfault hplain

/-- Every line is answered, or there is a first one that is not. -/
theorem exists_unanswered (a : App) (lines : List (Option Text)) :
    (∀ line ∈ lines, a.Answers line) ∨ ∃ front line behind, lines = front ++ line :: behind ∧
      (∀ l ∈ front, a.Answers l) ∧ ¬ a.Answers line := by
  induction lines with
  | nil => exact Or.inl fun line hline => nomatch hline
  | cons line rest ih =>
    by_cases hline : a.Answers line
    · rcases ih with hall | ⟨front, last, behind, hrest, hfront, hlast⟩
      · exact Or.inl (List.forall_mem_cons.mpr ⟨hline, hall⟩)
      · exact Or.inr ⟨line :: front, last, behind, by rw [hrest, List.cons_append],
          List.forall_mem_cons.mpr ⟨hline, hfront⟩, hlast⟩
    · exact Or.inr ⟨[], line, rest, rfl, (fun l hl => nomatch hl), hline⟩

/-- Why the shell does not answer a line that is neither blank nor quits. -/
theorem cpu_or_trace_of_not_answers (hblank : isBlankLine line = false)
    (hquit : isQuitLine line = false) (hline : ¬ a.Answers line) :
    (isCpuLine line = true ∧ 0xFFF ≤ a.emulator.machine.cpu.pc) ∨
      ∃ r fault, isTraceLine line = true ∧ a.recorder = some r ∧
        a.host.outlet.refusal? r.shownText = some fault := by
  by_contra hnone
  push Not at hnone
  obtain ⟨hcpu, htrace⟩ := hnone
  refine hline ⟨hblank, hquit, fun h => hcpu h, fun h r hr => ?_⟩
  exact Outlet.refusal?_eq_none_iff.mp (Option.eq_none_iff_forall_ne_some.mpr fun fault =>
    htrace r fault h hr)

/-- The shell ends at a line that it does not answer. Whether the line is blank comes first. -/
theorem ShellEnds.of_not_answers (hm : a.emulator.machine.IsBounded 0x1002)
    {front behind : List (Option Text)} (hlines : a.host.console = front ++ line :: behind)
    (hfront : ∀ l ∈ front, a.Answers l) (hline : ¬ a.Answers line) (shown : List Text) :
    ShellEnds a (readCommands (line :: behind) (a.told shown (line :: behind))) := by
  let reached := a.told shown (line :: behind)
  by_cases hblank : isBlankLine line = true
  · obtain ⟨shown', hend⟩ := exists_readCommands_of_blank hblank behind reached
    rw [hend, told_told]
    exact .resumed _ hlines hfront hblank
  by_cases hquit : isQuitLine line = true
  · obtain ⟨shown', hend⟩ := exists_readCommands_of_quit hquit behind reached
    rw [hend, told_told]
    exact .quit _ hlines hfront hquit
  rw [Bool.not_eq_true] at hblank hquit
  obtain ⟨shown', hend⟩ := exists_readCommands hblank hquit behind reached
  rw [told_told] at hend
  rcases cpu_or_trace_of_not_answers hblank hquit hline with
    ⟨hcpu, hpc⟩ | ⟨r, fault, htrace, hr, hrefused⟩
  · have hfetch : reached.emulator.machine.fetch = .error .cellIndex := hm.fetch_of_le hpc
    rw [ShellCommand.ofLine_eq_cpu_iff.mpr hcpu, inspectFault?_cpu_of_error hfetch] at hend
    rw [hend]
    exact .failed _ hlines hfront hcpu hpc
  · have hfault : reached.inspectFault? .trace = some fault :=
      (inspectFault?_trace hr).trans hrefused
    rw [ShellCommand.ofLine_eq_trace_iff.mpr htrace, hfault] at hend
    rw [hend]
    refine .untold _ hlines hfront htrace hr hrefused fun hplain => ?_
    have hnone : reached.inspectFault? .trace = none := inspectFault?_trace_of_isPlain hplain
    cases hnone.symm.trans hfault

theorem shellEnds_of_readCommands (hm : a.emulator.machine.IsBounded 0x1002) :
    ShellEnds a (readCommands a.host.console a) := by
  rcases a.exists_unanswered a.host.console with hall | ⟨front, line, behind, hlines, hfront, hline⟩
  · obtain ⟨shown, hread⟩ := readCommands_append hm (List.append_nil _).symm hall
    obtain ⟨shown', hend⟩ := exists_readCommands_nil (a := a.told shown []) rfl
    rw [List.append_nil, hend, told_told] at hread
    rw [hread]
    exact .atEnd _ hall
  · obtain ⟨shown, hread⟩ := readCommands_append hm hlines hfront
    rw [hlines, hread]
    exact .of_not_answers hm hlines hfront hline shown

/-- The shell of a running application whose machine is like a reachable one. It reads the lines
up to the first one that is blank or quits, or all of them, and only a line that quits stops the
application; or it fails at a line that asks for the processor when there is no whole word at the
program counter, or at a line that asks for a record of which the output refuses a text, which the
steps of an application never are recorded with. In every case nothing is changed but the text that
is printed and the lines that are left. -/
theorem shellEnds_of_enterShell {e : Emulator Display} (hreach : e.IsReachable)
    (halike : e.machine.Alike a.emulator.machine) (hrunning : a.running = true) :
    ShellEnds a (enterShell a) := by
  let paused := (a.printLine "\n-- paused --").printLine shellHelp
  obtain ⟨shown, hshown⟩ : a.HasTold paused := ((HasTold.refl a).printLine _).printLine _
  have hm : paused.emulator.machine.IsBounded 0x1002 := halike.isBounded hreach.isBounded
  have henter : enterShell a = readCommands paused.host.console paused := by
    unfold enterShell
    rw [Act.modify_bind, Act.get_bind]
    exact congrFun (if_pos (show paused.running = true from hrunning)) paused
  have hends := shellEnds_of_readCommands hm
  rw [henter]
  rw [hshown] at hends ⊢
  exact hends.of_told

/-- A shell that is asked to quit leaves the line behind that. -/
theorem shellEnds_of_enterShell_quit : ∃ (e : Emulator Display) (a a' : App), e.IsReachable ∧
    e.machine.Alike a.emulator.machine ∧ a.running = true ∧
    a.host.console = [some (.ofString "q"), none] ∧ enterShell a = .ok () a' ∧
    a'.running = false ∧ a'.host.console = [none] := by
  obtain ⟨e, host', -, hreach, -⟩ := Emulator.exists_unknown
  let a : App :=
    { settings := {}
      emulator := e.mapHost fun host => { host with console := [some (.ofString "q"), none] } }
  have hconsole : a.host.console = [some (.ofString "q"), none] := rfl
  have halike : e.machine.Alike a.emulator.machine := Machine.Alike.refl _
  have hends : ShellEnds a (enterShell a) := shellEnds_of_enterShell hreach halike rfl
  have hquits : isQuitLine (some (.ofString "q")) = true := by decide
  have hanswers : ¬ a.Answers (some (.ofString "q")) := fun h => by cases h.quit.symm.trans hquits
  -- the line that quits is the first one that is not answered
  have hfirst {front behind : List (Option Text)} {line : Option Text}
      (hlines : a.host.console = front ++ line :: behind) (hfront : ∀ l ∈ front, a.Answers l) :
      line = some (.ofString "q") ∧ behind = [none] := by
    cases front with
    | nil => cases hlines; exact ⟨rfl, rfl⟩
    | cons first rest =>
      obtain ⟨rfl, -⟩ := List.cons.inj hlines
      exact absurd (hfront _ List.mem_cons_self) hanswers
  generalize hr : enterShell a = r at hends
  cases hends with
  | atEnd shown hlines => exact absurd (hlines _ List.mem_cons_self) hanswers
  | resumed shown hlines hfront hblank =>
    obtain ⟨rfl, -⟩ := hfirst hlines hfront
    exact absurd hblank (by decide)
  | quit shown hlines hfront hquit =>
    obtain ⟨-, rfl⟩ := hfirst hlines hfront
    exact ⟨e, a, _, hreach, halike, rfl, hconsole, hr, rfl, rfl⟩
  | failed shown hlines hfront hcpu hpc =>
    obtain ⟨rfl, -⟩ := hfirst hlines hfront
    exact absurd hcpu (by decide)
  | untold shown hlines hfront htrace hrecorder hfault hplain =>
    obtain ⟨rfl, -⟩ := hfirst hlines hfront
    exact absurd htrace (by decide)

/-- After a jump to the last byte of the memory the shell fails when it is asked for the
processor, and a blank line is left unread. -/
theorem exists_enterShell_error : ∃ (e e₁ : Emulator Display) (host' : Host) (a a' : App),
    Machine.create { display := Display.bitmap (FrameBuffer.blank 8 4), rom := [0x1F, 0xFF] }
      { categories := {} } = .ok e host' ∧
    Emulator.step e = .ok 0x1FFF e₁ ∧ a.emulator.machine = e₁.machine ∧ a.running = true ∧
    a.host.console = [some (Text.ofString "c"), some []] ∧ enterShell a = .error .cellIndex a' ∧
    a'.running = true ∧ a'.host.console = [some []] := by
  obtain ⟨e, e₁, host', hcreate, -, hstep, -, -, hfetch⟩ := Emulator.exists_jump_past_end {}
  let lines : List (Option Text) := [some (Text.ofString "c"), some []]
  let a : App :=
    { settings := {}, emulator := e₁.mapHost fun host => { host with console := lines } }
  let paused := (a.printLine "\n-- paused --").printLine shellHelp
  have hblank : isBlankLine (some (.ofString "c")) = false := by decide
  have hquit : isQuitLine (some (.ofString "c")) = false := by decide
  obtain ⟨shown, hread⟩ := exists_readCommands hblank hquit [some []] paused
  have hfault : paused.inspectFault? (.ofLine "c") = some .cellIndex := by
    have hfetch' : paused.emulator.machine.fetch = .error .cellIndex := hfetch
    rw [show ShellCommand.ofLine "c" = .cpu by decide, inspectFault?_cpu_of_error hfetch']
  rw [Option.getD_some, hfault] at hread
  exact ⟨e, e₁, host', a, _, hcreate, hstep, rfl, rfl, rfl, hread, rfl, rfl⟩

end App

end Chip8
