/-
  What the shell shows of a paused application. A command leaves nothing behind but text
  (`exists_inspect`). It can fail only where the processor is to be shown and there is no word at
  the program counter, and where the record is to be shown and has a text that the output refuses
  (`inspectFault?`); steps are not recorded with such texts (`inspectFault?_trace_of_isPlain`).
-/
import Chip8.App.Shell
import Chip8.Proofs.App.Step

namespace Chip8

namespace App

variable {a : App}

/-- The application after the shell has shown something, with the lines that are left. -/
def told (shown : List Text) (lines : List (Option Text)) (a : App) : App :=
  a.mapHost fun h => { h with printed := h.printed ++ shown.toArray, console := lines }

theorem told_nil (a : App) : a.told [] a.host.console = a := by
  simp [told, mapHost, mapEmulator, Emulator.mapHost, host]

theorem told_told (shown shown' : List Text) (lines lines' : List (Option Text)) (a : App) :
    (a.told shown lines).told shown' lines' = a.told (shown ++ shown') lines' := by
  simp [told, mapHost, mapEmulator, Emulator.mapHost, Array.append_assoc]

theorem put_eq_told (a : App) (text : Text) :
    a.mapHost (·.put text) = a.told [text] a.host.console := by
  simp [Host.put, told, mapHost, mapEmulator, Emulator.mapHost, host]

theorem printLine_eq_told (text : String) (a : App) :
    a.printLine text = a.told [Text.ofString text ++ "\n"] a.host.console := by
  rw [← Text.ofString_append]
  exact a.put_eq_told _

/-- The application `a'` is `a` after some text was shown. -/
def HasTold (a a' : App) : Prop := ∃ shown, a' = a.told shown a.host.console

theorem HasTold.refl (a : App) : a.HasTold a := ⟨[], a.told_nil.symm⟩

theorem HasTold.put {a' : App} (h : a.HasTold a') (text : Text) :
    a.HasTold (a'.mapHost (·.put text)) := by
  obtain ⟨shown, rfl⟩ := h
  refine ⟨shown ++ [text], ?_⟩
  rw [put_eq_told, told_told]
  rfl

theorem HasTold.printLine {a' : App} (h : a.HasTold a') (text : String) :
    a.HasTold (a'.printLine text) := h.put _

theorem HasTold.machine {a' : App} (h : a.HasTold a') :
    a'.emulator.machine = a.emulator.machine := by
  obtain ⟨shown, rfl⟩ := h
  rfl

end App

/-- The text that the shell shows of a record. -/
def TraceRecorder.shownText (r : TraceRecorder) : Text :=
  let lines := r.formatLatest (some App.shownSteps)
  if lines.isEmpty then "trace is empty" else Text.joinWith "\n" lines

namespace App

variable {a : App}

/-- The fault of an answer: there may be no word to show with the processor, and a text of the
record may be refused. -/
def inspectFault? (a : App) : ShellCommand → Option Fault
  | .cpu =>
    match a.emulator.machine.fetch with
    | .ok _ => none
    | .error fault => some fault
  | .trace => a.recorder.bind fun r => a.host.outlet.refusal? r.shownText
  | _ => none

theorem inspectFault?_cpu_of_ok {w : Word} (h : a.emulator.machine.fetch = .ok w) :
    a.inspectFault? .cpu = none := by
  unfold inspectFault?
  rw [h]

theorem inspectFault?_cpu_of_error {fault : Fault} (h : a.emulator.machine.fetch = .error fault) :
    a.inspectFault? .cpu = some fault := by
  unfold inspectFault?
  rw [h]

theorem inspectFault?_trace {r : TraceRecorder} (h : a.recorder = some r) :
    a.inspectFault? .trace = a.host.outlet.refusal? r.shownText := by
  unfold inspectFault?
  rw [h]
  rfl

theorem takes_shownText (h : a.IsPlain) {r : TraceRecorder} (hr : a.recorder = some r)
    (o : Outlet) : o.Takes r.shownText := by
  have hlines : ∀ line ∈ r.formatLatest (some shownSteps), o.Takes line := by
    intro line hline
    obtain ⟨t, ht, rfl⟩ := List.mem_map.mp hline
    exact h r hr t (List.mem_of_mem_drop ht) o
  unfold TraceRecorder.shownText
  dsimp only
  split
  · exact o.takes_ofString _
  · exact Outlet.takes_joinWith (o.takes_ofString _) hlines

/-- A record of plain texts can be shown. -/
theorem inspectFault?_trace_of_isPlain (h : a.IsPlain) : a.inspectFault? .trace = none := by
  cases hr : a.recorder with
  | none =>
    unfold inspectFault?
    rw [hr]
    rfl
  | some r =>
    rw [inspectFault?_trace hr]
    exact Outlet.refusal?_eq_none_iff.mpr (takes_shownText h hr _)

theorem fetch_of_inspectFault? (h : a.IsPlain) {command : ShellCommand} {fault : Fault}
    (hfault : a.inspectFault? command = some fault) : a.emulator.machine.fetch = .error fault := by
  cases command with
  | cpu =>
    cases hfetch : a.emulator.machine.fetch with
    | ok w =>
      rw [inspectFault?_cpu_of_ok hfetch] at hfault
      cases hfault
    | error fault' =>
      rw [inspectFault?_cpu_of_error hfetch] at hfault
      cases hfault
      rfl
  | trace =>
    rw [inspectFault?_trace_of_isPlain h] at hfault
    cases hfault
  | resume | quit | screen | memory arguments | help => cases hfault

theorem HasTold.foldl {α : Type} {next : App → α → App}
    (h : ∀ a' x, a.HasTold a' → a.HasTold (next a' x)) (xs : List α) {a' : App}
    (ha : a.HasTold a') : a.HasTold (xs.foldl next a') := by
  induction xs generalizing a' with
  | nil => exact ha
  | cons x rest ih => exact ih (h a' x ha)

theorem hasTold_showMemory (arguments : Text) (a : App) : a.HasTold (showMemory arguments a) := by
  unfold showMemory
  split
  · exact (HasTold.refl a).printLine _
  · exact HasTold.foldl (fun a' row ha => ha.printLine _) _ (.refl a)

/-- After the shell has told of the processor, but not of its next word. -/
def toldCpu (a : App) : App :=
  let c := a.emulator.machine.cpu
  ((a.printLine (pointersText c)).printLine (registersText c)).printLine (stackText c)

theorem hasTold_toldCpu (a : App) : a.HasTold a.toldCpu :=
  (((HasTold.refl a).printLine _).printLine _).printLine _

/-- The line about the next word comes last, if there is a word. -/
theorem showCpu_eq (a : App) : showCpu a =
    match a.emulator.machine.fetch with
    | .ok w => .ok () (a.toldCpu.mapHost (·.put ("next:  " ++ w.mnemonic ++ "\n")))
    | .error fault => .error fault a.toldCpu := by
  have hfetch := App.onFetch a.toldCpu
  rw [a.hasTold_toldCpu.machine] at hfetch
  unfold showCpu
  rw [Act.get_bind, Act.modify_bind, Act.modify_bind, Act.modify_bind]
  cases hf : a.emulator.machine.fetch with
  | error fault =>
    rw [hf] at hfetch
    exact Act.bind_error hfetch
  | ok w =>
    rw [hf] at hfetch
    have htakes (o : Outlet) : o.Takes ("next:  " ++ w.mnemonic) :=
      Outlet.takes_append.mpr ⟨o.takes_ofString _, w.takes_mnemonic o⟩
    refine (Act.bind_ok hfetch).trans ?_
    rw [disassemble_standardTable]
    change onHost (Host.tryPrintLine _) a.toldCpu = _
    rw [onHost_eq, Host.tryPrintLine_of_takes (htakes _)]
    rfl

theorem exists_showCpu (a : App) :
    ∃ a', showCpu a = ended (a.inspectFault? .cpu) a' ∧ a.HasTold a' := by
  rw [showCpu_eq]
  cases hfetch : a.emulator.machine.fetch with
  | error fault =>
    rw [inspectFault?_cpu_of_error hfetch]
    exact ⟨_, rfl, a.hasTold_toldCpu⟩
  | ok w =>
    rw [inspectFault?_cpu_of_ok hfetch]
    exact ⟨_, rfl, a.hasTold_toldCpu.put _⟩

theorem exists_showTrace (a : App) : ∃ a', showTrace (some shownSteps) a =
    ended (a.inspectFault? .trace) a' ∧ a.HasTold a' := by
  unfold showTrace
  rw [Act.get_bind]
  cases hr : a.recorder with
  | none =>
    refine ⟨_, ?_, (HasTold.refl a).printLine "tracing is off; run with CHIP8_DEBUG=trace"⟩
    unfold inspectFault?
    rw [hr]
    rfl
  | some r =>
    change ∃ a', onHost (Host.tryPrintLine r.shownText) a = _ ∧ _
    rw [onHost_eq, inspectFault?_trace hr, Host.tryPrintLine]
    cases a.host.outlet.refusal? r.shownText with
    | none => exact ⟨_, rfl, (HasTold.refl a).put _⟩
    | some fault => exact ⟨_, rfl, .refl a⟩

/-- A command leaves nothing behind but text. -/
theorem exists_inspect (command : ShellCommand) (a : App) :
    ∃ a', inspect command a = ended (a.inspectFault? command) a' ∧ a.HasTold a' := by
  have hline (text : String) : a.HasTold (a.printLine text) := (HasTold.refl a).printLine text
  cases command with
  | cpu => exact a.exists_showCpu
  | screen =>
    refine ⟨_, rfl, ?_⟩
    unfold showScreen
    split <;> exact hline _
  | memory arguments => exact ⟨_, rfl, hasTold_showMemory arguments a⟩
  | trace => exact a.exists_showTrace
  | resume | quit | help => exact ⟨_, rfl, hline _⟩

end App

end Chip8
