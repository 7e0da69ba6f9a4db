/-
  The texts that an application shows for the next word: the one that its record keeps
  (`recordedText?`), the one in the message about the execution (`executedLine?`), and the one that
  the shell tells (`shellLine?`). The message has the text by the row that is executed, in
  whatever table is installed, unless the output refuses it; the other two have the text in the
  standard instruction set. They agree exactly where the installed table gives the word its standard
  text (`views_of_table`), which a table need not do (`exists_views_disagree`).
-/
import Chip8.Proofs.App.Inspect
import Chip8.Proofs.Machine.Stage
import Chip8.Proofs.Opcode.Spelling

namespace Chip8

/-! ## What executing prints -/

namespace Emulator

variable {P : Host → Prop}

theorem keeps_host_handle (hlog : ∀ h category message, P h → P (h.logged category message))
    (hcall : ∀ h c, HostCall.isShowing c = true → P h → P (h.call c)) (name : Text)
    (handler : Handler) (w : Word) :
    Act.Keeps (fun e : Emulator Display => P e.host) (handle name handler w) := by
  cases handler with
  | operation op => exact keeps_host_perform hlog hcall op w
  | part part => cases part <;> exact fun _ h => h

end Emulator

/-- What was printed by now stands behind the given texts. -/
def Host.PrintsAfter (printed : Array Text) (h : Host) : Prop := ∃ rest, h.printed = printed ++ rest

theorem Host.printsAfter_log (printed : Array Text) (h : Host) (category message : Text)
    (hprints : h.PrintsAfter printed) : (h.logged category message).PrintsAfter printed := by
  obtain ⟨rest, hrest⟩ := hprints
  rcases h.logged_cases category message with hsame | hput
  · exact ⟨rest, (congrArg Host.printed hsame).trans hrest⟩
  · refine ⟨rest.push (Categories.line category message ++ "\n"), ?_⟩
    rw [hput, put, hrest, Array.append_push]

/-- The line that is printed about an instruction. -/
def instructionLine (pc : Int) (w : Word) (text : Text) : Text :=
  Categories.line "cpu" (Emulator.instructionText pc w text) ++ "\n"

/-- Every word that the table has a row for gets a handler and a text by it. -/
def OpcodeTable.IsComplete (t : OpcodeTable) (m : Machine Display) : Prop :=
  ∀ w row, t.lookup w = some row →
    (Emulator.handler? m row.handler).isSome ∧ ∃ text, row.format w = .ok text

namespace Emulator

variable {e : Emulator Display} {t : OpcodeTable} {w : Word}

/-- The line about the instruction, if the output takes it, is printed before anything else that
executing it prints. -/
theorem printed_execute {row : Opcode} {text : Text} {handler : Handler}
    (htable : e.machine.table = some t) (hrow : t.lookup w = some row)
    (hhandler : handler? e.machine row.handler = some handler) (htext : row.format w = .ok text)
    (hlogging : e.host.isLogging "cpu" = true) (htakes : e.host.outlet.Takes text) :
    (stateOf (execute w e)).host.printed[e.host.printed.size]? =
      some (instructionLine e.machine.cpu.pc w text) := by
  let told := e.mapHost (·.logged "cpu" (instructionText e.machine.cpu.pc w text))
  let printed := e.host.printed.push (instructionLine e.machine.cpu.pc w text)
  have hcan := canTell_instruction htakes e.machine.cpu.pc w
  have hexecute : execute w e =
      (handle row.handler handler w >>= fun _ => modify (complete row)) told :=
    (execute_of_lookup htable hrow).trans (executeRow_of_handler hhandler htext hcan)
  have htold : told.host.PrintsAfter printed := by
    refine ⟨#[], ?_⟩
    change (e.host.logged _ _).printed = _
    rw [Host.logged_eq, if_pos ⟨hlogging, hcan hlogging⟩]
    exact Array.append_empty.symm
  have hkeeps : Act.Keeps (fun e' : Emulator Display => e'.host.PrintsAfter printed)
      (handle row.handler handler w >>= fun _ => modify (complete row)) :=
    Act.keeps_bind (keeps_host_handle (Host.printsAfter_log _) (fun _ _ _ hp => hp) _ _ _)
      fun _ => Act.keeps_modify fun _ h => by
        unfold complete
        split <;> exact h
  obtain ⟨rest, hrest⟩ := hkeeps told htold
  have hsize : e.host.printed.size < printed.size := by
    rw [Array.size_push]
    exact Nat.lt_succ_self _
  rw [hexecute, hrest, Array.getElem?_append_left hsize]
  exact Array.getElem?_push_size

end Emulator

/-! ## What is recorded -/

theorem TraceRecorder.last?_record {r : TraceRecorder} (h : 0 < r.capacity) (t : TraceEntry) :
    (r.record t).last? = some t := by
  have hle : (r.entries ++ [t]).length - r.capacity ≤ r.entries.length := by
    rw [List.length_append, List.length_singleton]
    omega
  unfold last?
  rw [entries_record, lastOf, List.drop_append_of_le_length hle, List.getLast?_concat]

/-! ## The views -/

namespace App

variable {a : App} {w : Word} {t : OpcodeTable} {r : TraceRecorder}

/-- The text that the record keeps of the next step. -/
def recordedText? (a : App) : Option Text :=
  ((stateOf (stepOnce a)).recorder.bind TraceRecorder.last?).map (·.mnemonic)

/-- What executing a word prints first. -/
def executedLine? (a : App) (w : Word) : Option Text :=
  (stateOf (Emulator.execute w a.emulator)).host.printed[a.host.printed.size]?

/-- What the shell prints last when it is asked for the processor. -/
def shellLine? (a : App) : Option Text := (stateOf (inspect .cpu a)).host.printed.back?

/-- The shell's line about the next word. -/
def nextLine (text : Text) : Text := "next:  " ++ text ++ "\n"

/-- All views show the text that the table gives the word. -/
def ViewsAgree (a : App) (t : OpcodeTable) (w : Word) : Prop :=
  ∃ text, t.disassemble w = .ok text ∧ a.recordedText? = some text ∧
    a.shellLine? = some (nextLine text) ∧
    ∀ row, t.lookup w = some row →
      a.executedLine? w = some (instructionLine a.emulator.machine.cpu.pc w text)

theorem recordedText?_of_fetch (hfetch : a.emulator.machine.fetch = .ok w)
    (hrecorder : a.recorder = some r) (hcapacity : 0 < r.capacity) :
    a.recordedText? = some w.mnemonic := by
  have hstate : (stateOf (stepOnce a)).recorder = a.recorded := by
    cases hs : Emulator.step a.emulator with
    | ok w' e => rw [stepOnce_of_ok hs]; rfl
    | error fault e => rw [stepOnce_of_error hs]; rfl
  have hrecorded : a.recorded =
      some (r.record (.capture a.emulator.machine.cpu (some w) w.mnemonic)) := by
    unfold recorded
    rw [hrecorder, hfetch]
  unfold recordedText?
  rw [hstate, hrecorded, Option.bind_some, TraceRecorder.last?_record hcapacity, Option.map_some,
    TraceEntry.mnemonic_capture]

theorem shellLine?_of_fetch (hfetch : a.emulator.machine.fetch = .ok w) :
    a.shellLine? = some (nextLine w.mnemonic) := by
  change (stateOf (showCpu a)).host.printed.back? = _
  rw [showCpu_eq, hfetch]
  exact Array.back?_push

/-- A word that the table has a row for is announced with its text by the row. If the output refuses
the text, the word is not executed. -/
theorem executedLine?_of_lookup {row : Opcode} (htable : a.emulator.machine.table = some t)
    (hcomplete : t.IsComplete a.emulator.machine) (hlogging : a.host.isLogging "cpu" = true)
    (hrow : t.lookup w = some row) :
    ∃ text, t.disassemble w = .ok text ∧
      (a.host.outlet.Takes text →
        a.executedLine? w = some (instructionLine a.emulator.machine.cpu.pc w text)) ∧
      (¬ a.host.outlet.Takes text → ∃ fault,
        Emulator.execute w a.emulator = .error fault a.emulator ∧ fault.IsRefusal) := by
  obtain ⟨hsome, text, htext⟩ := hcomplete w row hrow
  obtain ⟨handler, hhandler⟩ := Option.isSome_iff_exists.mp hsome
  refine ⟨text, (OpcodeTable.disassemble_of_lookup hrow).trans htext,
    Emulator.printed_execute htable hrow hhandler htext hlogging, fun hrefused => ?_⟩
  have hcan : ¬ a.host.CanTell "cpu"
      (Emulator.instructionText a.emulator.machine.cpu.pc w text) := fun hcan =>
    hrefused (Emulator.takes_instructionText.mp (Host.takes_line.mp (hcan hlogging)).2)
  rw [Emulator.execute_of_lookup htable hrow]
  exact Emulator.exists_executeRow_error hhandler htext hcan

/-- Whatever table is installed, the record and the shell show the text of the next word in the
standard instruction set. Executing the word prints its text by the row that the installed table
has for it, and fails without printing where there is none, and where the output refuses the text.
So all views agree exactly where the installed table gives the word the text that the standard one
gives. -/
theorem views_of_table (htable : a.emulator.machine.table = some t)
    (hcomplete : t.IsComplete a.emulator.machine) (hfetch : a.emulator.machine.fetch = .ok w)
    (hrecorder : a.recorder = some r) (hcapacity : 0 < r.capacity)
    (hlogging : a.host.isLogging "cpu" = true) :
    (∃ text, standardTable.disassemble w = .ok text ∧ a.recordedText? = some text ∧
      a.shellLine? = some (nextLine text)) ∧
    (∀ row, t.lookup w = some row → ∃ text, t.disassemble w = .ok text ∧
      (a.host.outlet.Takes text →
        a.executedLine? w = some (instructionLine a.emulator.machine.cpu.pc w text)) ∧
      (¬ a.host.outlet.Takes text → ∃ fault,
        Emulator.execute w a.emulator = .error fault a.emulator ∧ fault.IsRefusal)) ∧
    (t.lookup w = none → t.disassemble w = .ok OpcodeTable.unknownText ∧
      Emulator.execute w a.emulator = .error (.unknownInstruction w) a.emulator) ∧
    (a.ViewsAgree t w ↔ t.disassemble w = standardTable.disassemble w) := by
  have hrecorded := recordedText?_of_fetch hfetch hrecorder hcapacity
  have hshell := shellLine?_of_fetch hfetch
  have hline {row : Opcode} (hrow : t.lookup w = some row) :=
    executedLine?_of_lookup htable hcomplete hlogging hrow
  have hstandard := disassemble_standardTable w
  refine ⟨⟨w.mnemonic, hstandard, hrecorded, hshell⟩, fun row hrow => hline hrow,
    fun hrow => ⟨OpcodeTable.disassemble_of_lookup_none hrow,
      Emulator.execute_of_lookup_none htable hrow⟩, ?_⟩
  constructor
  · rintro ⟨text, htext, hview, -⟩
    rw [htext, hstandard, ← Option.some.inj (hrecorded.symm.trans hview)]
  · intro hsame
    have htext := hsame.trans hstandard
    refine ⟨w.mnemonic, htext, hrecorded, hshell, fun row hrow => ?_⟩
    obtain ⟨text, htext', hprinted, -⟩ := hline hrow
    rw [Except.ok.inj (htext'.symm.trans htext)] at hprinted
    exact hprinted (w.takes_mnemonic _)

/-! ## A table with another text -/

/-- A row that loads a byte under another name. -/
def moveRow : Opcode :=
  { Operation.loadByte.row with
    mnemonic := Template.ofParts [Mnemonic.text "MOV V", Mnemonic.field "x" "X",
      Mnemonic.text ", ", Mnemonic.field "kk" "#04x"] }

theorem format_moveRow : moveRow.format 0x6005 = .ok "MOV V0, 0x05" := by
  rw [Opcode.format_eq (by decide)]
  decide

theorem mnemonic_loadByte : (0x6005 : Word).mnemonic = "LD V0, 0x05" := by
  have hdisassemble : standardTable.disassemble 0x6005 = .ok (Operation.text .loadByte 0x6005) :=
    disassemble_of_operation? (by decide)
  unfold Word.mnemonic
  rw [hdisassemble, Operation.text_eq]
  decide

/-- An application at a word of this row, with a table of the row alone. It records its steps and
prints messages about the processor. -/
structure IsMoving (a : App) (t : OpcodeTable) : Prop where
  rows : OpcodeTable.ofOpcodes [moveRow] = .ok t
  table : a.emulator.machine.table = some t
  complete : t.IsComplete a.emulator.machine
  lookup : t.lookup 0x6005 = some moveRow
  pc : a.emulator.machine.cpu.pc = 0x200
  fetch : a.emulator.machine.fetch = .ok 0x6005
  recorder : a.recorder = some (.empty recordedSteps)
  logging : a.host.isLogging "cpu" = true

theorem exists_isMoving : ∃ (e : Emulator Display) (host' : Host) (t : OpcodeTable) (a : App),
    Machine.create { display := Display.bitmap (FrameBuffer.blank 8 4), rom := [0x60, 0x05] }
      { categories := ⟨["cpu", "trace"]⟩ } = .ok e host' ∧
    a = ofEmulator {} (e.mapMachine fun m => { m with table := some t }) false ∧
    a.IsMoving t := by
  obtain ⟨e, host', hcreate, hmemory, -⟩ := Machine.exists_create
    { display := Display.bitmap (FrameBuffer.blank 8 4), rom := [0x60, 0x05] }
    { categories := ⟨["cpu", "trace"]⟩ } rfl rfl rfl (by decide)
  obtain ⟨t, ht⟩ := OpcodeTable.exists_ofOpcodes (List.pairwise_singleton _ moveRow)
  have hfresh := Machine.fresh_of_create hcreate
  have hcategories : e.host.categories = ⟨["cpu", "trace"]⟩ :=
    (Machine.sameOutput_of_create hcreate).1.symm
  have hlogging (category : Text) (hon : Categories.isOn ⟨["cpu", "trace"]⟩ category = true) :
      e.host.isLogging category = true := by
    unfold Host.isLogging
    rw [hcategories]
    exact hon
  have hlookup (w : Word) : t.lookup w = [moveRow].find? (·.isMatch w) :=
    OpcodeTable.lookup_ofOpcodes ht w
  refine ⟨e, host', t, _, hcreate, rfl,
    { rows := ht
      table := rfl
      complete := fun w row hrow => ?_
      lookup := hlookup 0x6005
      pc := by change e.machine.cpu.pc = _; rw [hfresh.cpu]
      fetch := hfresh.fetch hmemory (by decide) (by decide)
      recorder := if_pos (hlogging "trace" (by decide))
      logging := hlogging "cpu" (by decide) }⟩
  obtain rfl := List.mem_singleton.mp (List.mem_of_find?_eq_some ((hlookup w).symm.trans hrow))
  refine ⟨?_, _, Opcode.format_eq (by decide) w⟩
  change (Emulator.handler? _ (Text.ofString Operation.loadByte.name)).isSome = true
  rw [Emulator.handler?_name]
  rfl

/-- With the table of this row alone the record and the shell show the standard text. -/
theorem views_of_table_move : ∃ (a : App) (t : OpcodeTable), a.IsMoving t ∧
    (∃ text, standardTable.disassemble 0x6005 = .ok text ∧ a.recordedText? = some text ∧
      a.shellLine? = some (nextLine text)) ∧
    (a.ViewsAgree t 0x6005 ↔ t.disassemble 0x6005 = standardTable.disassemble 0x6005) := by
  obtain ⟨e, host', t, a, -, -, ha⟩ := exists_isMoving
  obtain ⟨hshown, -, -, hagree⟩ :=
    views_of_table ha.table ha.complete ha.fetch ha.recorder (by decide) ha.logging
  exact ⟨a, t, ha, hshown, hagree⟩

/-- With such a table the record and the shell name the instruction otherwise than the message
about its execution does. -/
theorem exists_views_disagree : ∃ (a : App) (t : OpcodeTable),
    OpcodeTable.ofOpcodes [moveRow] = .ok t ∧ a.emulator.machine.table = some t ∧
    t.IsComplete a.emulator.machine ∧ a.emulator.machine.fetch = .ok 0x6005 ∧
    a.recordedText? = some "LD V0, 0x05" ∧ a.shellLine? = some (nextLine "LD V0, 0x05") ∧
    a.executedLine? 0x6005 = some (instructionLine 0x200 0x6005 "MOV V0, 0x05") ∧
    ¬ a.ViewsAgree t 0x6005 := by
  obtain ⟨e, host', t, a, -, -, ha⟩ := exists_isMoving
  have hrecorded := recordedText?_of_fetch ha.fetch ha.recorder (by decide)
  have hshell := shellLine?_of_fetch ha.fetch
  obtain ⟨text, htext, hprinted, -⟩ :=
    executedLine?_of_lookup ha.table ha.complete ha.logging ha.lookup
  have hmove : t.disassemble 0x6005 = .ok "MOV V0, 0x05" :=
    (OpcodeTable.disassemble_of_lookup ha.lookup).trans format_moveRow
  obtain rfl : text = "MOV V0, 0x05" := Except.ok.inj (htext.symm.trans hmove)
  have hline := hprinted (a.host.outlet.takes_ofString _)
  rw [mnemonic_loadByte] at hrecorded hshell
  rw [ha.pc] at hline
  refine ⟨a, t, ha.rows, ha.table, ha.complete, ha.fetch, hrecorded, hshell, hline, ?_⟩
  rintro ⟨shown, hshown, hview, -⟩
  -- the installed table gives the word one text, and the record shows another one
  have hsame : (Text.ofString "MOV V0, 0x05") = "LD V0, 0x05" :=
    (Except.ok.inj (hmove.symm.trans hshown)).trans
      (Option.some.inj (hview.symm.trans hrecorded))
  exact absurd hsame (by decide)

end App

end Chip8
