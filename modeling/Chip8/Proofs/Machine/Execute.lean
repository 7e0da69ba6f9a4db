/-
  Executing by operations. With the standard table, a word that stands for no operation is
  unknown, and nothing happens; every other word is logged, its operation is performed, and the
  operation is completed if it succeeded (`execute_of_operation?`). A step does this with the
  word at the program counter (`step_of_fetch`). Calls and returns do what they do to the
  processor, with the outcome that they have there (`execute_of_call_ok`, `execute_of_ret_ok`).
-/
import Chip8.Machine.Execute
import Chip8.Proofs.Cpu
import Chip8.Proofs.Opcode.Spelling
import Chip8.Proofs.Printing

namespace Chip8

namespace Emulator

variable {δ : Type}

/-! ## Acts on the processor -/

def withCpu (c : Cpu) : Emulator δ → Emulator δ := mapMachine fun m => { m with cpu := c }

def withRandom (source : RandomSource) : Emulator δ → Emulator δ :=
  mapMachine fun m => { m with random := source }

theorem onCpu_eq {α : Type} (act : Act Cpu α) (e : Emulator δ) :
    onCpu act e = resultWithin (fun c => e.withCpu c) (act e.machine.cpu) := rfl

theorem tryCpu_of_ok (change : Cpu → Except Fault Cpu) {e : Emulator δ} {c : Cpu}
    (h : change e.machine.cpu = .ok c) : tryCpu change e = .ok () (e.withCpu c) := by
  unfold tryCpu
  rw [h]
  rfl

theorem tryCpu_of_error (change : Cpu → Except Fault Cpu) {e : Emulator δ} {fault : Fault}
    (h : change e.machine.cpu = .error fault) : tryCpu change e = .error fault e := by
  unfold tryCpu
  rw [h]

/-! ## Completing -/

theorem get_complete (row : Opcode) (e : Emulator δ) (r : Register) :
    (complete row e).machine.cpu.get r = e.machine.cpu.get r := by
  unfold complete
  split <;> rfl

theorem sp_complete (row : Opcode) (e : Emulator δ) :
    (complete row e).machine.cpu.sp = e.machine.cpu.sp := by
  unfold complete
  split <;> rfl

theorem executed_complete (row : Opcode) (e : Emulator δ) :
    (complete row e).machine.executed = e.machine.executed + 1 := by
  unfold complete
  split <;> rfl

theorem memory_complete (row : Opcode) (e : Emulator δ) :
    (complete row e).machine.memory = e.machine.memory := by
  unfold complete
  split <;> rfl

theorem display_complete (row : Opcode) (e : Emulator δ) :
    (complete row e).machine.display = e.machine.display := by
  unfold complete
  split <;> rfl

/-! ## Looking up and performing -/

/-- The machine after the message about an instruction that is about to run. -/
def announce (op : Operation) (w : Word) (e : Emulator δ) : Emulator δ :=
  e.mapHost (·.logged "cpu" (instructionText e.machine.cpu.pc w (op.text w)))

/-- A row with a text is told of, if processor messages are on, and the text is refused if it
cannot be printed. -/
theorem logInstruction_of_format {row : Opcode} {w : Word} {text : Text}
    (h : row.format w = .ok text) (e : Emulator δ) : logInstruction row w e =
      onHost (Host.tryLog "cpu" (instructionText e.machine.cpu.pc w text)) e := by
  unfold logInstruction
  rw [Act.get_bind, h]
  split
  · rfl
  · rename_i hoff
    rw [onHost, Act.within, Host.tryLog_eq, if_neg hoff]
    rfl

theorem takes_instructionText {o : Outlet} {pc : Int} {w : Word} {text : Text} :
    o.Takes (instructionText pc w text) ↔ o.Takes text := by
  simp [instructionText]

/-- The message about an instruction can be told if its text can. -/
theorem canTell_instruction {h : Host} {text : Text} (htext : h.outlet.Takes text) (pc : Int)
    (w : Word) : h.CanTell "cpu" (instructionText pc w text) :=
  Host.canTell_of_takes (h.outlet.takes_ofString _) (takes_instructionText.mpr htext)

theorem onHost_tryLog_of_canTell {category message : Text} {e : Emulator δ}
    (hcan : e.host.CanTell category message) : onHost (Host.tryLog category message) e =
      .ok () (e.mapHost (·.logged category message)) := by
  rw [onHost, Act.within, Host.tryLog_of_canTell hcan]
  rfl

theorem handler?_name (m : Machine δ) (op : Operation) :
    handler? m op.name = some (.operation op) := by
  unfold handler?
  rw [Text.string?_ofString]
  simp only [Option.bind_eq_bind, Option.bind_some, Operation.ofName?_name]
  rfl

theorem handler?_row (m : Machine δ) (op : Operation) :
    handler? m op.row.handler = some (.operation op) := by
  rw [op.handler_row, handler?_name]

variable [Screen δ]

/-- A row with a handler and a text that can be told is told of, then handled and completed. -/
theorem executeRow_of_handler {row : Opcode} {w : Word} {text : Text} {handler : Handler}
    {e : Emulator δ} (hhandler : handler? e.machine row.handler = some handler)
    (htext : row.format w = .ok text)
    (hcan : e.host.CanTell "cpu" (instructionText e.machine.cpu.pc w text)) :
    executeRow row w e = (handle row.handler handler w >>= fun _ => modify (complete row))
      (e.mapHost (·.logged "cpu" (instructionText e.machine.cpu.pc w text))) := by
  unfold executeRow
  rw [Act.get_bind, hhandler]
  exact Act.bind_ok ((logInstruction_of_format htext e).trans (onHost_tryLog_of_canTell hcan))

/-- A row with a handler and a text that cannot be told fails before it is handled. -/
theorem exists_executeRow_error {row : Opcode} {w : Word} {text : Text} {handler : Handler}
    {e : Emulator δ} (hhandler : handler? e.machine row.handler = some handler)
    (htext : row.format w = .ok text)
    (hcan : ¬ e.host.CanTell "cpu" (instructionText e.machine.cpu.pc w text)) :
    ∃ fault, executeRow row w e = .error fault e ∧ fault.IsRefusal := by
  obtain ⟨fault, hfault, hrefusal⟩ := Host.tryLog_of_not hcan
  have hlog : logInstruction row w e = .error fault e := by
    rw [logInstruction_of_format htext, onHost, Act.within, hfault]
    rfl
  refine ⟨fault, ?_, hrefusal⟩
  unfold executeRow
  rw [Act.get_bind, hhandler]
  exact Act.bind_error hlog

theorem executeRow_row (op : Operation) (w : Word) (e : Emulator δ) :
    executeRow op.row w e =
      (perform op w >>= fun _ => modify (complete op.row)) (e.announce op w) :=
  executeRow_of_handler (handler?_row e.machine op) (op.format_row w)
    (canTell_instruction (op.takes_text _ w) _ _)

variable {e : Emulator δ}

theorem execute_of_lookup {t : OpcodeTable} (htable : e.machine.table = some t) {w : Word}
    {row : Opcode} (h : t.lookup w = some row) : execute w e = executeRow row w e := by
  unfold execute
  rw [Act.get_bind, htable]
  dsimp only
  rw [h]

theorem execute_of_lookup_none {t : OpcodeTable} (htable : e.machine.table = some t) {w : Word}
    (h : t.lookup w = none) : execute w e = .error (.unknownInstruction w) e := by
  unfold execute
  rw [Act.get_bind, htable]
  dsimp only
  rw [h]
  rfl

theorem execute_of_none (htable : e.machine.table = some standardTable) {w : Word}
    (h : w.operation? = none) : execute w e = .error (.unknownInstruction w) e :=
  execute_of_lookup_none htable (lookup_of_none h)

theorem execute_of_operation? (htable : e.machine.table = some standardTable) {w : Word}
    {op : Operation} (h : w.operation? = some op) :
    execute w e = (perform op w >>= fun _ => modify (complete op.row)) (e.announce op w) :=
  (execute_of_lookup htable (lookup_of_operation? h)).trans (executeRow_row op w e)

theorem step_of_fetch {w : Word} (h : e.machine.fetch = .ok w) :
    step e = (execute w >>= fun _ => pure w) e := by
  unfold step
  exact Act.bind_ok (by rw [fetch, h])

theorem step_of_fetch_error {fault : Fault} (h : e.machine.fetch = .error fault) :
    step e = .error fault e :=
  Act.bind_error (by rw [fetch, h])

theorem stateOf_step_of_fetch {w : Word} (h : e.machine.fetch = .ok w) :
    stateOf (step e) = stateOf (execute w e) := by
  rw [step_of_fetch h]
  exact Act.stateOf_bind_pure (execute w) (fun _ => w) e

/-- A word that is executed with success stands for an operation, which is performed and
completed. -/
theorem of_execute_ok (htable : e.machine.table = some standardTable) {w : Word} {e' : Emulator δ}
    (h : execute w e = .ok () e') :
    ∃ op e₁, w.operation? = some op ∧ perform op w (e.announce op w) = .ok () e₁ ∧
      e' = complete op.row e₁ := by
  cases hop : w.operation? with
  | none =>
    rw [execute_of_none htable hop] at h
    cases h
  | some op =>
    rw [execute_of_operation? htable hop] at h
    obtain ⟨_, e₁, hp, hcomplete⟩ := Act.of_bind_ok h
    cases hcomplete
    exact ⟨op, e₁, rfl, hp, rfl⟩

/-- A step that succeeds fetches its word and executes it. -/
theorem execute_of_step_ok {w : Word} {e' : Emulator δ} (h : step e = .ok w e') :
    e.machine.fetch = .ok w ∧ execute w e = .ok () e' := by
  cases hf : e.machine.fetch with
  | error fault =>
    rw [step_of_fetch_error hf] at h
    cases h
  | ok word =>
    rw [step_of_fetch hf] at h
    obtain ⟨_, e₁, hexecute, hpure⟩ := Act.of_bind_ok h
    cases hpure
    exact ⟨rfl, hexecute⟩

/-- A step that fails has no word, or executes it without success. -/
theorem of_step_error {fault : Fault} {e' : Emulator δ} (h : step e = .error fault e') :
    (e.machine.fetch = .error fault ∧ e' = e) ∨
      ∃ w, e.machine.fetch = .ok w ∧ execute w e = .error fault e' := by
  cases hf : e.machine.fetch with
  | error fetchFault =>
    rw [step_of_fetch_error hf] at h
    cases h
    exact Or.inl ⟨rfl, rfl⟩
  | ok w =>
    rw [step_of_fetch hf] at h
    cases he : execute w e with
    | ok a e₁ =>
      rw [Act.bind_ok he] at h
      cases h
    | error executeFault e₁ =>
      rw [Act.bind_error he] at h
      cases h
      exact Or.inr ⟨w, rfl, he⟩

/-- A step that succeeds fetches its word, performs its operation and completes it. -/
theorem of_step_ok (htable : e.machine.table = some standardTable) {w : Word} {e' : Emulator δ}
    (h : step e = .ok w e') :
    ∃ op e₁, e.machine.fetch = .ok w ∧ w.operation? = some op ∧
      perform op w (e.announce op w) = .ok () e₁ ∧ e' = complete op.row e₁ := by
  obtain ⟨hf, hexecute⟩ := execute_of_step_ok h
  obtain ⟨op, e₁, hop, hp, he⟩ := of_execute_ok htable hexecute
  exact ⟨op, e₁, hf, hop, hp, he⟩

/-- An operation that ends well is completed. -/
theorem execute_of_perform {w : Word} {op : Operation} {e₁ : Emulator δ}
    (htable : e.machine.table = some standardTable) (hop : w.operation? = some op)
    (hp : perform op w (e.announce op w) = .ok () e₁) :
    execute w e = .ok () (complete op.row e₁) := by
  rw [execute_of_operation? htable hop]
  exact Act.bind_ok hp

theorem step_of_perform (htable : e.machine.table = some standardTable) {w : Word}
    {op : Operation} {e₁ : Emulator δ} (hf : e.machine.fetch = .ok w) (hop : w.operation? = some op)
    (hp : perform op w (e.announce op w) = .ok () e₁) : step e = .ok w (complete op.row e₁) := by
  rw [step_of_fetch hf]
  exact Act.bind_ok (execute_of_perform htable hop hp)

/-! ## Calls and returns -/

theorem execute_of_call_ok (htable : e.machine.table = some standardTable) {w : Word} {c : Cpu}
    (hw : w.IsCall) (h : e.machine.cpu.call w.nnn = .ok c) :
    execute w e = .ok () (complete Operation.call.row ((e.announce .call w).withCpu c)) := by
  rw [execute_of_operation? htable (Word.operation?_eq_call_iff.mpr hw)]
  exact Act.bind_ok (tryCpu_of_ok (·.call w.nnn) h)

theorem execute_of_call_error (htable : e.machine.table = some standardTable) {w : Word}
    {fault : Fault} (hw : w.IsCall) (h : e.machine.cpu.call w.nnn = .error fault) :
    execute w e = .error fault (e.announce .call w) := by
  rw [execute_of_operation? htable (Word.operation?_eq_call_iff.mpr hw)]
  exact Act.bind_error (tryCpu_of_error (·.call w.nnn) h)

theorem execute_of_ret_ok (htable : e.machine.table = some standardTable) {c : Cpu}
    (h : Cpu.ret e.machine.cpu = .ok () c) :
    execute 0x00EE e =
      .ok () (complete Operation.ret.row ((e.announce .ret 0x00EE).withCpu c)) := by
  have hret : onCpu Cpu.ret (e.announce .ret 0x00EE) =
      .ok () ((e.announce .ret 0x00EE).withCpu c) :=
    congrArg (resultWithin fun c => (e.announce .ret 0x00EE).withCpu c) h
  rw [execute_of_operation? htable (Word.operation?_eq_ret_iff.mpr rfl)]
  exact Act.bind_ok hret

theorem execute_of_ret_error (htable : e.machine.table = some standardTable) {fault : Fault}
    {c : Cpu} (h : Cpu.ret e.machine.cpu = .error fault c) :
    execute 0x00EE e = .error fault ((e.announce .ret 0x00EE).withCpu c) := by
  have hret : onCpu Cpu.ret (e.announce .ret 0x00EE) =
      .error fault ((e.announce .ret 0x00EE).withCpu c) :=
    congrArg (resultWithin fun c => (e.announce .ret 0x00EE).withCpu c) h
  rw [execute_of_operation? htable (Word.operation?_eq_ret_iff.mpr rfl)]
  exact Act.bind_error hret

/-- A call that succeeds fills the slot at the stack pointer. -/
theorem of_execute_call (htable : e.machine.table = some standardTable) {w : Word}
    {e' : Emulator δ} (hw : w.IsCall) (h : execute w e = .ok () e') :
    ∃ slot, cell? 16 e.machine.cpu.sp = some slot ∧ e'.machine.cpu = { e.machine.cpu with
      stack := writeCell e.machine.cpu.stack slot (wrap16 (e.machine.cpu.pc + 2))
      sp := e.machine.cpu.sp + 1
      pc := w.nnn } := by
  cases hc : e.machine.cpu.call w.nnn with
  | error fault =>
    rw [execute_of_call_error htable hw hc] at h
    cases h
  | ok c =>
    rw [execute_of_call_ok htable hw hc] at h
    obtain ⟨slot, hslot, rfl⟩ := Cpu.of_call_ok hc
    cases h
    exact ⟨slot, hslot, rfl⟩

/-- A return that succeeds goes to the address in the slot below the stack pointer. -/
theorem of_execute_ret (htable : e.machine.table = some standardTable) {e' : Emulator δ}
    (h : execute 0x00EE e = .ok () e') :
    ∃ slot, cell? 16 (e.machine.cpu.sp - 1) = some slot ∧ e'.machine.cpu = { e.machine.cpu with
      sp := e.machine.cpu.sp - 1
      pc := readCell e.machine.cpu.stack slot } := by
  cases hc : Cpu.ret e.machine.cpu with
  | error fault c =>
    rw [execute_of_ret_error htable hc] at h
    cases h
  | ok a c =>
    rw [execute_of_ret_ok htable hc] at h
    obtain ⟨slot, hslot, rfl⟩ := Cpu.of_ret_ok hc
    cases h
    exact ⟨slot, hslot, rfl⟩

end Emulator

end Chip8
