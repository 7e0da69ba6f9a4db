/-
  Two machines side by side. `Shares` collects what a relation between machines must let through
  for the operations that see neither the memory nor the display to agree on it
  (`Shares.agree_perform`), and `SharesMemory` what it takes for the operations on the memory
  (`SharesMemory.agree_perform`). Executing agrees where performing does (`matching_execute`).
-/
import Chip8.Proofs.Machine.Transfer

namespace Chip8

/-- Whether an operation sees neither the memory nor the display. -/
def Operation.isLocal : Operation → Bool
  | .clearScreen | .draw | .storeDecimal | .storeRegisters | .loadRegisters => false
  | _ => true

namespace Emulator

variable {δ δ' α : Type}

/-- With one more instruction counted. -/
def counted : Emulator δ → Emulator δ := mapMachine fun m => { m with executed := m.executed + 1 }

/-- Relations that know the processor, the key and the random source, and do not mind when both
sides change these alike or print something. -/
structure Shares (R : Emulator δ → Emulator δ' → Prop) : Prop where
  cpu : ∀ {e e'}, R e e' → e.machine.cpu = e'.machine.cpu
  key : ∀ {e e'}, R e e' → e.machine.keyboard.key = e'.machine.keyboard.key
  random : ∀ {e e'}, R e e' → e.machine.random = e'.machine.random
  withCpu : ∀ {e e'}, R e e' → ∀ c, R (e.withCpu c) (e'.withCpu c)
  withRandom : ∀ {e e'}, R e e' → ∀ source, R (e.withRandom source) (e'.withRandom source)
  counted : ∀ {e e'}, R e e' → R e.counted e'.counted
  log : ∀ {e e'}, R e e' → ∀ category message,
    R (e.mapHost (·.logged category message)) (e'.mapHost (·.logged category message))

namespace Shares

variable {R : Emulator δ → Emulator δ' → Prop} {e : Emulator δ} {e' : Emulator δ'}

theorem mapCpu (hR : Shares R) (h : R e e') (change : Cpu → Cpu) :
    R (e.mapCpu change) (e'.mapCpu change) := by
  have hchanged := hR.withCpu h (change e.machine.cpu)
  change R (e.withCpu (change e.machine.cpu)) (e'.withCpu (change e'.machine.cpu))
  rwa [← hR.cpu h]

theorem agree_mapCpu (hR : Shares R) (change : Cpu → Cpu) :
    Act.Agree R (modify (Emulator.mapCpu change)) (modify (Emulator.mapCpu change)) :=
  Act.agree_modify fun _ _ h => hR.mapCpu h change

theorem agree_onCpu (hR : Shares R) (act : Act Cpu α) : Act.Agree R (onCpu act) (onCpu act) := by
  refine Act.agree_within (fun c _ h => ?_) (fun e e' h => hR.cpu h)
    fun e e' c _ h hc => hc ▸ hR.withCpu h c
  subst h
  exact .refl _

theorem agree_tryCpu (hR : Shares R) (change : Cpu → Except Fault Cpu) :
    Act.Agree R (tryCpu change) (tryCpu change) := by
  intro e e' h
  unfold tryCpu
  rw [← hR.cpu h]
  cases change e.machine.cpu with
  | ok c => exact .ok (hR.withCpu h c)
  | error fault => exact .error h

theorem agree_waitKey (hR : Shares R) (x : Register) :
    Act.Agree R (modify (waitKey x)) (modify (waitKey x)) := by
  refine Act.agree_modify fun e e' h => ?_
  have hback := hR.mapCpu h Cpu.rewind
  unfold waitKey
  dsimp only
  rw [← hR.key h, ← hR.cpu hback]
  split
  · exact hR.log hback _ _
  · exact hR.mapCpu h _

theorem agree_loadRandom (hR : Shares R) (x : Register) (mask : Byte) :
    Act.Agree R (modify (loadRandom x mask)) (modify (loadRandom x mask)) := by
  refine Act.agree_modify fun e e' h => ?_
  have hrandom := hR.mapCpu (hR.withRandom h e.machine.random.next.2)
    (·.set x (e.machine.random.next.1 &&& mask))
  unfold loadRandom
  rw [← hR.random h]
  exact hrandom

theorem agree_complete (hR : Shares R) (row : Opcode) :
    Act.Agree R (modify (complete row)) (modify (complete row)) := by
  refine Act.agree_modify fun e e' h => ?_
  unfold complete
  split
  · exact hR.counted (hR.mapCpu h _)
  · exact hR.counted h

variable [Screen δ] [Screen δ']

theorem agree_perform (hR : Shares R) {op : Operation} (hop : op.isLocal = true) (w : Word) :
    Act.Agree R (perform op w) (perform op w) := by
  cases op
  case ret => exact hR.agree_onCpu _
  case call => exact hR.agree_tryCpu (·.call w.nnn)
  case readDelay => exact hR.agree_tryCpu (·.readDelay w.x)
  case waitKey => exact hR.agree_waitKey w.x
  case random => exact hR.agree_loadRandom w.x w.kk
  case skipIfKey =>
    refine Act.agree_modify fun e e' h => ?_
    rw [← hR.key h]
    exact hR.mapCpu h _
  case skipIfNotKey =>
    refine Act.agree_modify fun e e' h => ?_
    rw [← hR.key h]
    exact hR.mapCpu h _
  case clearScreen => cases hop
  case draw => cases hop
  case storeDecimal => cases hop
  case storeRegisters => cases hop
  case loadRegisters => cases hop
  all_goals exact hR.agree_mapCpu _

end Shares

/-- Relations that know the memory too. -/
structure SharesMemory (R : Emulator δ → Emulator δ' → Prop) : Prop extends Shares R where
  memory : ∀ {e e'}, R e e' → e.machine.memory = e'.machine.memory
  withMemory : ∀ {e e'}, R e e' → ∀ memory, R (e.withMemory memory) (e'.withMemory memory)

namespace SharesMemory

variable {R : Emulator δ → Emulator δ' → Prop}

theorem agree_tryMemory (hR : SharesMemory R) (change : Memory → Except Fault Memory) :
    Act.Agree R (tryMemory change) (tryMemory change) := by
  intro e e' h
  unfold tryMemory
  rw [← hR.memory h]
  cases change e.machine.memory with
  | ok memory => exact .ok (hR.withMemory h memory)
  | error fault => exact .error h

theorem agree_store (hR : SharesMemory R) (address : Int) (value : Byte) :
    Act.Agree R (store address value) (store address value) :=
  hR.agree_tryMemory _

theorem agree_storeDecimal (hR : SharesMemory R) (x : Register) :
    Act.Agree R (storeDecimal x) (storeDecimal x) := by
  intro e e' h
  unfold storeDecimal
  rw [Act.get_bind, Act.get_bind, ← hR.cpu h]
  refine (hR.agree_store _ _ e e' h).bind fun _ e₁ e₁' h₁ => ?_
  refine (hR.agree_store _ _ e₁ e₁' h₁).bind fun _ e₂ e₂' h₂ => ?_
  exact hR.agree_store _ _ e₂ e₂' h₂

theorem agree_storeRegister (hR : SharesMemory R) (k : Nat) :
    Act.Agree R (storeRegister k) (storeRegister k) := by
  intro e e' h
  unfold storeRegister
  rw [Act.get_bind, Act.get_bind, ← hR.cpu h]
  exact hR.agree_store _ _ e e' h

theorem agree_loadRegister (hR : SharesMemory R) (k : Nat) :
    Act.Agree R (loadRegister k) (loadRegister k) := by
  intro e e' h
  have hsame : e'.machine.memory.load (e'.machine.cpu.i + k) =
      e.machine.memory.load (e.machine.cpu.i + k) := by rw [hR.memory h, hR.cpu h]
  cases hbyte : e.machine.memory.load (e.machine.cpu.i + k) with
  | ok b =>
    rw [loadRegister_of_ok hbyte, loadRegister_of_ok (hsame.trans hbyte)]
    exact .ok (hR.mapCpu h _)
  | error fault =>
    rw [loadRegister_of_error hbyte, loadRegister_of_error (hsame.trans hbyte)]
    exact .error h

variable [Screen δ] [Screen δ']

/-- Operations that do not see the display. -/
theorem agree_perform (hR : SharesMemory R) {op : Operation} (hclear : op ≠ .clearScreen)
    (hdraw : op ≠ .draw) (w : Word) : Act.Agree R (perform op w) (perform op w) := by
  cases op
  case clearScreen => exact absurd rfl hclear
  case draw => exact absurd rfl hdraw
  case storeDecimal => exact hR.agree_storeDecimal w.x
  case storeRegisters => exact Act.agree_forM _ fun k _ => hR.agree_storeRegister k
  case loadRegisters => exact Act.agree_forM _ fun k _ => hR.agree_loadRegister k
  all_goals exact hR.toShares.agree_perform rfl w

end SharesMemory

/-! ## Executing side by side -/

variable [Screen δ] [Screen δ'] {R : Emulator δ → Emulator δ' → Prop} {e : Emulator δ}
  {e' : Emulator δ'}

/-- Words match where their operations do, once they are announced, and what completes them. -/
theorem matching_execute_of_perform (h : R e e') (htable : e.machine.table = some standardTable)
    (htable' : e'.machine.table = some standardTable) {w : Word}
    (hperform : ∀ op, w.operation? = some op →
      Matching R (perform op w (e.announce op w)) (perform op w (e'.announce op w)))
    (hcomplete : ∀ row, Act.Agree R (modify (complete row)) (modify (complete row))) :
    Matching R (execute w e) (execute w e') := by
  cases hop : w.operation? with
  | none =>
    rw [execute_of_none htable hop, execute_of_none htable' hop]
    exact .error h
  | some op =>
    rw [execute_of_operation? htable hop, execute_of_operation? htable' hop]
    exact (hperform op hop).bind fun _ => hcomplete op.row

theorem matching_execute (hR : Shares R) (h : R e e')
    (htable : e.machine.table = some standardTable)
    (htable' : e'.machine.table = some standardTable) {w : Word}
    (hperform : ∀ op, w.operation? = some op → ∀ e₁ e₁', R e₁ e₁' →
      e₁.machine = e.machine → e₁'.machine = e'.machine →
      Matching R (perform op w e₁) (perform op w e₁')) :
    Matching R (execute w e) (execute w e') := by
  refine matching_execute_of_perform h htable htable' (fun op hop => ?_) hR.agree_complete
  have hannounced : R (e.announce op w) (e'.announce op w) := by
    unfold announce
    rw [← hR.cpu h]
    exact hR.log h _ _
  exact hperform op hop _ _ hannounced rfl rfl

/-- Steps match where the word that both fetch does. -/
theorem matching_step_of_execute (h : R e e') (hfetch : e.machine.fetch = e'.machine.fetch)
    (hexecute : ∀ w, e.machine.fetch = .ok w → Matching R (execute w e) (execute w e')) :
    Matching R (step e) (step e') := by
  cases hf : e.machine.fetch with
  | error fault =>
    rw [step_of_fetch_error hf, step_of_fetch_error (hfetch ▸ hf)]
    exact .error h
  | ok w =>
    rw [step_of_fetch hf, step_of_fetch (hfetch ▸ hf)]
    exact (hexecute w hf).bind fun _ => Act.agree_pure w

/-- Steps match where the words and the operations do. -/
theorem matching_step (hR : Shares R) (h : R e e') (htable : e.machine.table = some standardTable)
    (htable' : e'.machine.table = some standardTable)
    (hfetch : e.machine.fetch = e'.machine.fetch)
    (hperform : ∀ w op, e.machine.fetch = .ok w → w.operation? = some op → ∀ e₁ e₁', R e₁ e₁' →
      e₁.machine = e.machine → e₁'.machine = e'.machine →
      Matching R (perform op w e₁) (perform op w e₁')) :
    Matching R (step e) (step e') :=
  matching_step_of_execute h hfetch fun w hf =>
    matching_execute hR h htable htable' (hperform w · hf)

end Emulator

end Chip8
