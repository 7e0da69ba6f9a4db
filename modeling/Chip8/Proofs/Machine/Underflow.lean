/-
  The stack pointer along runs. `outstanding` counts the calls of a run that have no return yet:
  calls less returns, among the instructions that succeeded since the last reset. The stack pointer
  is this number (`isLevel_run`), until a return fails: then it lies below -16, where no call and
  no return succeeds, and stays there until a reset. Sixteen calls fill the stack, and the next
  one is refused. A return without a call is not refused, as the slot below the first one is the
  last one: it goes to what that slot holds (`stack_of_run`, `exists_step_underflow`).
-/
import Chip8.Proofs.Machine.Nesting
import Chip8.Proofs.Machine.RunBounds

namespace Chip8

/-! ## Counting calls and returns -/

namespace Moment

/-- The word that the event executed with success, if it did. -/
def word? (m : Moment Display) : Option Word :=
  match m.answer with
  | .ok w? => w?
  | .error _ => none

/-- The calls less the returns that succeeded since the last reset. -/
def outstanding (moments : List (Moment Display)) : Int :=
  openCalls ((sinceReset moments).filterMap word?)

theorem outstanding_append (moments : List (Moment Display)) (m : Moment Display) :
    outstanding (moments ++ [m]) =
      if m.event = .reset then 0 else outstanding moments + openCalls m.word?.toList := by
  unfold outstanding
  rw [sinceReset_append]
  split
  · rfl
  · rw [List.filterMap_append, openCalls_append]
    cases hw : m.word? <;> simp [hw]

theorem word?_step (e : Emulator Display) :
    (⟨.step, e⟩ : Moment Display).word? = (answerOf (Emulator.step e)).toOption := by
  unfold word?
  rw [Emulator.answer_step]
  cases answerOf (Emulator.step e) <;> rfl

/-- Only steps execute words. -/
theorem word?_of_ne_step {event : Event} (h : event ≠ .step) (e : Emulator Display) :
    (⟨event, e⟩ : Moment Display).word? = none := by
  have hquiet (act : Act (Emulator Display) Unit)
      (hact : event.act = (act >>= fun _ => pure none)) :
      (⟨event, e⟩ : Moment Display).word? = none := by
    unfold word? answer
    rw [hact, Act.answerOf_bind_pure]
    cases answerOf (act e) <;> rfl
  cases event
  case step => exact absurd rfl h
  all_goals exact hquiet _ rfl

end Moment

namespace Emulator

open Moment

variable {e e' : Emulator Display} {fr : Display} {n : Int} {w : Word} {fault : Fault}

/-- The stack pointer is the number `n` of calls outstanding, or a return has failed. -/
def IsLevel (n : Int) (e : Emulator Display) : Prop :=
  (e.machine.cpu.sp = n ∧ -16 ≤ n ∧ n ≤ 16) ∨ (n = -16 ∧ e.machine.cpu.sp < -16)

theorem IsLevel.sp_le (h : e.IsLevel n) : e.machine.cpu.sp ≤ 16 := by
  unfold IsLevel at h
  omega

theorem IsLevel.of_sp_eq (h : e.IsLevel n) (hsp : e'.machine.cpu.sp = e.machine.cpu.sp) :
    e'.IsLevel n := by
  unfold IsLevel at h ⊢
  omega

/-! ## What a step does to the level -/

theorem isLevel_of_step_ok (htable : e.machine.table = some standardTable) (h : e.IsLevel n)
    (hstep : step e = .ok w e') : e'.IsLevel (n + w.stackChange) := by
  have hexecute := (execute_of_step_ok hstep).2
  have hsp := sp_of_execute htable hexecute
  by_cases hcall : w.IsCall
  · obtain ⟨slot, hslot, -⟩ := of_execute_call htable hcall hexecute
    have hrange := cell?_isSome_iff.mp (Option.isSome_of_eq_some hslot)
    rw [hcall.stackChange] at hsp ⊢
    unfold IsLevel at h ⊢
    omega
  · by_cases hret : w = 0x00EE
    · subst hret
      obtain ⟨slot, hslot, -⟩ := of_execute_ret htable hexecute
      have hrange := cell?_isSome_iff.mp (Option.isSome_of_eq_some hslot)
      rw [Word.stackChange_ret] at hsp ⊢
      unfold IsLevel at h ⊢
      omega
    · rw [Word.stackChange_other hcall hret, Int.add_zero] at hsp ⊢
      exact h.of_sp_eq hsp

/-- A return that fails finds the stack pointer at -16 or below, and takes it further down. -/
theorem isLevel_of_ret_error (htable : e.machine.table = some standardTable) (h : e.IsLevel n)
    (hret : execute 0x00EE e = .error fault e') : e'.IsLevel n := by
  cases hfault : e.machine.cpu.retFault? with
  | none =>
    obtain ⟨slot, hslot⟩ := Cpu.ret_of_none h.sp_le hfault
    rw [execute_of_ret_ok htable hslot] at hret
    cases hret
  | some _ =>
    rw [execute_of_ret_error htable (Cpu.ret_of_retFault? hfault)] at hret
    cases hret
    have hsp : e.machine.cpu.sp ≤ -16 := by
      by_contra hlow
      rw [Cpu.retFault?, if_neg hlow] at hfault
      cases hfault
    unfold IsLevel at h ⊢
    change (e.machine.cpu.sp - 1 = n ∧ _) ∨ (n = -16 ∧ e.machine.cpu.sp - 1 < -16)
    omega

theorem isLevel_of_call_error (htable : e.machine.table = some standardTable) (h : e.IsLevel n)
    (hw : w.IsCall) (hexecute : execute w e = .error fault e') : e'.IsLevel n := by
  cases hcall : e.machine.cpu.call w.nnn with
  | ok c =>
    rw [execute_of_call_ok htable hw hcall] at hexecute
    cases hexecute
  | error _ =>
    rw [execute_of_call_error htable hw hcall] at hexecute
    cases hexecute
    exact h.of_sp_eq rfl

theorem isLevel_of_execute_error (htable : e.machine.table = some standardTable) (h : e.IsLevel n)
    (hexecute : execute w e = .error fault e') : e'.IsLevel n := by
  cases hop : w.operation? with
  | none =>
    rw [execute_of_none htable hop] at hexecute
    cases hexecute
    exact h
  | some op =>
    by_cases hret : op = .ret
    · subst hret
      obtain rfl := Word.operation?_eq_ret_iff.mp hop
      exact isLevel_of_ret_error htable h hexecute
    · by_cases hcall : op = .call
      · have hw : w.IsCall := Word.operation?_eq_call_iff.mp (hcall ▸ hop)
        exact isLevel_of_call_error htable h hw hexecute
      · have honly := changesOnly_execute htable hop
        rw [hexecute] at honly
        exact h.of_sp_eq (honly .stackPointer (not_or_intro hcall hret))

theorem isLevel_of_step_error (htable : e.machine.table = some standardTable) (h : e.IsLevel n)
    (hstep : step e = .error fault e') : e'.IsLevel n := by
  obtain ⟨-, rfl⟩ | ⟨w, -, hexecute⟩ := of_step_error hstep
  · exact h
  · exact isLevel_of_execute_error htable h hexecute

/-! ## The level along runs -/

theorem isLevel_after (htable : e.machine.table = some standardTable)
    {moments : List (Moment Display)} (h : e.IsLevel (outstanding moments)) (event : Event) :
    (e.after event).IsLevel (outstanding (moments ++ [⟨event, e⟩])) := by
  rw [outstanding_append]
  by_cases hreset : event = .reset
  · subst hreset
    have hsp : (e.after .reset).machine.cpu.sp = 0 := by rw [(cpu_after_reset e).1]
    rw [if_pos rfl]
    exact Or.inl ⟨hsp, by decide⟩
  · rw [if_neg hreset]
    by_cases hstep : event = .step
    · subst hstep
      rw [after_step, word?_step]
      cases hr : step e with
      | ok w e' =>
        have hnext := isLevel_of_step_ok htable h hr
        change e'.IsLevel (_ + openCalls [w])
        rwa [openCalls, openCalls, Int.add_zero]
      | error fault e' =>
        have hsame := isLevel_of_step_error htable h hr
        change e'.IsLevel (_ + openCalls [])
        rwa [openCalls, Int.add_zero]
    · rw [word?_of_ne_step hstep]
      change (e.after event).IsLevel (_ + openCalls [])
      rw [openCalls, Int.add_zero]
      exact h.of_sp_eq (sp_executed_after e hstep hreset).1

theorem isLevel_run (h : e.IsSound 0x1002 fr) (hsp : e.machine.cpu.sp = 0) (events : List Event) :
    (e.run events).IsLevel (outstanding (e.moments events)) := by
  have hstart : e.IsLevel (outstanding []) := Or.inl ⟨hsp, by decide⟩
  exact sound_history (P := fun moments s => s.IsLevel (outstanding moments)) h hstart
    (fun _ _ event hs hlevel => isLevel_after hs.bounded.table hlevel event) events

end Emulator

/-! ## Both ends of the stack -/

/-- The slot below the first one is the last one. -/
theorem Cpu.ret_of_sp_eq_zero {c : Cpu} (h : c.sp = 0) :
    ret c = .ok () { c with sp := -1, pc := readCell c.stack 15 } := by
  unfold ret
  rw [h]
  rfl

theorem Cpu.call_of_sp_eq_sixteen {c : Cpu} (h : c.sp = 16) (address : Nat) :
    c.call address = .error .stackWrite := by
  apply call_of_callFault?
  rw [callFault?, if_pos (Or.inr h), h]
  rfl

section

variable {config : MachineConfig Display} {host host' : Host} {start : Emulator Display}

/-- In every run the stack pointer is the number of calls outstanding, unless a return failed.
Without a call outstanding a return succeeds all the same, and with sixteen of them every call is
refused. -/
theorem stack_of_run (h : Machine.create config host = .ok start host') (events : List Event) :
    let e := start.run events
    let n := Moment.outstanding (start.moments events)
    ((e.machine.cpu.sp = n ∧ -16 ≤ n ∧ n ≤ 16) ∨ (n = -16 ∧ e.machine.cpu.sp < -16)) ∧
    (n = 0 → ∃ e', Emulator.execute 0x00EE e = .ok () e' ∧ e'.machine = { e.machine with
      cpu := { e.machine.cpu with sp := -1, pc := readCell e.machine.cpu.stack 15 }
      executed := e.machine.executed + 1 }) ∧
    (n = 16 → ∀ w : Word, w.IsCall → ∃ e', Emulator.execute w e = .error .stackWrite e' ∧
      e'.machine = e.machine) := by
  intro e n
  have hfresh := Machine.fresh_of_create h
  have hlevel : e.IsLevel n :=
    Emulator.isLevel_run hfresh.isSound (by rw [hfresh.cpu]) events
  have htable : e.machine.table = some standardTable :=
    (Emulator.sound_run hfresh.isSound events).bounded.table
  refine ⟨hlevel, fun hn => ?_, fun hn w hw => ?_⟩
  · have hsp : e.machine.cpu.sp = 0 := by
      unfold Emulator.IsLevel at hlevel
      omega
    exact ⟨_, Emulator.execute_of_ret_ok htable (Cpu.ret_of_sp_eq_zero hsp), rfl⟩
  · have hsp : e.machine.cpu.sp = 16 := by
      unfold Emulator.IsLevel at hlevel
      omega
    exact ⟨_, Emulator.execute_of_call_error htable hw (Cpu.call_of_sp_eq_sixteen hsp w.nnn), rfl⟩

end

/-- A machine whose program starts with a return. -/
theorem exists_lone_return : ∃ (e : Emulator Display) (host' : Host), Machine.create
      { display := Display.bitmap (FrameBuffer.blank 8 4), rom := [0x00, 0xEE] } {} = .ok e host' ∧
    e.machine.cpu = {} ∧ e.machine.table = some standardTable ∧
    e.machine.fetch = .ok 0x00EE := by
  obtain ⟨e, host', h, hmemory, -⟩ := Machine.exists_create
    { display := Display.bitmap (FrameBuffer.blank 8 4), rom := [0x00, 0xEE] } {} rfl rfl rfl
    (by decide)
  have hfresh := Machine.fresh_of_create h
  exact ⟨e, host', h, hfresh.cpu, hfresh.table, hfresh.fetch hmemory (by decide) (by decide)⟩

/-- It holds at the start of a run. -/
theorem stack_of_run_start : ∃ (e : Emulator Display) (host' : Host), Machine.create
      { display := Display.bitmap (FrameBuffer.blank 8 4), rom := [0x00, 0xEE] } {} = .ok e host' ∧
    Moment.outstanding (e.moments []) = 0 ∧
    ∃ e', Emulator.execute 0x00EE e = .ok () e' ∧ e'.machine.cpu.sp = -1 := by
  obtain ⟨e, host', h, -⟩ := exists_lone_return
  have hnone : Moment.outstanding (e.moments []) = 0 := rfl
  obtain ⟨-, hret, -⟩ := stack_of_run h []
  obtain ⟨e', hexecute, hmachine⟩ := hret hnone
  exact ⟨e, host', h, hnone, e', hexecute, by rw [hmachine]⟩

/-- The step of such a machine succeeds, with no call outstanding, and takes the stack pointer below
zero. -/
theorem exists_step_underflow : ∃ (e : Emulator Display) (host' : Host), Machine.create
      { display := Display.bitmap (FrameBuffer.blank 8 4), rom := [0x00, 0xEE] } {} = .ok e host' ∧
    Moment.outstanding (e.moments []) = 0 ∧ e.machine.cpu.sp = 0 ∧
    ∃ e', Emulator.step e = .ok 0x00EE e' ∧ e'.machine.cpu.sp = -1 ∧ e'.machine.cpu.pc = 0 := by
  obtain ⟨e, host', h, hcpu, htable, hfetch⟩ := exists_lone_return
  have hret : Cpu.ret e.machine.cpu = .ok () { sp := -1, pc := 0 } := by
    rw [hcpu]
    rfl
  have hexecute := Emulator.execute_of_ret_ok htable hret
  exact ⟨e, host', h, rfl, by rw [hcpu], _,
    (Emulator.step_of_fetch hfetch).trans (Act.bind_ok hexecute), rfl, rfl⟩

end Chip8
