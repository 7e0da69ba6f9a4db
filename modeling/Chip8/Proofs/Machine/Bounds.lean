/-
  The bounds that hold all along. Every event keeps a machine bounded (`keeps_event`): an
  instruction is fetched at most at `0xFFE`, its operation leaves the program counter at most
  at `0x1000`, and moving on adds two. The keys, the ticks and the programs from outside touch
  bytes only. So every state of every run of a machine that was set up is bounded
  (`sound_run`), whether the events on the way succeed or fail, and an induction over a history
  may count on it (`sound_history`). `keeps_perform` is about what operations leave alone
  altogether, returns apart.
-/
import Chip8.Proofs.Machine.History
import Chip8.Proofs.Machine.Outcome

namespace Chip8

namespace Machine

variable {m : Machine Display} {limit limit' : Int}

theorem IsBounded.withCpu (hm : m.IsBounded limit) {c : Cpu} (hc : c.IsBounded limit') :
    ({ m with cpu := c } : Machine Display).IsBounded limit' :=
  { hm with cpu := hc }

theorem IsBounded.mono (hm : m.IsBounded limit) (h : limit ≤ limit') : m.IsBounded limit' :=
  hm.withCpu (hm.cpu.mono h)

end Machine

namespace Emulator

variable {e : Emulator Display} {limit : Int}

/-- A bounded machine with the display of a frame. -/
structure IsSound (limit : Int) (frame : Display) (e : Emulator Display) : Prop where
  bounded : e.machine.IsBounded limit
  frame : e.machine.display.frame = frame

variable {fr : Display}

theorem IsSound.withCpu (h : e.IsSound limit fr) {c : Cpu} {limit' : Int}
    (hc : c.IsBounded limit') : (e.withCpu c).IsSound limit' fr where
  bounded := h.bounded.withCpu hc
  frame := h.frame

/-! ## Going through memory and drawing -/

/-- Properties that do not see the bytes, the registers and the lit cells. -/
structure IsStable (kept : Emulator Display → Prop) : Prop where
  memory : ∀ e memory, kept e → memory.size = e.machine.memory.size → kept (e.withMemory memory)
  register : ∀ e r b, kept e → kept (e.withCpu (e.machine.cpu.set r b))
  stage : ∀ e s, kept e → s.1.frame = e.machine.display.frame → kept (e.withStage s)

theorem stable_isSound (limit : Int) (fr : Display) : IsStable (IsSound limit fr) where
  memory _ _ h hsize := ⟨{ h.bounded with memory := hsize.trans h.bounded.memory }, h.frame⟩
  register _ _ _ h := h.withCpu (h.bounded.cpu.set _ _)
  stage _ _ h hframe := ⟨{ h.bounded with }, hframe.trans h.frame⟩

variable {kept : Emulator Display → Prop}

theorem keeps_tryMemory (change : Memory → Except Fault Memory)
    (h : ∀ e memory, kept e → change e.machine.memory = .ok memory → kept (e.withMemory memory)) :
    Act.Keeps kept (tryMemory change : Act (Emulator Display) Unit) := by
  intro e he
  unfold tryMemory
  cases hm : change e.machine.memory with
  | error fault => exact he
  | ok memory => exact h e memory he hm

theorem keeps_tryCpu (change : Cpu → Except Fault Cpu)
    (h : ∀ e c, kept e → change e.machine.cpu = .ok c → kept (e.withCpu c)) :
    Act.Keeps kept (tryCpu change : Act (Emulator Display) Unit) := by
  intro e he
  unfold tryCpu
  cases hc : change e.machine.cpu with
  | error fault => exact he
  | ok c => exact h e c he hc

theorem keeps_store (hk : IsStable kept) (address : Int) (value : Byte) :
    Act.Keeps kept (store address value) :=
  keeps_tryMemory (·.store address value) fun e memory h hm =>
    hk.memory e memory h (Memory.size_store hm)

theorem keeps_loadBlock (hk : IsStable kept) (start : Nat) (data : List Byte) :
    Act.Keeps kept (tryMemory (·.loadBlock start data)) :=
  keeps_tryMemory (·.loadBlock start data) fun e memory h hm =>
    hk.memory e memory h (Memory.size_loadBlock hm)

theorem keeps_storeDecimal (hk : IsStable kept) (x : Register) :
    Act.Keeps kept (storeDecimal x) :=
  Act.keeps_bind Act.keeps_get fun _ => Act.keeps_bind (keeps_store hk _ _) fun _ =>
    Act.keeps_bind (keeps_store hk _ _) fun _ => keeps_store hk _ _

theorem keeps_storeRegisters (hk : IsStable kept) (x : Register) :
    Act.Keeps kept (eachRegister x storeRegister) :=
  Act.keeps_forM _ fun _ _ => Act.keeps_bind Act.keeps_get fun _ => keeps_store hk _ _

theorem keeps_loadRegisters (hk : IsStable kept) (x : Register) :
    Act.Keeps kept (eachRegister x loadRegister) := by
  refine Act.keeps_forM _ fun k _ e h => ?_
  unfold loadRegister
  cases e.machine.memory.load (e.machine.cpu.i + k) with
  | error fault => exact h
  | ok b => exact hk.register e _ b h

theorem keeps_drawSprite (hk : IsStable kept) (x y : Register) (count : Nat) :
    Act.Keeps kept (drawSprite x y count) := by
  intro e h
  have hframe := Sprite.keeps_frame_draw e.machine.hint
    (fun row => e.machine.memory.load (e.machine.cpu.i + row)) (e.machine.cpu.get x).toNat
    (e.machine.cpu.get y).toNat count e.machine.display.frame ⟨e.stage, false⟩ rfl
  unfold drawSprite
  dsimp only
  rw [stateOf_resultWithin]
  exact hk.register _ flagRegister _ (hk.stage e _ h hframe)

/-! ## What operations keep -/

/-- Properties that see nothing of the processor but a stack pointer that must not fall. -/
structure IsSteady (kept : Emulator Display → Prop) : Prop extends IsStable kept where
  cpu : ∀ e c, kept e → e.machine.cpu.sp ≤ c.sp → kept (e.withCpu c)
  random : ∀ e source, kept e → kept (e.withRandom source)
  log : ∀ e category message, kept e → kept (e.mapHost (·.logged category message))

/-- Only a return takes from the stack pointer. -/
theorem keeps_perform (hk : IsSteady kept) {op : Operation} (hop : op ≠ .ret) (w : Word) :
    Act.Keeps kept (perform op w) := by
  intro e h
  have hsame (c : Cpu) (hsp : c.sp = e.machine.cpu.sp) : kept (e.withCpu c) :=
    hk.cpu e c h hsp.ge
  cases op
  case ret => exact absurd rfl hop
  case clearScreen => exact hk.stage e _ h (Display.frame_clear e.stage)
  case call =>
    refine keeps_tryCpu (·.call w.nnn) (fun e c h hc => hk.cpu e c h ?_) e h
    have hsp := Cpu.sp_of_call hc
    omega
  case readDelay =>
    exact keeps_tryCpu (·.readDelay w.x)
      (fun e c h hc => hk.cpu e c h (Cpu.sp_of_readDelay hc).ge) e h
  case skipIfEqual => exact hsame _ (Cpu.sp_skipIf ..)
  case skipIfNotEqual => exact hsame _ (Cpu.sp_skipIf ..)
  case skipIfKey => exact hsame _ (Cpu.sp_skipIf ..)
  case skipIfNotKey => exact hsame _ (Cpu.sp_skipIf ..)
  case waitKey =>
    change kept (waitKey w.x e)
    unfold waitKey
    dsimp only
    split
    · exact hk.log _ _ _ (hsame e.machine.cpu.rewind rfl)
    · exact hsame (e.machine.cpu.set w.x _) rfl
  case random =>
    have hrandom := hk.random e e.machine.random.next.2 h
    refine hk.cpu (e.withRandom e.machine.random.next.2) _ hrandom ?_
    exact le_rfl
  case storeDecimal => exact keeps_storeDecimal hk.toIsStable w.x e h
  case storeRegisters => exact keeps_storeRegisters hk.toIsStable w.x e h
  case loadRegisters => exact keeps_loadRegisters hk.toIsStable w.x e h
  case draw => exact keeps_drawSprite hk.toIsStable w.x w.y w.n e h
  all_goals
    refine hsame _ ?_
    rfl

/-! ## One instruction -/

/-- Every operation but waiting for a key leaves the program counter near enough to move on. -/
theorem sound_perform (h : e.IsSound 0xFFE fr) {op : Operation} (hop : op ≠ .waitKey) (w : Word) :
    (stateOf (perform op w e)).IsSound 0x1000 fr := by
  have hc := h.bounded.cpu
  have hmono : e.IsSound 0x1000 fr := ⟨h.bounded.mono (by decide), h.frame⟩
  have hset (c : Cpu) (hc : c.IsBounded 0xFFE) : (e.withCpu c).IsSound 0x1000 fr :=
    h.withCpu (hc.mono (by decide))
  cases op
  case waitKey => exact absurd rfl hop
  case clearScreen => exact ⟨{ hmono.bounded with }, (Display.frame_clear e.stage).trans h.frame⟩
  case ret =>
    change (stateOf (onCpu Cpu.ret e)).IsSound 0x1000 fr
    rw [onCpu_eq, stateOf_resultWithin]
    cases hret : e.machine.cpu.retFault? with
    | some fault =>
      rw [Cpu.ret_of_retFault? hret]
      exact hset _ hc.pop
    | none =>
      obtain ⟨slot, hslot⟩ := Cpu.ret_of_none hc.sp_le hret
      rw [hslot]
      exact h.withCpu (hc.ret slot)
  case jump => exact h.withCpu (hc.jump w.nnn_lt)
  case call =>
    cases hcall : e.machine.cpu.callFault? with
    | some fault =>
      rw [show perform .call w e = _ from
        tryCpu_of_error (·.call w.nnn) (Cpu.call_of_callFault? w.nnn hcall)]
      exact hmono
    | none =>
      obtain ⟨slot, hslot⟩ := Cpu.call_of_none w.nnn hc.sp_le hcall
      rw [show perform .call w e = _ from tryCpu_of_ok (·.call w.nnn) hslot]
      refine h.withCpu (hc.call le_rfl w.nnn_lt slot ?_)
      unfold Cpu.callFault? at hcall
      split at hcall
      · cases hcall
      · have := hc.sp_le
        omega
  case skipIfEqual => exact h.withCpu (hc.skipIf (by decide) _)
  case skipIfNotEqual => exact h.withCpu (hc.skipIf (by decide) _)
  case skipIfKey => exact h.withCpu (hc.skipIf (by decide) _)
  case skipIfNotKey => exact h.withCpu (hc.skipIf (by decide) _)
  case loadIndex =>
    exact hset _ (hc.withIndex (by omega) (by have := w.nnn_lt; omega))
  case addIndex => exact hset _ (hc.addIndex w.x)
  case pointAtGlyph => exact hset _ (hc.pointAtGlyph w.x)
  case setDelay => exact hset _ (hc.setDelay w.x)
  case setSound => exact hset _ (hc.setSound w.x)
  case readDelay =>
    rw [show perform .readDelay w e = _ from
      tryCpu_of_ok (·.readDelay w.x) (Cpu.readDelay_of_isBounded hc w.x)]
    exact hset _ (hc.set _ _)
  case storeDecimal => exact keeps_storeDecimal (stable_isSound _ _) w.x e hmono
  case storeRegisters => exact keeps_storeRegisters (stable_isSound _ _) w.x e hmono
  case loadRegisters => exact keeps_loadRegisters (stable_isSound _ _) w.x e hmono
  case draw => exact keeps_drawSprite (stable_isSound _ _) w.x w.y w.n e hmono
  case random => exact ⟨{ hmono.bounded with cpu := hmono.bounded.cpu.withV _ }, h.frame⟩
  all_goals exact hset _ (hc.withV _)

theorem sound_complete (h : e.IsSound 0x1000 fr) (row : Opcode) :
    (complete row e).IsSound 0x1002 fr := by
  unfold complete
  split
  · exact ⟨{ h.bounded with cpu := h.bounded.cpu.advance le_rfl }, h.frame⟩
  · exact ⟨{ h.bounded with cpu := h.bounded.cpu.mono (by decide) }, h.frame⟩

/-- Waiting for a key goes back, and moving on leads to the same place again. -/
theorem sound_waitKey (h : e.IsSound 0xFFE fr) (w : Word) :
    (complete Operation.waitKey.row (waitKey w.x e)).IsSound 0x1002 fr := by
  have hc := h.bounded.cpu
  unfold waitKey
  dsimp only
  split
  · have hback : e.machine.cpu.rewind.advance.IsBounded 0x1002 := by
      rw [hc.advance_rewind (by decide)]
      exact hc.mono (by decide)
    rw [complete, if_pos (show Operation.waitKey.row.advances = true from rfl)]
    exact ⟨{ h.bounded with cpu := hback }, h.frame⟩
  · exact sound_complete (h.withCpu ((hc.set w.x _).mono (by decide))) _

theorem sound_execute (h : e.IsSound 0xFFE fr) (w : Word) :
    (stateOf (execute w e)).IsSound 0x1002 fr := by
  cases hop : w.operation? with
  | none =>
    rw [execute_of_none h.bounded.table hop]
    exact ⟨h.bounded.mono (by decide), h.frame⟩
  | some op =>
    rw [execute_of_operation? h.bounded.table hop]
    have hsound : (e.announce op w).IsSound 0xFFE fr := ⟨h.bounded, h.frame⟩
    by_cases hwait : op = .waitKey
    · subst hwait
      exact sound_waitKey hsound w
    · exact Act.stateOf_bind_modify (sound_perform hsound hwait w)
        (fun _ hperform => sound_complete hperform op.row)
        (fun _ hperform => ⟨hperform.bounded.mono (by decide), hperform.frame⟩)

theorem keeps_step : Act.Keeps (IsSound 0x1002 fr) step := by
  intro e h
  cases hf : e.machine.fetch with
  | error fault =>
    rw [step_of_fetch_error hf]
    exact h
  | ok w =>
    rw [stateOf_step_of_fetch hf]
    exact sound_execute ⟨h.bounded.of_fetch hf, h.frame⟩ w

/-! ## Events from outside -/

theorem keeps_loadRom (data : List Byte) : Act.Keeps (IsSound limit fr) (loadRom data) :=
  Act.keeps_bind (keeps_loadBlock (stable_isSound _ _) _ _) fun _ =>
    Act.keeps_modify fun _ h => ⟨h.bounded, h.frame⟩

theorem keeps_reset : Act.Keeps (IsSound 0x1002 fr) reset := by
  refine Act.keeps_bind (Act.keeps_modify fun e h => ?_) fun _ =>
    Act.keeps_bind (Act.keeps_modify fun e h => ?_) fun _ =>
      keeps_loadBlock (stable_isSound _ _) _ _
  · exact ⟨{ h.bounded with cpu := Cpu.IsBounded.start.mono (by decide) }, h.frame⟩
  · exact ⟨{ h.bounded with }, (Display.frame_clear e.stage).trans h.frame⟩

theorem keeps_onKeyboard {α : Type} (act : Act (Keyboard × Host) α) :
    Act.Keeps (IsSound limit fr) (onKeyboard act) := by
  intro e h
  rw [stateOf_onKeyboard]
  exact ⟨{ h.bounded with }, h.frame⟩

theorem sound_tick (h : e.IsSound limit fr) : e.tick.IsSound limit fr :=
  ⟨{ h.bounded with cpu := h.bounded.cpu.tick }, h.frame⟩

/-- Every event keeps a machine bounded, whether it succeeds or fails. -/
theorem keeps_event (event : Event) :
    Act.Keeps (IsSound 0x1002 fr) (event.act : Act (Emulator Display) (Option Word)) := by
  cases event with
  | step => exact Act.keeps_bind keeps_step fun _ => Act.keeps_pure _
  | tick =>
    exact Act.keeps_bind (Act.keeps_modify fun _ h => sound_tick h) fun _ => Act.keeps_pure _
  | press name => exact Act.keeps_bind (keeps_onKeyboard _) fun _ => Act.keeps_pure _
  | release name => exact Act.keeps_bind (keeps_onKeyboard _) fun _ => Act.keeps_pure _
  | setKey code =>
    exact Act.keeps_bind (Act.keeps_modify fun _ h => ⟨{ h.bounded with }, h.frame⟩) fun _ =>
      Act.keeps_pure _
  | reset => exact Act.keeps_bind keeps_reset fun _ => Act.keeps_pure _
  | loadRom data => exact Act.keeps_bind (keeps_loadRom data) fun _ => Act.keeps_pure _

theorem sound_run (h : e.IsSound 0x1002 fr) (events : List Event) :
    (e.run events).IsSound 0x1002 fr :=
  run_induction h (fun s event hs => keeps_event event s hs) events

/-- What holds at the start and goes on holding on sound states holds of every history. -/
theorem sound_history {P : List (Moment Display) → Emulator Display → Prop}
    (h : e.IsSound 0x1002 fr) (hstart : P [] e)
    (hnext : ∀ moments s event, s.IsSound 0x1002 fr → P moments s →
      P (moments ++ [⟨event, s⟩]) (s.after event))
    (events : List Event) : P (e.moments events) (e.run events) := by
  suffices hboth : (e.run events).IsSound 0x1002 fr ∧ P (e.moments events) (e.run events) from
    hboth.2
  refine history_induction (P := fun moments s => s.IsSound 0x1002 fr ∧ P moments s)
    ⟨h, hstart⟩ (fun moments s event hs => ?_) events
  exact ⟨keeps_event event s hs.1, hnext moments s event hs.1 hs.2⟩

end Emulator

end Chip8
