/-
  What the timers are seen by. Two machines stand beside each other (`Beside`) if they are the same
  apart from the timers, the keys and the audio, on hosts that were asked for the same paintings.
  Only the instruction that reads the delay timer looks at a timer, so a step on equal keys
  answers the same on both and leaves them beside each other, unless it is this instruction and
  the delay timers differ (`Beside.step`).
-/
import Chip8.Proofs.Display.Paintings
import Chip8.Proofs.Machine.Agree
import Chip8.Proofs.Machine.History

namespace Chip8

namespace Cpu

/-- The processor with other timers. -/
def withTimers (c : Cpu) (delay sound : Int) : Cpu := { c with delay, sound }

/-- The same processor apart from the timers, with related delay timers. -/
structure SameBut (T : Int → Int → Prop) (c c' : Cpu) : Prop where
  rest : c' = c.withTimers c'.delay c'.sound
  delay : T c.delay c'.delay

/-- Changes that neither look at the timers nor set them. -/
def IsUntimed (change : Cpu → Cpu) : Prop :=
  ∀ c delay sound, change (c.withTimers delay sound) = (change c).withTimers delay sound ∧
    (change c).delay = c.delay

variable {T : Int → Int → Prop} {c c' : Cpu}

theorem SameBut.map (h : SameBut T c c') {change : Cpu → Cpu} (hchange : IsUntimed change) :
    SameBut T (change c) (change c') := by
  obtain ⟨hsame, hdelay⟩ := hchange c c'.delay c'.sound
  have hrest := h.rest
  have hafter : change c' = (change c).withTimers c'.delay c'.sound := by
    rw [← hsame, ← hrest]
  refine ⟨by rw [hafter]; rfl, ?_⟩
  rw [hafter, hdelay]
  exact h.delay

theorem untimed_skipIf {condition : Cpu → Bool}
    (h : ∀ c delay sound, condition (c.withTimers delay sound) = condition c) :
    IsUntimed fun c => c.skipIf (condition c) := by
  intro c delay sound
  dsimp only
  rw [h]
  cases condition c <;> exact ⟨rfl, rfl⟩

theorem call_withTimers (c : Cpu) (delay sound : Int) (address : Nat) :
    (c.withTimers delay sound).call address =
      (c.call address).map (·.withTimers delay sound) := by
  change (cellAt 16 c.sp .stackWrite >>= fun slot => _) = _
  unfold call
  cases cellAt 16 c.sp .stackWrite <;> rfl

theorem ret_withTimers (c : Cpu) (delay sound : Int) :
    ret (c.withTimers delay sound) = resultWithin (·.withTimers delay sound) (ret c) := by
  unfold ret
  dsimp only [withTimers]
  cases cellAt 16 (c.sp - 1) .stackRead <;> rfl

end Cpu

namespace Emulator

/-- Machines with the standard table that are the same apart from the timers, the keys and the
audio, on hosts that were asked for the same paintings. The delay timers are related. -/
structure Beside (T : Int → Int → Prop) (e e' : Emulator Display) : Prop where
  cpu : e.machine.cpu.SameBut T e'.machine.cpu
  executed : e'.machine.executed = e.machine.executed
  memory : e'.machine.memory = e.machine.memory
  random : e'.machine.random = e.machine.random
  hint : e'.machine.hint = e.machine.hint
  stage : Display.SameStage e.stage e'.stage
  table : e.machine.table = some standardTable
  table' : e'.machine.table = some standardTable

namespace Beside

variable {T : Int → Int → Prop} {e e' : Emulator Display}

theorem get (h : e.Beside T e') (r : Register) : e'.machine.cpu.get r = e.machine.cpu.get r := by
  rw [h.cpu.rest]
  rfl

theorem i (h : e.Beside T e') : e'.machine.cpu.i = e.machine.cpu.i := by
  rw [h.cpu.rest]
  rfl

theorem fetch (h : e.Beside T e') : e.machine.fetch = e'.machine.fetch := by
  rw [Machine.fetch, Machine.fetch, h.memory, h.cpu.rest]
  rfl

theorem withCpu (h : e.Beside T e') {c c' : Cpu} (hc : c.SameBut T c') :
    (e.withCpu c).Beside T (e'.withCpu c') :=
  { h with cpu := hc }

theorem mapCpu (h : e.Beside T e') {change : Cpu → Cpu} (hchange : Cpu.IsUntimed change) :
    (e.mapCpu change).Beside T (e'.mapCpu change) :=
  { h with cpu := h.cpu.map hchange }

/-- What is printed does not matter. -/
theorem log (h : e.Beside T e') (category category' message message' : Text) :
    (e.mapHost (·.logged category message)).Beside T
      (e'.mapHost (·.logged category' message')) := by
  refine { h with stage := ⟨h.stage.1, ?_⟩ }
  change (e.host.logged category message).paintings = (e'.host.logged category' message').paintings
  rw [Host.paintings_log, Host.paintings_log]
  exact h.stage.2

theorem tryMemory (h : e.Beside T e') (change : Memory → Except Fault Memory) :
    Matching (Beside T) (tryMemory change e) (tryMemory change e') := by
  unfold Emulator.tryMemory
  rw [h.memory]
  cases change e.machine.memory with
  | ok memory => exact .ok { h with memory := rfl }
  | error fault => exact .error h

/-! ## Operations -/

theorem call (h : e.Beside T e') (address : Nat) :
    Matching (Beside T) (tryCpu (·.call address) e) (tryCpu (·.call address) e') := by
  have hsame := Cpu.call_withTimers e.machine.cpu e'.machine.cpu.delay e'.machine.cpu.sound address
  rw [← h.cpu.rest] at hsame
  unfold tryCpu
  dsimp only
  rw [hsame]
  cases hc : e.machine.cpu.call address with
  | error fault => exact .error h
  | ok c =>
    obtain ⟨slot, -, rfl⟩ := Cpu.of_call_ok hc
    exact .ok (h.withCpu ⟨rfl, h.cpu.delay⟩)

theorem ret (h : e.Beside T e') : Matching (Beside T) (onCpu Cpu.ret e) (onCpu Cpu.ret e') := by
  have hsame := Cpu.ret_withTimers e.machine.cpu e'.machine.cpu.delay e'.machine.cpu.sound
  rw [← h.cpu.rest] at hsame
  rw [onCpu_eq, onCpu_eq, hsame]
  unfold Cpu.ret
  dsimp only
  cases cellAt 16 (e.machine.cpu.sp - 1) .stackRead with
  | ok slot => exact .ok (h.withCpu ⟨rfl, h.cpu.delay⟩)
  | error fault => exact .error (h.withCpu ⟨rfl, h.cpu.delay⟩)

theorem readDelay (h : e.Beside T e') (hdelay : e.machine.cpu.delay = e'.machine.cpu.delay)
    (x : Register) :
    Matching (Beside T) (tryCpu (·.readDelay x) e) (tryCpu (·.readDelay x) e') := by
  unfold tryCpu Cpu.readDelay
  dsimp only
  rw [← hdelay]
  by_cases hbyte : 0 ≤ e.machine.cpu.delay ∧ e.machine.cpu.delay < 256
  · rw [if_pos hbyte, if_pos hbyte]
    have hset : Cpu.IsUntimed (·.set x (Byte.ofInt e.machine.cpu.delay)) :=
      fun _ _ _ => ⟨rfl, rfl⟩
    exact .ok (h.mapCpu hset)
  · rw [if_neg hbyte, if_neg hbyte]
    exact .error h

theorem waitKey (h : e.Beside T e') (hkey : e.machine.keyboard.key = e'.machine.keyboard.key)
    (x : Register) : (waitKey x e).Beside T (waitKey x e') := by
  unfold Emulator.waitKey
  dsimp only
  rw [← hkey]
  split
  · have hback : (e.mapCpu (·.rewind)).Beside T (e'.mapCpu (·.rewind)) :=
      h.mapCpu fun _ _ _ => ⟨rfl, rfl⟩
    exact hback.log ..
  · exact h.mapCpu fun _ _ _ => ⟨rfl, rfl⟩

theorem loadRandom (h : e.Beside T e') (x : Register) (mask : Byte) :
    (loadRandom x mask e).Beside T (loadRandom x mask e') := by
  unfold Emulator.loadRandom
  rw [h.random]
  have hrandom : (e.withRandom e.machine.random.next.2).Beside T
      (e'.withRandom e.machine.random.next.2) := { h with random := rfl }
  have hset : Cpu.IsUntimed (·.set x (e.machine.random.next.1 &&& mask)) :=
    fun _ _ _ => ⟨rfl, rfl⟩
  exact hrandom.mapCpu hset

theorem storeDecimal (h : e.Beside T e') (x : Register) :
    Matching (Beside T) (storeDecimal x e) (storeDecimal x e') := by
  unfold Emulator.storeDecimal
  rw [Act.get_bind, Act.get_bind, h.get, h.i]
  refine (h.tryMemory _).bind fun _ e₁ e₁' h₁ => ?_
  refine (h₁.tryMemory _).bind fun _ e₂ e₂' h₂ => ?_
  exact h₂.tryMemory _

theorem storeRegisters (h : e.Beside T e') (x : Register) :
    Matching (Beside T) (eachRegister x storeRegister e) (eachRegister x storeRegister e') := by
  refine Act.agree_forM _ (fun k _ e e' h => ?_) e e' h
  unfold storeRegister
  rw [Act.get_bind, Act.get_bind, h.get, h.i]
  exact h.tryMemory _

theorem loadRegisters (h : e.Beside T e') (x : Register) :
    Matching (Beside T) (eachRegister x loadRegister e) (eachRegister x loadRegister e') := by
  refine Act.agree_forM _ (fun k _ e e' h => ?_) e e' h
  unfold loadRegister
  rw [h.memory, h.i]
  cases e.machine.memory.load (e.machine.cpu.i + k) with
  | ok b => exact .ok (h.mapCpu fun _ _ _ => ⟨rfl, rfl⟩)
  | error fault => exact .error h

theorem drawSprite (h : e.Beside T e') (x y : Register) (count : Nat) :
    Matching (Beside T) (drawSprite x y count e) (drawSprite x y count e') := by
  have hdraw := Sprite.agree_draw_sameStage e.machine.hint
    (fun row => e.machine.memory.load (e.machine.cpu.i + row)) (e.machine.cpu.get x).toNat
    (e.machine.cpu.get y).toNat count ⟨e.stage, false⟩ ⟨e'.stage, false⟩ ⟨h.stage, rfl⟩
  unfold Emulator.drawSprite
  dsimp only
  rw [h.hint, h.memory, h.i, h.get x, h.get y]
  refine hdraw.resultWithin fun c c' hc => ?_
  have hstage : (e.withStage c.screen).Beside T (e'.withStage c'.screen) :=
    { h with stage := hc.1 }
  rw [hc.2]
  exact hstage.mapCpu fun _ _ _ => ⟨rfl, rfl⟩

theorem clearScreen (h : e.Beside T e') : (clearScreen e).Beside T (clearScreen e') :=
  { h with stage := Display.sameStage_clear h.stage }

/-- Operations on equal keys, unless a delay timer is read that differs. -/
theorem perform (hT : ∀ n, T n n) (h : e.Beside T e')
    (hkey : e.machine.keyboard.key = e'.machine.keyboard.key) (op : Operation)
    (hop : op = .readDelay → e.machine.cpu.delay = e'.machine.cpu.delay) (w : Word) :
    Matching (Beside T) (perform op w e) (perform op w e') := by
  cases op
  case clearScreen => exact .ok h.clearScreen
  case ret => exact h.ret
  case call => exact h.call w.nnn
  case readDelay => exact h.readDelay (hop rfl) w.x
  case waitKey => exact .ok (h.waitKey hkey w.x)
  case random => exact .ok (h.loadRandom w.x w.kk)
  case draw => exact h.drawSprite w.x w.y w.n
  case storeDecimal => exact h.storeDecimal w.x
  case storeRegisters => exact h.storeRegisters w.x
  case loadRegisters => exact h.loadRegisters w.x
  case skipIfEqual => exact .ok (h.mapCpu (Cpu.untimed_skipIf fun _ _ _ => rfl))
  case skipIfNotEqual => exact .ok (h.mapCpu (Cpu.untimed_skipIf fun _ _ _ => rfl))
  case skipIfKey =>
    change Matching _ (.ok () (e.mapCpu fun c => c.skipIf (e.machine.keyboard.key == c.get w.x)))
      (.ok () (e'.mapCpu fun c => c.skipIf (e'.machine.keyboard.key == c.get w.x)))
    rw [← hkey]
    exact .ok (h.mapCpu (Cpu.untimed_skipIf fun _ _ _ => rfl))
  case skipIfNotKey =>
    change Matching _ (.ok () (e.mapCpu fun c => c.skipIf (e.machine.keyboard.key != c.get w.x)))
      (.ok () (e'.mapCpu fun c => c.skipIf (e'.machine.keyboard.key != c.get w.x)))
    rw [← hkey]
    exact .ok (h.mapCpu (Cpu.untimed_skipIf fun _ _ _ => rfl))
  case setDelay =>
    refine .ok (h.withCpu ⟨?_, ?_⟩)
    · rw [h.cpu.rest]
      rfl
    · change T (e.machine.cpu.get w.x).toNat (e'.machine.cpu.get w.x).toNat
      rw [h.get]
      exact hT _
  case setSound =>
    refine .ok (h.withCpu ⟨?_, h.cpu.delay⟩)
    rw [h.cpu.rest]
    rfl
  -- what is left changes registers, the index and the program counter
  all_goals exact .ok (h.mapCpu fun _ _ _ => ⟨rfl, rfl⟩)

/-! ## Steps -/

theorem complete (h : e.Beside T e') (row : Opcode) :
    (complete row e).Beside T (complete row e') := by
  have hcount {e e' : Emulator Display} (h : e.Beside T e') : e.counted.Beside T e'.counted :=
    { h with executed := congrArg (· + 1) h.executed }
  unfold Emulator.complete
  split
  · exact hcount (h.mapCpu fun _ _ _ => ⟨rfl, rfl⟩)
  · exact hcount h

theorem step (hT : ∀ n, T n n) (h : e.Beside T e')
    (hkey : e.machine.keyboard.key = e'.machine.keyboard.key)
    (hword : ∀ w, e.machine.fetch = .ok w → w &&& 0xF0FF = 0xF007 →
      e.machine.cpu.delay = e'.machine.cpu.delay) :
    Matching (Beside T) (step e) (step e') := by
  refine matching_step_of_execute h h.fetch fun w hf =>
    matching_execute_of_perform h h.table h.table' (fun op hop => ?_) fun row =>
      Act.agree_modify fun _ _ h => h.complete row
  have hannounced : (e.announce op w).Beside T (e'.announce op w) := h.log ..
  exact hannounced.perform hT hkey op
    (fun hread => hword w hf (Word.operation?_eq_some_iff.mp (hread ▸ hop))) w

/-! ## Ticks and keys on one side -/

theorem refl (hT : ∀ n, T n n) (htable : e.machine.table = some standardTable) : e.Beside T e where
  cpu := ⟨rfl, hT _⟩
  executed := rfl
  memory := rfl
  random := rfl
  hint := rfl
  stage := ⟨rfl, rfl⟩
  table := htable
  table' := htable

theorem symm (hT : ∀ m n, T m n → T n m) (h : e.Beside T e') : e'.Beside T e where
  cpu := ⟨by rw [h.cpu.rest]; rfl, hT _ _ h.cpu.delay⟩
  executed := h.executed.symm
  memory := h.memory.symm
  random := h.random.symm
  hint := h.hint.symm
  stage := ⟨h.stage.1.symm, h.stage.2.symm⟩
  table := h.table'
  table' := h.table

theorem trans {e'' : Emulator Display} (hT : ∀ l m n, T l m → T m n → T l n)
    (h : e.Beside T e') (h' : e'.Beside T e'') : e.Beside T e'' where
  cpu := ⟨by rw [h'.cpu.rest, h.cpu.rest]; rfl, hT _ _ _ h.cpu.delay h'.cpu.delay⟩
  executed := h'.executed.trans h.executed
  memory := h'.memory.trans h.memory
  random := h'.random.trans h.random
  hint := h'.hint.trans h.hint
  stage := ⟨h.stage.1.trans h'.stage.1, h.stage.2.trans h'.stage.2⟩
  table := h.table
  table' := h'.table'

end Beside

end Emulator

end Chip8
