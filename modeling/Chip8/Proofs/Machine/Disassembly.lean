/-
  What the text of an instruction tells about running it. Operations stop with faults of the
  memory, the stack and the display only (`stops_perform`), so that a word is unknown to a
  machine exactly if it has no text. Two words with one text stand for one operation, and for
  the same one (`perform_eq_of_text`): on any machine running them gives the same answer and leaves
  the same machine, and their hosts differ in what was printed at most
  (`disassemble_determines_execute`).
-/
import Chip8.Proofs.Machine.Creation
import Chip8.Proofs.Machine.Twins
import Chip8.Proofs.Opcode.Spelling

namespace Chip8

/-! ## What operations stop with -/

/-- What an operation can stop with. -/
def Fault.isOperational : Fault → Bool
  | .cellIndex | .indexTooWide | .stackRead | .stackWrite | .cellValue => true
  | .numberTooLarge | .infiniteNumber | .undefinedNumber => true
  | _ => false

/-- Whether a fault, if there is one, is what an operation can stop with. -/
def IsOperational {α : Type} (r : Except Fault α) : Prop :=
  ∀ fault, r = .error fault → fault.isOperational = true

namespace IsOperational

variable {α β : Type}

theorem ok (a : α) : IsOperational (.ok a) := by
  rintro fault ⟨⟩

theorem error {fault : Fault} (h : fault.isOperational = true) :
    IsOperational (.error fault : Except Fault α) := by
  rintro _ ⟨⟩
  exact h

theorem bind {r : Except Fault α} {next : α → Except Fault β} (h : IsOperational r)
    (h' : ∀ a, IsOperational (next a)) : IsOperational (r >>= next) := by
  cases r with
  | ok a => exact h' a
  | error fault => exact error (h fault rfl)

theorem cellAt (size : Nat) (index : Int) {missing : Fault}
    (hmissing : missing.isOperational = true) : IsOperational (cellAt size index missing) := by
  unfold Chip8.cellAt
  split
  · split
    · exact ok _
    · exact error hmissing
  · exact error rfl

theorem toReal (n : Number) : IsOperational n.toReal := by
  cases n with
  | whole n =>
    unfold Number.toReal
    dsimp only
    split
    · exact error rfl
    · exact ok _
  | real x => exact ok x

theorem mul (a b : Number) : IsOperational (a.mul b) := by
  unfold Number.mul
  split
  · exact ok _
  · exact (toReal a).bind fun x => (toReal b).bind fun y => ok _

theorem round (n : Number) : IsOperational n.round := by
  cases n with
  | whole n => exact ok n
  | real x =>
    unfold Number.round
    dsimp only
    cases x.round? with
    | none => cases x <;> exact error rfl
    | some n => exact ok n

theorem pixelSize (scale : Nat) (hint : Number) : IsOperational (Window.pixelSize scale hint) :=
  (mul (.whole scale) hint).bind fun n => (round n).bind fun _ => ok _

theorem load (m : Memory) (address : Int) : IsOperational (m.load address) :=
  (cellAt m.size address rfl).bind fun _ => ok _

theorem store (m : Memory) (address : Int) (value : Byte) :
    IsOperational (m.store address value) :=
  (cellAt m.size address rfl).bind fun _ => ok _

theorem getPixel (f : FrameBuffer) (x y : Int) : IsOperational (f.getPixel x y) :=
  (cellAt _ (f.index x y) rfl).bind fun _ => ok _

theorem drawPixel (f : FrameBuffer) (x y : Int) (on : Bool) :
    IsOperational (f.drawPixel x y on) :=
  (cellAt _ (f.index x y) rfl).bind fun _ => ok _

theorem call (c : Cpu) (address : Nat) : IsOperational (c.call address) :=
  (cellAt 16 c.sp rfl).bind fun _ => ok _

theorem readDelay (c : Cpu) (x : Register) : IsOperational (c.readDelay x) := by
  unfold Cpu.readDelay
  split
  · exact ok _
  · exact error rfl

end IsOperational

/-- Stops, if it does, with what an operation can stop with. -/
abbrev Act.StopsAsOperation {σ α : Type} (act : Act σ α) : Prop :=
  Act.FailsIn (Fault.isOperational · = true) act

namespace Display

theorem stops_getPixel (x y : Int) :
    Act.StopsAsOperation (Screen.getPixel x y : Act (Display × Host) Bool) := by
  rintro ⟨d, h⟩
  cases d with
  | null d => trivial
  | bitmap f =>
    simp only [Screen.getPixel, lift]
    cases hpixel : f.getPixel x y with
    | ok on => trivial
    | error fault => exact IsOperational.getPixel f x y fault hpixel
  | recorded r =>
    simp only [Screen.getPixel, lift]
    cases hpixel : r.bitmap.getPixel x y with
    | ok on => trivial
    | error fault => exact IsOperational.getPixel r.bitmap x y fault hpixel
  | window w =>
    simp only [Screen.getPixel, lift]
    cases hpixel : w.bitmap.getPixel x y with
    | ok on => trivial
    | error fault => exact IsOperational.getPixel w.bitmap x y fault hpixel

theorem stops_drawPixel (x y : Int) (hint : Number) (on : Bool) :
    Act.StopsAsOperation (Screen.drawPixel x y hint on : Act (Display × Host) Unit) := by
  rintro ⟨d, h⟩
  cases d with
  | null d => trivial
  | bitmap f =>
    simp only [Screen.drawPixel, lift]
    cases hpixel : f.drawPixel x y on with
    | ok f' => trivial
    | error fault => exact IsOperational.drawPixel f x y on fault hpixel
  | recorded r =>
    simp only [Screen.drawPixel, lift]
    cases hreal : hint.toReal with
    | error fault => exact IsOperational.toReal hint fault hreal
    | ok hint =>
      dsimp only
      cases hpixel : r.bitmap.drawPixel x y on with
      | ok f => trivial
      | error fault => exact IsOperational.drawPixel r.bitmap x y on fault hpixel
  | window w =>
    simp only [Screen.drawPixel, lift, Window.drawPixel]
    cases hpixel : w.bitmap.drawPixel x y on with
    | error fault => exact IsOperational.drawPixel w.bitmap x y on fault hpixel
    | ok f =>
      dsimp only
      split
      · cases hsize : Window.pixelSize w.scale hint with
        | error fault => exact IsOperational.pixelSize w.scale hint fault hsize
        | ok side => trivial
      · trivial

end Display

theorem Sprite.stops_flipCell (hint : Number) (x y : Nat) :
    Act.StopsAsOperation (flipCell hint x y : Act (Canvas Display) Unit) := by
  intro c
  unfold flipCell
  cases hread : Screen.getPixel (x : Int) (y : Int) c.screen with
  | error fault s => exact (Display.stops_getPixel x y).of_error hread
  | ok lit s =>
    dsimp only
    cases hdraw : Screen.drawPixel (x : Int) (y : Int) hint (!lit) s with
    | error fault t => exact (Display.stops_drawPixel x y hint (!lit)).of_error hdraw
    | ok _ t => trivial

theorem Sprite.stops_draw (hint : Number) {row : Nat → Except Fault Byte}
    (hrow : ∀ i, IsOperational (row i)) (left top count : Nat) :
    Act.StopsAsOperation (draw hint row left top count : Act (Canvas Display) Unit) := by
  intro c
  rw [draw_def]
  exact Act.failsIn_forM _ (fun i _ => Act.failsIn_bind (Act.failsIn_ofExcept (hrow i)) fun dots =>
    Act.failsIn_forM _ fun col _ => stops_flipCell hint _ _) c

namespace Emulator

variable {e : Emulator Display}

theorem stops_tryCpu {change : Cpu → Except Fault Cpu} (h : ∀ c, IsOperational (change c)) :
    Act.StopsAsOperation (tryCpu change : Act (Emulator Display) Unit) := by
  intro e
  unfold tryCpu
  cases hc : change e.machine.cpu with
  | ok c => trivial
  | error fault => exact h _ fault hc

theorem stops_store (address : Int) (value : Byte) :
    Act.StopsAsOperation (store address value : Act (Emulator Display) Unit) := by
  intro e
  unfold store tryMemory
  dsimp only
  cases hm : e.machine.memory.store address value with
  | ok m => trivial
  | error fault => exact IsOperational.store _ _ _ fault hm

theorem stops_loadRegister (k : Nat) :
    Act.StopsAsOperation (loadRegister k : Act (Emulator Display) Unit) := by
  intro e
  unfold loadRegister
  cases hm : e.machine.memory.load (e.machine.cpu.i + k) with
  | ok b => trivial
  | error fault => exact IsOperational.load _ _ fault hm

theorem stops_ret : Act.StopsAsOperation (onCpu Cpu.ret : Act (Emulator Display) Unit) := by
  intro e
  refine EndsIn.resultWithin _ ?_
  unfold Cpu.ret
  dsimp only
  cases hcell : cellAt 16 (e.machine.cpu.sp - 1) .stackRead with
  | ok slot => trivial
  | error fault => exact IsOperational.cellAt 16 _ rfl fault hcell

/-- In any state an operation stops with faults of the memory, the stack and the display only. -/
theorem stops_perform (op : Operation) (w : Word) :
    Act.StopsAsOperation (perform op w : Act (Emulator Display) Unit) := by
  cases op
  case ret => exact stops_ret
  case call => exact stops_tryCpu fun c => .call c w.nnn
  case readDelay => exact stops_tryCpu fun c => .readDelay c w.x
  case storeDecimal =>
    exact fun e => Act.failsIn_bind (stops_store _ _)
      (fun _ => Act.failsIn_bind (stops_store _ _) fun _ => stops_store _ _) e
  case storeRegisters =>
    exact Act.failsIn_forM _ fun k _ e => stops_store _ _ e
  case loadRegisters => exact Act.failsIn_forM _ fun k _ => stops_loadRegister k
  case draw =>
    exact fun e => EndsIn.resultWithin _ (Sprite.stops_draw _ (fun i => .load _ _) _ _ _ _)
  all_goals exact Act.failsIn_modify _

/-! ## Texts and running -/

/-- Words with one text by an operation's row do the same. -/
theorem perform_eq_of_text {op : Operation} {a b : Word} (ha : a.operation? = some op)
    (hb : b.operation? = some op) (h : op.text a = op.text b) :
    (perform op a : Act (Emulator Display) Unit) = perform op b := by
  by_cases hop : op = .shiftRight
  · -- the third digit is not in the text, and a shift does not look at it
    subst hop
    have hx := Operation.x_eq_of_text_shiftRight h
    unfold perform
    dsimp only
    rw [hx]
  · rw [Operation.word_eq_of_text hop ha hb h]

theorem matching_execute_of_text (htable : e.machine.table = some standardTable) {op : Operation}
    {a b : Word} (ha : a.operation? = some op) (hb : b.operation? = some op)
    (h : op.text a = op.text b) : Matching Twin (execute a e) (execute b e) := by
  rw [execute_of_operation? htable ha, execute_of_operation? htable hb, perform_eq_of_text ha hb h]
  have hannounced : (e.announce op a).Twin (e.announce op b) := (Twin.refl htable).log ..
  exact (agree_perform_twin op b _ _ hannounced).bind fun _ =>
    sharesMemory_twin.toShares.agree_complete op.row

theorem execute_unknown_iff (htable : e.machine.table = some standardTable) (w : Word) :
    (∃ w', answerOf (execute w e) = .error (.unknownInstruction w')) ↔ w.operation? = none := by
  constructor
  · rintro ⟨w', h⟩
    cases hop : w.operation? with
    | none => rfl
    | some op =>
      have hstops : Act.StopsAsOperation
          (perform op w >>= fun _ => modify (complete op.row) : Act (Emulator Display) Unit) :=
        Act.failsIn_bind (stops_perform op w) fun _ => Act.failsIn_modify _
      rw [execute_of_operation? htable hop] at h
      cases hr : (perform op w >>= fun _ => modify (complete op.row)) (e.announce op w) with
      | ok a e' =>
        rw [hr] at h
        cases h
      | error fault e' =>
        rw [hr] at h
        cases h
        cases hstops.of_error hr
  · intro h
    exact ⟨w, by rw [execute_of_none htable h]; rfl⟩

/-- On a machine with the standard table two words with one text, unless it is the text of the
words without an instruction, get the same answer and leave the same machine, and hosts that
differ in what was printed at most. A word has that text exactly if it is unknown to the machine. -/
theorem disassemble_determines_execute (htable : e.machine.table = some standardTable) :
    (∀ a b : Word, standardTable.disassemble a = standardTable.disassemble b →
      standardTable.disassemble a ≠ .ok OpcodeTable.unknownText →
      answerOf (execute a e) = answerOf (execute b e) ∧
      (stateOf (execute a e)).machine = (stateOf (execute b e)).machine ∧
      (stateOf (execute a e)).host.Twin (stateOf (execute b e)).host) ∧
    ∀ w : Word, standardTable.disassemble w = .ok OpcodeTable.unknownText ↔
      ∃ w', answerOf (execute w e) = .error (.unknownInstruction w') := by
  refine ⟨fun a b hsame hknown => ?_, fun w => ?_⟩
  · obtain ⟨op, ha⟩ : ∃ op, a.operation? = some op :=
      Option.ne_none_iff_exists'.mp fun hnone => hknown (disassemble_of_none hnone)
    obtain ⟨op', hb⟩ : ∃ op, b.operation? = some op :=
      Option.ne_none_iff_exists'.mp fun hnone => hknown (hsame.trans (disassemble_of_none hnone))
    rw [disassemble_of_operation? ha, disassemble_of_operation? hb] at hsame
    have htext := Except.ok.inj hsame
    obtain rfl := Operation.eq_of_text htext
    have hmatch := matching_execute_of_text htable ha hb htext
    exact ⟨hmatch.answer, hmatch.state.machine, hmatch.state.host⟩
  · rw [disassemble_eq_unknown_iff, execute_unknown_iff htable]

/-- Shifts that differ in the third digit have one text, on a machine with a program of them. -/
theorem disassemble_determines_execute_shift : ∃ e : Emulator Display,
    e.machine.table = some standardTable ∧ e.machine.fetch = .ok 0x8016 ∧
    standardTable.disassemble 0x8016 = standardTable.disassemble 0x8026 ∧
    answerOf (execute 0x8016 e) = answerOf (execute 0x8026 e) ∧
    (stateOf (execute 0x8016 e)).machine = (stateOf (execute 0x8026 e)).machine := by
  obtain ⟨e, host', h, hmemory, -⟩ := Machine.exists_create
    { display := Display.bitmap (FrameBuffer.blank 8 4), rom := [0x80, 0x16] } {} rfl rfl rfl
    (by decide)
  have hfresh := Machine.fresh_of_create h
  have hword : standardTable.disassemble 0x8016 = .ok (Operation.text .shiftRight 0x8016) :=
    disassemble_of_operation? (by decide)
  have hother : standardTable.disassemble 0x8026 = .ok (Operation.text .shiftRight 0x8026) :=
    disassemble_of_operation? (by decide)
  have htext : Operation.text .shiftRight 0x8016 = Operation.text .shiftRight 0x8026 := by
    rw [Operation.text_eq, Operation.text_eq]
    decide
  have hsame : standardTable.disassemble 0x8016 = standardTable.disassemble 0x8026 := by
    rw [hword, hother, htext]
  have hknown : standardTable.disassemble 0x8016 ≠ .ok OpcodeTable.unknownText := by
    rw [hword]
    exact fun hnone => Operation.text_ne_unknownText _ _ (Except.ok.inj hnone)
  obtain ⟨hanswer, hmachine, -⟩ :=
    (disassemble_determines_execute hfresh.table).1 0x8016 0x8026 hsame hknown
  exact ⟨e, hfresh.table, hfresh.fetch hmemory (by decide) (by decide), hsame, hanswer, hmachine⟩

end Emulator

end Chip8
