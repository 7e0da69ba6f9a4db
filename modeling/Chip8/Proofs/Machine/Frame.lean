/-
  What an instruction leaves alone. The parts of a machine are its registers, stack slots and
  bytes one by one, and everything else that it holds, the program counter and the count of
  instructions apart, as every instruction moves these. `Operation.Targets` lists the parts that
  an operation may change, and an operation changes no others, whether it succeeds or fails
  (`changesOnly_perform`, `changesOnly_execute`); nothing is assumed of the machine, so an index
  may be negative and then names bytes from the end. `framedBy_of_execute` tells the same of
  instruction words, together with how far the stack pointer moves and how many random bytes
  are taken.
-/
import Chip8.Proofs.Machine.Execute

namespace Chip8

/-- A part of a machine, other than the program counter and the count of instructions. -/
inductive Part where
  | register (r : Register)
  | index
  | delay
  | sound
  | stackPointer
  | slot (s : Fin 16)
  | memorySize
  | byte (a : Nat)
  | display
  | random
  | keyboard
  | audio
  | table
  | hint

variable {δ : Type}

/-- Whether two machines have the part in common. -/
def Part.IsSame (m m' : Machine δ) : Part → Prop
  | register r => m'.cpu.get r = m.cpu.get r
  | index => m'.cpu.i = m.cpu.i
  | delay => m'.cpu.delay = m.cpu.delay
  | sound => m'.cpu.sound = m.cpu.sound
  | stackPointer => m'.cpu.sp = m.cpu.sp
  | slot s => readCell m'.cpu.stack s = readCell m.cpu.stack s
  | memorySize => m'.memory.size = m.memory.size
  | byte a => m'.memory.cells[a]? = m.memory.cells[a]?
  | display => m'.display = m.display
  | random => m'.random = m.random
  | keyboard => m'.keyboard = m.keyboard
  | audio => m'.audio = m.audio
  | table => m'.table = m.table
  | hint => m'.hint = m.hint

namespace Part

variable {m m' m'' : Machine δ}

theorem IsSame.refl (m : Machine δ) (part : Part) : part.IsSame m m := by
  cases part <;> rfl

theorem IsSame.trans {part : Part} (h : part.IsSame m m') (h' : part.IsSame m' m'') :
    part.IsSame m m'' := by
  cases part <;> exact Eq.trans h' h

end Part

/-- The cell that an index names, counted from the front. -/
def place? (size : Nat) (index : Int) : Option Nat := (cell? size index).map Fin.val

namespace Operation

/-- Whether an operation puts something into the register of the second digit. -/
def setsRegister : Operation → Bool
  | loadByte | addByte | copy | and | xor | add | subtract | shiftRight | random | readDelay
  | waitKey => true
  | _ => false

/-- Whether an operation puts something into the flag register by itself. -/
def setsFlag : Operation → Bool
  | add | subtract | shiftRight | draw => true
  | _ => false

/-- The number of bytes from the index on that an operation stores. -/
def stored (w : Word) : Operation → Nat
  | storeDecimal => 3
  | storeRegisters => w.x.val + 1
  | _ => 0

/-- The parts of a machine that an operation may change. -/
def Targets (op : Operation) (w : Word) (m : Machine δ) : Part → Prop
  | .register r => (op.setsRegister = true ∧ r = w.x) ∨ (op.setsFlag = true ∧ r = flagRegister) ∨
      (op = .loadRegisters ∧ r ≤ w.x)
  | .index => op = .loadIndex ∨ op = .addIndex ∨ op = .pointAtGlyph
  | .delay => op = .setDelay
  | .sound => op = .setSound
  | .stackPointer => op = .call ∨ op = .ret
  | .slot s => op = .call ∧ cell? 16 m.cpu.sp = some s
  | .byte a => ∃ k < op.stored w, place? m.memory.size (m.cpu.i + (k : Nat)) = some a
  | .display => op = .clearScreen ∨ op = .draw
  | .random => op = .random
  | .memorySize | .keyboard | .audio | .table | .hint => False

end Operation

namespace Machine

/-- The second machine differs from the first one in the given parts at most. -/
def ChangesOnly (parts : Part → Prop) (m m' : Machine δ) : Prop :=
  ∀ part, ¬ parts part → part.IsSame m m'

variable {parts parts' : Part → Prop} {m m' m'' : Machine δ}

namespace ChangesOnly

theorem refl (parts : Part → Prop) (m : Machine δ) : ChangesOnly parts m m :=
  fun part _ => .refl m part

theorem trans (h : ChangesOnly parts m m') (h' : ChangesOnly parts m' m'') :
    ChangesOnly parts m m'' :=
  fun part hpart => (h part hpart).trans (h' part hpart)

theorem mono (h : ChangesOnly parts m m') (hparts : ∀ part, parts part → parts' part) :
    ChangesOnly parts' m m' :=
  fun part hpart => h part fun hp => hpart (hparts part hp)

/-- A change of the one given part, where that may change. -/
theorem one {part : Part} (h : ChangesOnly (· = part) m m') (hpart : parts part) :
    ChangesOnly parts m m' :=
  h.mono fun _ hp => hp ▸ hpart

theorem of_not_isSame (h : ChangesOnly parts m m') (part : Part) (hpart : ¬ part.IsSame m m') :
    parts part :=
  by_contra fun hp => hpart (h part hp)

end ChangesOnly

/-! ## Changes of one part -/

theorem changesOnly_pc (parts : Part → Prop) (m : Machine δ) (pc : Int) :
    ChangesOnly parts m { m with cpu := { m.cpu with pc := pc } } :=
  fun part _ => by cases part <;> rfl

theorem changesOnly_executed (parts : Part → Prop) (m : Machine δ) (n : Nat) :
    ChangesOnly parts m { m with executed := n } :=
  fun part _ => by cases part <;> rfl

theorem changesOnly_set (m : Machine δ) (r : Register) (b : Byte) :
    ChangesOnly (· = .register r) m { m with cpu := m.cpu.set r b } := by
  intro part hpart
  cases part
  case register s => exact Cpu.get_set_ne m.cpu b fun h => hpart (h ▸ rfl)
  all_goals rfl

theorem changesOnly_byte (m : Machine δ) (place : Fin m.memory.size) (value : Byte) :
    ChangesOnly (· = .byte place.val) m
      { m with memory := ⟨m.memory.cells.set place.val value place.isLt⟩ } := by
  intro part hpart
  cases part
  case byte a => exact Array.getElem?_set_ne place.isLt fun h => hpart (h ▸ rfl)
  case memorySize => exact Array.size_set place.isLt
  all_goals rfl

/-- A register set after the flag register. -/
theorem changesOnly_set_set (m : Machine δ) (x : Register) (flag b : Byte)
    (hflag : parts (.register flagRegister)) (hx : parts (.register x)) :
    ChangesOnly parts m { m with cpu := (m.cpu.set flagRegister flag).set x b } :=
  ((changesOnly_set m flagRegister flag).one hflag).trans
    ((changesOnly_set { m with cpu := m.cpu.set flagRegister flag } x b).one hx)

end Machine

theorem Memory.of_store_ok {m m' : Memory} {address : Int} {value : Byte}
    (h : m.store address value = .ok m') :
    ∃ place, cell? m.size address = some place ∧ m' = ⟨m.cells.set place.val value place.isLt⟩ := by
  unfold store at h
  cases hplace : cellAt m.size address .cellIndex with
  | error fault => rw [hplace] at h; cases h
  | ok place =>
    rw [hplace] at h
    cases h
    exact ⟨place, cell?_of_cellAt hplace, rfl⟩

namespace Emulator

open Machine

variable {e : Emulator δ} {m : Machine δ} {parts : Part → Prop}

/-! ## Operations -/

theorem changesOnly_store {address : Int} (value : Byte) (hm : m.ChangesOnly parts e.machine)
    (hsize : ¬ parts .memorySize)
    (hbyte : ∀ a, place? m.memory.size address = some a → parts (.byte a)) :
    m.ChangesOnly parts (stateOf (store address value e)).machine := by
  unfold store tryMemory
  dsimp only
  cases hstore : e.machine.memory.store address value with
  | error fault => exact hm
  | ok memory =>
    obtain ⟨place, hplace, rfl⟩ := Memory.of_store_ok hstore
    have hsame : e.machine.memory.size = m.memory.size := hm .memorySize hsize
    refine hm.trans ((changesOnly_byte e.machine place value).one ?_)
    refine hbyte place.val ?_
    rw [← hsame, place?, hplace]
    rfl

/-- The bytes that storing goes through are targets. -/
theorem changesOnly_storeDecimal (w : Word) (e : Emulator δ) :
    e.machine.ChangesOnly (Operation.storeDecimal.Targets w e.machine)
      (stateOf (storeDecimal w.x e)).machine := by
  let kept (s : Emulator δ) : Prop :=
    e.machine.ChangesOnly (Operation.storeDecimal.Targets w e.machine) s.machine
  have hstore (k : Nat) (hk : k < 3) (value : Byte) :
      Act.Keeps kept (store (e.machine.cpu.i + (k : Nat)) value) := fun s hs =>
    changesOnly_store value hs id fun _ ha => ⟨k, hk, ha⟩
  have hkeeps : Act.Keeps kept (do
      store (e.machine.cpu.i + (0 : Nat)) (BitVec.ofNat 8 ((e.machine.cpu.get w.x).toNat / 100))
      store (e.machine.cpu.i + (1 : Nat))
        (BitVec.ofNat 8 ((e.machine.cpu.get w.x).toNat % 100 / 10))
      store (e.machine.cpu.i + (2 : Nat)) (BitVec.ofNat 8 ((e.machine.cpu.get w.x).toNat % 10))) :=
    Act.keeps_bind (hstore 0 (by decide) _) fun _ =>
      Act.keeps_bind (hstore 1 (by decide) _) fun _ => hstore 2 (by decide) _
  have hstart := hkeeps e (.refl _ _)
  rw [Int.natCast_zero, Int.add_zero] at hstart
  exact hstart

theorem changesOnly_storeRegisters (w : Word) (e : Emulator δ) :
    e.machine.ChangesOnly (Operation.storeRegisters.Targets w e.machine)
      (stateOf (eachRegister w.x storeRegister e)).machine := by
  let kept (s : Emulator δ) : Prop :=
    e.machine.ChangesOnly (Operation.storeRegisters.Targets w e.machine) s.machine
  have hkeeps : Act.Keeps kept (eachRegister w.x storeRegister) := by
    refine Act.keeps_forM _ fun k hk s hs => ?_
    have hi : s.machine.cpu.i = e.machine.cpu.i := hs .index (by simp [Operation.Targets])
    change kept (stateOf (store (s.machine.cpu.i + k) (s.machine.cpu.get (Register.ofNat k)) s))
    rw [hi]
    exact changesOnly_store _ hs id fun _ ha => ⟨k, List.mem_range.mp hk, ha⟩
  exact hkeeps e (.refl _ _)

theorem changesOnly_loadRegisters (w : Word) (e : Emulator δ) :
    e.machine.ChangesOnly (Operation.loadRegisters.Targets w e.machine)
      (stateOf (eachRegister w.x loadRegister e)).machine := by
  let kept (s : Emulator δ) : Prop :=
    e.machine.ChangesOnly (Operation.loadRegisters.Targets w e.machine) s.machine
  have hkeeps : Act.Keeps kept (eachRegister w.x loadRegister) := by
    refine Act.keeps_forM _ fun k hk s hs => ?_
    unfold loadRegister
    cases s.machine.memory.load (s.machine.cpu.i + k) with
    | error fault => exact hs
    | ok b =>
      have hle : Register.ofNat k ≤ w.x :=
        Fin.le_def.mpr (Nat.le_trans (Nat.mod_le k 16) (Nat.le_of_lt_succ (List.mem_range.mp hk)))
      exact hs.trans ((changesOnly_set s.machine _ b).one (Or.inr (Or.inr ⟨rfl, hle⟩)))
  exact hkeeps e (.refl _ _)

theorem changesOnly_waitKey (w : Word) (e : Emulator δ) :
    e.machine.ChangesOnly (Operation.waitKey.Targets w e.machine) (waitKey w.x e).machine := by
  unfold waitKey
  dsimp only
  split
  · exact changesOnly_pc _ e.machine _
  · exact (changesOnly_set e.machine w.x _).one (Or.inl ⟨rfl, rfl⟩)

theorem changesOnly_skipIf (parts : Part → Prop) (e : Emulator δ) (condition : Bool) :
    e.machine.ChangesOnly parts (e.mapCpu (·.skipIf condition)).machine := by
  unfold mapCpu Cpu.skipIf
  cases condition with
  | false => exact .refl _ _
  | true => exact changesOnly_pc parts e.machine _

theorem changesOnly_ret (w : Word) (e : Emulator δ) :
    e.machine.ChangesOnly (Operation.ret.Targets w e.machine)
      (stateOf (onCpu Cpu.ret e)).machine := by
  rw [onCpu_eq, stateOf_resultWithin]
  unfold Cpu.ret
  dsimp only
  -- the stack pointer moves even without a slot
  cases cellAt 16 (e.machine.cpu.sp - 1) .stackRead <;> intro part hpart <;> cases part
  case error.stackPointer | ok.stackPointer => exact absurd (Or.inr rfl) hpart
  all_goals rfl

theorem changesOnly_tryCpu {change : Cpu → Except Fault Cpu}
    (h : ∀ c, change e.machine.cpu = .ok c →
      e.machine.ChangesOnly parts { e.machine with cpu := c }) :
    e.machine.ChangesOnly parts (stateOf (tryCpu change e)).machine := by
  cases hc : change e.machine.cpu with
  | error fault =>
    rw [tryCpu_of_error change hc]
    exact .refl _ _
  | ok c =>
    rw [tryCpu_of_ok change hc]
    exact h c hc

theorem changesOnly_call (w : Word) (e : Emulator δ) :
    e.machine.ChangesOnly (Operation.call.Targets w e.machine)
      (stateOf (tryCpu (·.call w.nnn) e)).machine := by
  refine changesOnly_tryCpu fun c hcall => ?_
  obtain ⟨slot, hslot, rfl⟩ := Cpu.of_call_ok hcall
  intro part hpart
  cases part
  case slot s =>
    exact (readCell_writeCell ..).trans (if_neg fun h : slot = s => hpart ⟨rfl, h ▸ hslot⟩)
  case stackPointer => exact absurd (Or.inl rfl) hpart
  all_goals rfl

theorem changesOnly_readDelay (w : Word) (e : Emulator δ) :
    e.machine.ChangesOnly (Operation.readDelay.Targets w e.machine)
      (stateOf (tryCpu (·.readDelay w.x) e)).machine := by
  refine changesOnly_tryCpu fun c hread => ?_
  unfold Cpu.readDelay at hread
  split at hread <;> cases hread
  exact (changesOnly_set e.machine w.x _).one (Or.inl ⟨rfl, rfl⟩)

theorem changesOnly_loadRandom (w : Word) (e : Emulator δ) :
    e.machine.ChangesOnly (Operation.random.Targets w e.machine)
      (loadRandom w.x w.kk e).machine := by
  let taken : Machine δ := { e.machine with random := e.machine.random.next.2 }
  have htaken : e.machine.ChangesOnly (Operation.random.Targets w e.machine) taken := by
    intro part hpart
    cases part
    case random => exact absurd rfl hpart
    all_goals rfl
  exact htaken.trans ((changesOnly_set taken w.x _).one (Or.inl ⟨rfl, rfl⟩))

theorem changesOnly_complete (parts : Part → Prop) (row : Opcode) (e : Emulator δ) :
    e.machine.ChangesOnly parts (complete row e).machine := by
  unfold complete
  split
  · exact (changesOnly_pc parts e.machine _).trans (changesOnly_executed parts _ _)
  · exact changesOnly_executed parts e.machine _

variable [Screen δ]

theorem changesOnly_drawSprite (w : Word) (e : Emulator δ) :
    e.machine.ChangesOnly (Operation.draw.Targets w e.machine)
      (stateOf (drawSprite w.x w.y w.n e)).machine := by
  unfold drawSprite
  dsimp only
  rw [stateOf_resultWithin]
  refine .trans ?_ ((changesOnly_set _ flagRegister _).one (Or.inr (Or.inl ⟨rfl, rfl⟩)))
  intro part hpart
  cases part
  case display => exact absurd (Or.inr rfl) hpart
  all_goals rfl

/-- An operation changes its targets only, whether it succeeds or fails. -/
theorem changesOnly_perform (op : Operation) (w : Word) (e : Emulator δ) :
    e.machine.ChangesOnly (op.Targets w e.machine) (stateOf (perform op w e)).machine := by
  cases op
  case ret => exact changesOnly_ret w e
  case call => exact changesOnly_call w e
  case readDelay => exact changesOnly_readDelay w e
  case waitKey => exact changesOnly_waitKey w e
  case storeDecimal => exact changesOnly_storeDecimal w e
  case storeRegisters => exact changesOnly_storeRegisters w e
  case loadRegisters => exact changesOnly_loadRegisters w e
  case draw => exact changesOnly_drawSprite w e
  case skipIfEqual | skipIfNotEqual | skipIfKey | skipIfNotKey => exact changesOnly_skipIf _ e _
  case add | subtract | shiftRight =>
    exact changesOnly_set_set _ _ _ _ (Or.inr (Or.inl ⟨rfl, rfl⟩)) (Or.inl ⟨rfl, rfl⟩)
  case loadByte | addByte | copy | and | xor =>
    exact (changesOnly_set e.machine w.x _).one (Or.inl ⟨rfl, rfl⟩)
  case random => exact changesOnly_loadRandom w e
  -- what is left sets a single part, or the program counter
  all_goals
    intro part hpart
    cases part
    all_goals first | rfl | exact absurd (by simp [Operation.Targets]) hpart

/-! ## Words -/

/-- A word that stands for an operation changes the targets of the operation only. -/
theorem changesOnly_execute (htable : e.machine.table = some standardTable) {w : Word}
    {op : Operation} (hop : w.operation? = some op) :
    e.machine.ChangesOnly (op.Targets w e.machine) (stateOf (execute w e)).machine := by
  rw [execute_of_operation? htable hop]
  let kept (t : Emulator δ) : Prop := e.machine.ChangesOnly (op.Targets w e.machine) t.machine
  exact Act.stateOf_bind_modify (P := kept) (Q := kept) (changesOnly_perform op w (e.announce op w))
    (fun e₁ hperform => hperform.trans (changesOnly_complete _ op.row e₁)) (fun _ => id)

/-- A step leaves alone what the operation that it finds may not change. -/
theorem isSame_step (htable : e.machine.table = some standardTable) {part : Part}
    (h : ∀ op w, e.machine.fetch = .ok w → w.operation? = some op →
      ¬ op.Targets w e.machine part) :
    part.IsSame e.machine (stateOf (step e)).machine := by
  cases hf : e.machine.fetch with
  | error fault =>
    rw [step_of_fetch_error hf]
    exact .refl e.machine part
  | ok w =>
    rw [stateOf_step_of_fetch hf]
    cases hop : w.operation? with
    | none =>
      rw [execute_of_none htable hop]
      exact .refl e.machine part
    | some op => exact changesOnly_execute htable hop part (h op w hf hop)

/-- A step that fails leaves alone what only operations change that never fail. -/
theorem isSame_of_step_error (htable : e.machine.table = some standardTable) {part : Part}
    {fault : Fault} {e' : Emulator δ}
    (h : ∀ (op : Operation) w (s : Emulator δ), op.Targets w s.machine part →
      ∃ s', perform op w s = .ok () s')
    (hstep : step e = .error fault e') : part.IsSame e.machine e'.machine := by
  obtain ⟨-, rfl⟩ | ⟨w, -, hexecute⟩ := of_step_error hstep
  · exact .refl e'.machine part
  · cases hop : w.operation? with
    | none =>
      rw [execute_of_none htable hop] at hexecute
      cases hexecute
      exact .refl e.machine part
    | some op =>
      have honly := changesOnly_execute htable hop
      rw [hexecute] at honly
      refine honly part fun htarget => ?_
      obtain ⟨s', hperform⟩ := h op w (e.announce op w) htarget
      rw [execute_of_perform htable hop hperform] at hexecute
      cases hexecute

theorem keyboard_step (htable : e.machine.table = some standardTable) :
    (stateOf (step e)).machine.keyboard = e.machine.keyboard :=
  have hsame : Part.keyboard.IsSame e.machine (stateOf (step e)).machine :=
    isSame_step htable fun _ _ _ _ => id
  hsame

theorem audio_step (htable : e.machine.table = some standardTable) :
    (stateOf (step e)).machine.audio = e.machine.audio :=
  have hsame : Part.audio.IsSame e.machine (stateOf (step e)).machine :=
    isSame_step htable fun _ _ _ _ => id
  hsame

/-- A word that is executed with success stands for an operation, and changes its targets only. -/
theorem changesOnly_of_execute_ok (htable : e.machine.table = some standardTable) {w : Word}
    {e' : Emulator δ} (h : execute w e = .ok () e') :
    ∃ op, w.operation? = some op ∧ e.machine.ChangesOnly (op.Targets w e.machine) e'.machine := by
  obtain ⟨op, e₁, hop, -, -⟩ := of_execute_ok htable h
  have honly := changesOnly_execute htable hop
  rw [h] at honly
  exact ⟨op, hop, honly⟩

/-- Calls push one slot and returns pop one. -/
theorem sp_of_execute (htable : e.machine.table = some standardTable) {w : Word} {e' : Emulator δ}
    (h : execute w e = .ok () e') :
    e'.machine.cpu.sp = e.machine.cpu.sp + w.stackChange := by
  by_cases hcall : w.IsCall
  · obtain ⟨slot, -, hcpu⟩ := of_execute_call htable hcall h
    rw [hcpu, hcall.stackChange]
  · by_cases hret : w = 0x00EE
    · subst hret
      obtain ⟨slot, -, hcpu⟩ := of_execute_ret htable h
      rw [hcpu, Word.stackChange_ret]
      rfl
    · obtain ⟨op, hop, honly⟩ := changesOnly_of_execute_ok htable h
      rw [Word.stackChange_other hcall hret, Int.add_zero]
      refine honly .stackPointer (not_or_intro (fun hop' => ?_) fun hop' => ?_)
      · exact hcall (Word.operation?_eq_call_iff.mp (hop' ▸ hop))
      · exact hret (Word.operation?_eq_ret_iff.mp (hop' ▸ hop))

end Emulator

/-- What an instruction word may have changed in a machine, and what it has. -/
structure Machine.FramedBy (w : Word) (m m' : Machine δ) : Prop where
  memorySize : m'.memory.size = m.memory.size
  /-- Bytes within three of the index, or within as many as registers are stored. -/
  byte : ∀ a, m'.memory.cells[a]? ≠ m.memory.cells[a]? →
    (w &&& 0xF0FF = 0xF033 ∧ ∃ k < 3, place? m.memory.size (m.cpu.i + (k : Nat)) = some a) ∨
    (w &&& 0xF0FF = 0xF055 ∧
      ∃ k ≤ w.x.val, place? m.memory.size (m.cpu.i + (k : Nat)) = some a)
  index : m'.cpu.i ≠ m.cpu.i →
    w &&& 0xF000 = 0xA000 ∨ w &&& 0xF0FF = 0xF01E ∨ w &&& 0xF0FF = 0xF029
  delay : m'.cpu.delay ≠ m.cpu.delay → w &&& 0xF0FF = 0xF015
  sound : m'.cpu.sound ≠ m.cpu.sound → w &&& 0xF0FF = 0xF018
  /-- One slot at most, that at the stack pointer. -/
  slot : ∀ s, readCell m'.cpu.stack s ≠ readCell m.cpu.stack s →
    w &&& 0xF000 = 0x2000 ∧ place? 16 m.cpu.sp = some s.val
  stackPointer : m'.cpu.sp = m.cpu.sp + w.stackChange
  display : m'.display ≠ m.display → w = 0x00E0 ∨ w &&& 0xF000 = 0xD000
  /-- One byte is taken, or none. -/
  random : m'.random = if w &&& 0xF000 = 0xC000 then m.random.next.2 else m.random
  register : ∀ r, r ≠ w.x → r ≠ flagRegister → m'.cpu.get r ≠ m.cpu.get r →
    w &&& 0xF0FF = 0xF065 ∧ r ≤ w.x
  flag : m'.cpu.get flagRegister ≠ m.cpu.get flagRegister →
    (w &&& 0xF00F = 0x8004 ∨ w &&& 0xF00F = 0x8005 ∨ w &&& 0xF00F = 0x8006 ∨
      w &&& 0xF000 = 0xD000) ∨
    w.x = flagRegister ∧
      (w &&& 0xF000 = 0x6000 ∨ w &&& 0xF000 = 0x7000 ∨ w &&& 0xF00F = 0x8000 ∨
        w &&& 0xF00F = 0x8002 ∨ w &&& 0xF00F = 0x8003 ∨ w &&& 0xF000 = 0xC000 ∨
        w &&& 0xF0FF = 0xF007 ∨ w &&& 0xF0FF = 0xF00A ∨ w &&& 0xF0FF = 0xF065)
  keyboard : m'.keyboard = m.keyboard
  audio : m'.audio = m.audio

namespace Operation

variable {op : Operation} {w : Word}

theorem bits_of_stored (hbits : w &&& op.row.mask = op.row.pattern) {k : Nat}
    (h : k < op.stored w) :
    (w &&& 0xF0FF = 0xF033 ∧ k < 3) ∨ (w &&& 0xF0FF = 0xF055 ∧ k ≤ w.x.val) := by
  cases op
  case storeDecimal => exact Or.inl ⟨hbits, h⟩
  case storeRegisters => exact Or.inr ⟨hbits, Nat.le_of_lt_succ h⟩
  all_goals cases h

theorem bits_of_setsFlag (hbits : w &&& op.row.mask = op.row.pattern) (h : op.setsFlag = true) :
    w &&& 0xF00F = 0x8004 ∨ w &&& 0xF00F = 0x8005 ∨ w &&& 0xF00F = 0x8006 ∨
      w &&& 0xF000 = 0xD000 := by
  cases op
  case add => exact Or.inl hbits
  case subtract => exact Or.inr (Or.inl hbits)
  case shiftRight => exact Or.inr (Or.inr (Or.inl hbits))
  case draw => exact Or.inr (Or.inr (Or.inr hbits))
  all_goals cases h

/-- Apart from the operations that set the flag register too. -/
theorem bits_of_setsRegister (hbits : w &&& op.row.mask = op.row.pattern)
    (h : op.setsRegister = true ∨ op = .loadRegisters) :
    op.setsFlag = true ∨
      (w &&& 0xF000 = 0x6000 ∨ w &&& 0xF000 = 0x7000 ∨ w &&& 0xF00F = 0x8000 ∨
        w &&& 0xF00F = 0x8002 ∨ w &&& 0xF00F = 0x8003 ∨ w &&& 0xF000 = 0xC000 ∨
        w &&& 0xF0FF = 0xF007 ∨ w &&& 0xF0FF = 0xF00A ∨ w &&& 0xF0FF = 0xF065) := by
  cases op
  case add | subtract | shiftRight => exact Or.inl rfl
  case loadByte =>
    have hword : w &&& 0xF000 = 0x6000 := hbits
    simp only [hword, true_or, or_true]
  case addByte =>
    have hword : w &&& 0xF000 = 0x7000 := hbits
    simp only [hword, true_or, or_true]
  case copy =>
    have hword : w &&& 0xF00F = 0x8000 := hbits
    simp only [hword, true_or, or_true]
  case and =>
    have hword : w &&& 0xF00F = 0x8002 := hbits
    simp only [hword, true_or, or_true]
  case xor =>
    have hword : w &&& 0xF00F = 0x8003 := hbits
    simp only [hword, true_or, or_true]
  case random =>
    have hword : w &&& 0xF000 = 0xC000 := hbits
    simp only [hword, true_or, or_true]
  case readDelay =>
    have hword : w &&& 0xF0FF = 0xF007 := hbits
    simp only [hword, true_or, or_true]
  case waitKey =>
    have hword : w &&& 0xF0FF = 0xF00A := hbits
    simp only [hword, true_or, or_true]
  case loadRegisters =>
    have hword : w &&& 0xF0FF = 0xF065 := hbits
    simp only [hword, or_true]
  all_goals simp [setsRegister] at h

end Operation

namespace Emulator

variable {e : Emulator δ} [Screen δ]

/-- What a word that is executed with success leaves alone, and how far it moves the stack pointer
and the random source. -/
theorem framedBy_of_execute (htable : e.machine.table = some standardTable) {w : Word}
    {e' : Emulator δ} (h : execute w e = .ok () e') :
    Machine.FramedBy w e.machine e'.machine := by
  obtain ⟨op, e₁, hop, hp, he⟩ := of_execute_ok htable h
  have honly : e.machine.ChangesOnly (op.Targets w e.machine) e'.machine := by
    have := changesOnly_execute htable hop
    rwa [h] at this
  have hbits (op' : Operation) : op = op' ↔ w &&& op'.row.mask = op'.row.pattern := by
    rw [← Word.operation?_eq_some_iff, hop, Option.some_inj]
  have hword : w &&& op.row.mask = op.row.pattern := (hbits op).mp rfl
  exact {
    memorySize := honly .memorySize id
    byte := fun a hne => by
      obtain ⟨k, hk, ha⟩ := honly.of_not_isSame (.byte a) hne
      obtain ⟨hstore, hk⟩ | ⟨hstore, hk⟩ := Operation.bits_of_stored hword hk
      · exact Or.inl ⟨hstore, k, hk, ha⟩
      · exact Or.inr ⟨hstore, k, hk, ha⟩
    index := fun hne => (honly.of_not_isSame .index hne).imp (hbits .loadIndex).mp
      (Or.imp (hbits .addIndex).mp (hbits .pointAtGlyph).mp)
    delay := fun hne => (hbits .setDelay).mp (honly.of_not_isSame .delay hne)
    sound := fun hne => (hbits .setSound).mp (honly.of_not_isSame .sound hne)
    slot := fun s hne => by
      obtain ⟨hcall, hslot⟩ := honly.of_not_isSame (.slot s) hne
      exact ⟨(hbits .call).mp hcall, by rw [place?, hslot]; rfl⟩
    stackPointer := sp_of_execute htable h
    display := fun hne => by
      refine (honly.of_not_isSame .display hne).imp (fun hop' => ?_) (hbits .draw).mp
      exact BitVec.and_allOnes.symm.trans ((hbits .clearScreen).mp hop')
    random := by
      split
      case isTrue hrandom =>
        cases (hbits .random).mpr hrandom
        cases hp
        rw [he]
        rfl
      case isFalse hrandom => exact honly .random fun hop' => hrandom ((hbits .random).mp hop')
    register := fun r hx hflag hne => by
      obtain ⟨-, hr⟩ | ⟨-, hr⟩ | ⟨hload, hle⟩ := honly.of_not_isSame (.register r) hne
      · exact absurd hr hx
      · exact absurd hr hflag
      · exact ⟨(hbits .loadRegisters).mp hload, hle⟩
    flag := fun hne => by
      obtain ⟨hsets, hx⟩ | ⟨hsets, -⟩ | ⟨hload, hle⟩ :=
        honly.of_not_isSame (.register flagRegister) hne
      · refine (Operation.bits_of_setsRegister hword (Or.inl hsets)).imp ?_ fun hw => ⟨hx.symm, hw⟩
        exact Operation.bits_of_setsFlag hword
      · exact Or.inl (Operation.bits_of_setsFlag hword hsets)
      · have hx : w.x = flagRegister := Fin.le_antisymm (Fin.le_last w.x) hle
        refine (Operation.bits_of_setsRegister hword (Or.inr hload)).imp ?_ fun hw => ⟨hx, hw⟩
        exact Operation.bits_of_setsFlag hword
    keyboard := honly .keyboard id
    audio := honly .audio id }

/-- Two registers are stored into a memory of eight bytes, across its end: the index is negative. -/
theorem framedBy_of_execute_store : ∃ e e' : Emulator FrameBuffer,
    e.machine.table = some standardTable ∧ execute 0xF155 e = .ok () e' ∧
    e'.machine.memory.cells = #[8, 0, 0, 0, 0, 0, 0, 9] ∧
    Machine.FramedBy 0xF155 e.machine e'.machine := by
  let e : Emulator FrameBuffer :=
    { machine :=
        { cpu := (({ i := -1 } : Cpu).set 0 9).set 1 8
          memory := Memory.ofSize 8
          display := FrameBuffer.blank 8 4
          keyboard := .latch 5
          audio := .counter {} }
      host := {} }
  obtain ⟨e', h, hcells⟩ : ∃ e', execute 0xF155 e = .ok () e' ∧
      e'.machine.memory.cells = #[8, 0, 0, 0, 0, 0, 0, 9] :=
    ⟨_, execute_of_operation? rfl (Word.operation?_eq_some_iff.mpr (by decide) :
      (0xF155 : Word).operation? = some .storeRegisters), rfl⟩
  exact ⟨e, e', rfl, h, hcells, framedBy_of_execute rfl h⟩

end Emulator

end Chip8
