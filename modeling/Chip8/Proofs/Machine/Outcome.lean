/-
  How each operation ends on a bounded machine. `Operation.fault?` tells how an operation fails,
  if it does, from the machine it starts on: returns and calls by the stack pointer, runs
  through memory by the index, drawing by the rows on the screen and by the scale of the window.
  `perform_of_fault?` and `perform_of_none` say that this is what happens, and `Leaves` what a
  failure leaves.
-/
import Chip8.Proofs.Machine.Transfer

namespace Chip8

namespace Machine

/-- The bounds of a machine with the standard table: the program counter is no further than
`limit`. -/
structure IsBounded (limit : Int) (m : Machine Display) : Prop where
  cpu : m.cpu.IsBounded limit
  memory : m.memory.size = Memory.standardSize
  table : m.table = some standardTable
  hint : m.hint = Number.one

variable {m : Machine Display} {limit : Int}

theorem IsBounded.canTransfer (hm : m.IsBounded limit) : m.CanTransfer where
  i_nonneg := hm.cpu.i_nonneg
  i_le := hm.cpu.i_le
  size_le := by rw [hm.memory]; decide

/-! ## Fetching -/

theorem IsBounded.fetch_of_lt (hm : m.IsBounded limit) (h : m.cpu.pc < 0xFFF) :
    m.fetch = .ok (Word.ofBytes (m.memory.byte m.cpu.pc.toNat)
      (m.memory.byte (m.cpu.pc + 1).toNat)) := by
  have hsize := hm.memory
  unfold Memory.standardSize at hsize
  exact Memory.loadWord_of_lt hm.cpu.pc_nonneg (by omega) hm.canTransfer.size_le

theorem IsBounded.fetch_of_le (hm : m.IsBounded 0x1002) (h : 0xFFF ≤ m.cpu.pc) :
    m.fetch = .error .cellIndex := by
  have hsize := hm.memory
  have hpc := hm.cpu.pc_le
  unfold Memory.standardSize at hsize
  exact Memory.loadWord_of_le hm.cpu.pc_nonneg (by omega) hm.canTransfer.size_le
    (by unfold greatestIndex; omega)

/-- Where a word can be fetched, there are two bytes. -/
theorem IsBounded.of_fetch (hm : m.IsBounded 0x1002) {w : Word} (h : m.fetch = .ok w) :
    m.IsBounded 0xFFE := by
  have hpc : m.cpu.pc < 0xFFF := by
    by_contra hpc
    rw [hm.fetch_of_le (by omega)] at h
    cases h
  exact { hm with cpu := { hm.cpu with pc_le := by omega } }

/-! ## Sprites in memory -/

/-- The number of rows of the word's sprite that lie on the screen. -/
def spriteRows (m : Machine Display) (w : Word) : Nat :=
  Sprite.visibleRows w.n (m.cpu.get w.y).toNat (Screen.height m.display)

/-- The number of these rows that memory holds. -/
def readableRows (m : Machine Display) (w : Word) : Nat :=
  min (m.spriteRows w) (m.memory.size - m.base)

/-- The places of the dots of the rows that memory holds. -/
def spriteDots (m : Machine Display) (w : Word) : List (Nat × Nat) :=
  Sprite.dots m.bytesAtIndex (m.cpu.get w.x).toNat (m.cpu.get w.y).toNat (Screen.width m.display)
    (m.readableRows w)

/-- The places that drawing gets to. -/
def drawnDots (m : Machine Display) (w : Word) : List (Nat × Nat) :=
  Sprite.reached m.display (m.spriteDots w)

/-- The flag that drawing sets: whether a lit cell was met. -/
def collision (m : Machine Display) (w : Word) : Byte :=
  if (m.drawnDots w).any m.display.isLit then 1 else 0

/-- How drawing fails, if it does. -/
def drawFault? (m : Machine Display) (w : Word) : Option Fault :=
  if m.display.isOversized = true ∧ m.spriteDots w ≠ [] then some .numberTooLarge
  else if m.readableRows w < m.spriteRows w then some .cellIndex
  else none

end Machine

namespace Emulator

variable {e : Emulator Display} {limit : Int}

theorem drawSprite_eq (hm : e.machine.IsBounded limit) (hcount : e.machine.display.IsCountable)
    (w : Word) :
    ∃ d h, e.machine.display.Flipped (e.machine.drawnDots w) d ∧
      drawSprite w.x w.y w.n e = ended (e.machine.drawFault? w)
        ⟨{ e.machine with
            display := d
            cpu := e.machine.cpu.set flagRegister (e.machine.collision w) }, h⟩ := by
  have hrows : w.n < 16 := w.n_lt
  have hle : e.machine.spriteRows w ≤ w.n := Nat.min_le_left ..
  have hread : ∀ i < e.machine.readableRows w,
      e.machine.memory.load (e.machine.cpu.i + i) = .ok (e.machine.bytesAtIndex i) :=
    fun i hi => hm.canTransfer.load_of_lt (by unfold Machine.readableRows at hi; omega)
  have hstop : e.machine.readableRows w < e.machine.spriteRows w →
      e.machine.memory.load (e.machine.cpu.i + e.machine.readableRows w) = .error .cellIndex :=
    fun hlt => hm.canTransfer.load_of_le (by omega) (by
      unfold Machine.readableRows at hlt ⊢
      omega)
  obtain ⟨⟨⟨d, h⟩, hit⟩, hflipped, hhit, hdraw⟩ := Sprite.draw_eq (c := ⟨e.stage, false⟩)
    (e.machine.cpu.get w.x).toNat hcount (Nat.min_le_left ..) hread hstop
  refine ⟨d, h, hflipped, ?_⟩
  have hdef : drawSprite w.x w.y w.n e =
      resultWithin
        (fun s => (e.withStage s.screen).mapCpu (·.set flagRegister (if s.hit then 1 else 0)))
        (Sprite.draw e.machine.hint (fun row => e.machine.memory.load (e.machine.cpu.i + row))
          (e.machine.cpu.get w.x).toNat (e.machine.cpu.get w.y).toNat w.n ⟨e.stage, false⟩) := rfl
  rw [hdef, hm.hint, hdraw, resultWithin_ended]
  rw [Bool.false_or] at hhit
  dsimp only at hhit
  subst hhit
  rfl

end Emulator

/-! ## Failing and what it leaves -/

/-- How an operation fails on a bounded machine, if it does. -/
def Operation.fault? (op : Operation) (w : Word) (m : Machine Display) : Option Fault :=
  match op with
  | .ret => m.cpu.retFault?
  | .call => m.cpu.callFault?
  | .storeDecimal => m.runFault? 3
  | .storeRegisters => m.runFault? (w.x.val + 1)
  | .loadRegisters => m.runFault? (w.x.val + 1)
  | .draw => m.drawFault? w
  | _ => none

/-- The machines that an operation leaves when it fails. -/
inductive Machine.Leaves (m : Machine Display) (w : Word) : Operation → Machine Display → Prop
  | ret : m.Leaves w .ret { m with cpu := { m.cpu with sp := m.cpu.sp - 1 } }
  | call : m.Leaves w .call m
  | storeDecimal : m.Leaves w .storeDecimal { m with
      memory := m.memory.withBytes m.base 3 (Emulator.decimalDigit (m.cpu.get w.x).toNat) }
  | storeRegisters : m.Leaves w .storeRegisters { m with
      memory := m.memory.withBytes m.base (w.x.val + 1) fun k => m.cpu.get (Register.ofNat k) }
  | loadRegisters : m.Leaves w .loadRegisters { m with
      cpu := m.cpu.withRegisters (min (w.x.val + 1) (m.memory.size - m.base)) m.bytesAtIndex }
  | draw {d : Display} (h : m.display.Flipped (m.drawnDots w) d) : m.Leaves w .draw { m with
      display := d, cpu := m.cpu.set flagRegister (m.collision w) }

namespace Emulator

variable {e : Emulator Display} {limit : Int} {w : Word} {op : Operation}

theorem perform_of_fault? (hm : e.machine.IsBounded limit)
    (hcount : e.machine.display.IsCountable) {fault : Fault}
    (h : op.fault? w e.machine = some fault) :
    ∃ e', perform op w e = .error fault e' ∧ e.machine.Leaves w op e'.machine := by
  cases op
  case ret =>
    refine ⟨⟨_, e.host⟩, ?_, .ret⟩
    exact (onCpu_eq Cpu.ret e).trans (by rw [Cpu.ret_of_retFault? h]; rfl)
  case call =>
    exact ⟨e, tryCpu_of_error (·.call w.nnn) (Cpu.call_of_callFault? w.nnn h), .call⟩
  case storeDecimal =>
    refine ⟨⟨_, e.host⟩, ?_, .storeDecimal⟩
    change e.machine.runFault? 3 = some fault at h
    exact (storeDecimal_eq hm.canTransfer w.x).trans (by rw [h]; rfl)
  case storeRegisters =>
    refine ⟨⟨_, e.host⟩, ?_, .storeRegisters⟩
    change e.machine.runFault? (w.x.val + 1) = some fault at h
    exact (storeRegisters_eq hm.canTransfer w.x).trans (by rw [h]; rfl)
  case loadRegisters =>
    refine ⟨⟨_, e.host⟩, ?_, .loadRegisters⟩
    change e.machine.runFault? (w.x.val + 1) = some fault at h
    exact (loadRegisters_eq hm.canTransfer w.x).trans (by rw [h]; rfl)
  case draw =>
    obtain ⟨d, host, hflipped, hdraw⟩ := drawSprite_eq hm hcount w
    refine ⟨⟨_, host⟩, ?_, .draw hflipped⟩
    change e.machine.drawFault? w = some fault at h
    exact hdraw.trans (by rw [h]; rfl)
  all_goals cases h

theorem perform_of_none (hm : e.machine.IsBounded limit)
    (hcount : e.machine.display.IsCountable) (h : op.fault? w e.machine = none) :
    ∃ e', perform op w e = .ok () e' := by
  cases op
  case ret =>
    obtain ⟨slot, hret⟩ := Cpu.ret_of_none hm.cpu.sp_le h
    exact ⟨_, (onCpu_eq Cpu.ret e).trans (by rw [hret]; rfl)⟩
  case call =>
    obtain ⟨slot, hcall⟩ := Cpu.call_of_none w.nnn hm.cpu.sp_le h
    exact ⟨_, tryCpu_of_ok (·.call w.nnn) hcall⟩
  case readDelay =>
    exact ⟨_, tryCpu_of_ok (·.readDelay w.x) (Cpu.readDelay_of_isBounded hm.cpu w.x)⟩
  case storeDecimal =>
    change e.machine.runFault? 3 = none at h
    exact ⟨_, (storeDecimal_eq hm.canTransfer w.x).trans (by rw [h]; rfl)⟩
  case storeRegisters =>
    change e.machine.runFault? (w.x.val + 1) = none at h
    exact ⟨_, (storeRegisters_eq hm.canTransfer w.x).trans (by rw [h]; rfl)⟩
  case loadRegisters =>
    change e.machine.runFault? (w.x.val + 1) = none at h
    exact ⟨_, (loadRegisters_eq hm.canTransfer w.x).trans (by rw [h]; rfl)⟩
  case draw =>
    obtain ⟨d, host, -, hdraw⟩ := drawSprite_eq hm hcount w
    change e.machine.drawFault? w = none at h
    exact ⟨_, hdraw.trans (by rw [h]; rfl)⟩
  all_goals exact ⟨_, rfl⟩

/-! ## Executing -/

theorem execute_of_fault? (hm : e.machine.IsBounded limit)
    (hcount : e.machine.display.IsCountable) (hop : w.operation? = some op) {fault : Fault}
    (h : op.fault? w e.machine = some fault) :
    ∃ e', execute w e = .error fault e' ∧ e.machine.Leaves w op e'.machine := by
  rw [execute_of_operation? hm.table hop]
  obtain ⟨e', hperform, hleaves⟩ := perform_of_fault? (e := e.announce op w) hm hcount h
  exact ⟨e', Act.bind_error hperform, hleaves⟩

theorem execute_of_fault?_none (hm : e.machine.IsBounded limit)
    (hcount : e.machine.display.IsCountable) (hop : w.operation? = some op)
    (h : op.fault? w e.machine = none) : ∃ e', execute w e = .ok () e' := by
  rw [execute_of_operation? hm.table hop]
  obtain ⟨e', hperform⟩ := perform_of_none (e := e.announce op w) hm hcount h
  exact ⟨_, Act.bind_ok hperform⟩

end Emulator

end Chip8
