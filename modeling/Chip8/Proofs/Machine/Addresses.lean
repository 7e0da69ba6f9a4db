/-
  Where a step goes. A step goes to the addresses of its word and to the run of bytes that its
  operation goes through from the index on (`addresses`). All of them are addresses from the
  front, inside the memory, when the step succeeds (`mem_addresses`). It goes nowhere else: with
  another memory that holds the same bytes there, the step does the same, and changes bytes
  there only (`step_withMemory`). On the display it goes to coordinates inside the display only
  (`step_guarded`).
-/
import Chip8.Proofs.Display.Guarded
import Chip8.Proofs.Machine.Agree
import Chip8.Proofs.Machine.Outcome

namespace Chip8

/-- The number of bytes from the index on that an operation goes through. -/
def Operation.reach (op : Operation) (w : Word) (m : Machine Display) : Nat :=
  match op with
  | .storeDecimal => 3
  | .storeRegisters => w.x.val + 1
  | .loadRegisters => w.x.val + 1
  | .draw => m.spriteRows w
  | _ => 0

namespace Machine

/-- The addresses that a step goes to, with the word at the program counter. -/
def addresses (m : Machine Display) (w : Word) : List Int :=
  [m.cpu.pc, m.cpu.pc + 1] ++
    (List.range ((w.operation?.map (·.reach w m)).getD 0)).map fun k => m.cpu.i + (k : Nat)

variable {m : Machine Display} {limit : Int} {w : Word} {op : Operation}

theorem mem_addresses_iff (hop : w.operation? = some op) {a : Int} :
    a ∈ m.addresses w ↔
      a = m.cpu.pc ∨ a = m.cpu.pc + 1 ∨ ∃ k < op.reach w m, m.cpu.i + (k : Nat) = a := by
  simp [addresses, hop]

/-- An operation that does not fail stays inside the memory. -/
theorem IsBounded.reach_le (hm : m.IsBounded limit) (h : op.fault? w m = none) :
    op.reach w m = 0 ∨ m.cpu.i + op.reach w m ≤ Memory.standardSize := by
  have hsize := hm.memory
  have hi := hm.cpu.i_nonneg
  have hrun {count : Nat} (h : m.runFault? count = none) :
      m.cpu.i + count ≤ Memory.standardSize := by
    unfold runFault? at h
    split at h
    · cases h
    · omega
  cases op
  case storeDecimal => exact Or.inr (hrun h)
  case storeRegisters => exact Or.inr (hrun h)
  case loadRegisters => exact Or.inr (hrun h)
  case draw =>
    change m.drawFault? w = none at h
    change m.spriteRows w = 0 ∨ m.cpu.i + m.spriteRows w ≤ Memory.standardSize
    unfold drawFault? at h
    split at h
    · cases h
    · split at h
      · cases h
      · rename_i hread
        unfold readableRows base at hread
        omega
  all_goals exact Or.inl rfl

end Machine

namespace Memory

/-- The memory with the bytes at some addresses taken from another one. -/
def patched (m : Memory) (addresses : List Int) (source : Memory) : Memory :=
  ⟨m.cells.mapIdx fun a old => if (a : Int) ∈ addresses then source.byte a else old⟩

theorem size_patched (m : Memory) (addresses : List Int) (source : Memory) :
    (m.patched addresses source).size = m.size := by
  simp [size, patched]

theorem byte_patched {m : Memory} {a : Nat} (ha : a < m.size) (addresses : List Int)
    (source : Memory) : (m.patched addresses source).byte a =
      if (a : Int) ∈ addresses then source.byte a else m.byte a := by
  have ha' : a < m.cells.size := ha
  simp [byte, patched, ha']

/-- Where two memories agree on some addresses and the same run of bytes is put there into
both, one becomes the other by taking over these addresses. -/
theorem patched_withBytes {m source : Memory} {addresses : List Int} {start count : Nat}
    {bytes : Nat → Byte} (hsize : source.size ≤ m.size) (hindex : m.size ≤ greatestIndex)
    (hrange : ∀ a ∈ addresses, 0 ≤ a ∧ a < source.size)
    (hsame : ∀ a ∈ addresses, m.load a = source.load a)
    (hrun : ∀ k < count, ((start + k : Nat) : Int) ∈ addresses) :
    m.patched addresses (source.withBytes start count bytes) = m.withBytes start count bytes := by
  apply ext_byte (by rw [size_patched, size_withBytes])
  intro a ha
  rw [size_patched] at ha
  rw [byte_patched ha, byte_withBytes ha]
  by_cases hmem : (a : Int) ∈ addresses
  · have hlt := (hrange a hmem).2
    have hload := hsame a hmem
    rw [load_of_lt (by omega) (by omega) hindex, load_of_lt (by omega) hlt (by omega)] at hload
    injection hload with hbyte
    rw [Int.toNat_natCast] at hbyte
    rw [if_pos hmem, byte_withBytes (by omega), hbyte]
  · have hout : ¬ (start ≤ a ∧ a < start + count) := by
      intro h
      have := hrun (a - start) (by omega)
      rw [show start + (a - start) = a by omega] at this
      exact hmem this
    rw [if_neg hmem, if_neg hout]

end Memory

namespace Emulator

variable {e e' : Emulator Display} {limit : Int} {w : Word} {op : Operation} {memory : Memory}

/-! ## With another memory -/

/-- The second emulator is the first one, whose memory is `own`, with another memory. -/
def IsSwapped (own memory : Memory) (e e' : Emulator Display) : Prop :=
  e.machine.memory = own ∧ e' = e.withMemory memory

theorem shares_isSwapped (own memory : Memory) : Shares (IsSwapped own memory) where
  cpu := by rintro _ _ ⟨-, rfl⟩; rfl
  key := by rintro _ _ ⟨-, rfl⟩; rfl
  random := by rintro _ _ ⟨-, rfl⟩; rfl
  withCpu := by rintro _ _ ⟨h, rfl⟩ _; exact ⟨h, rfl⟩
  withRandom := by rintro _ _ ⟨h, rfl⟩ _; exact ⟨h, rfl⟩
  counted := by rintro _ _ ⟨h, rfl⟩; exact ⟨h, rfl⟩
  log := by rintro _ _ ⟨h, rfl⟩ _ _; exact ⟨h, rfl⟩

/-- Loading registers from bytes that both memories hold. -/
theorem agree_loadRegisters (own memory : Memory) (i : Int) (x : Register)
    (h : ∀ k < x.val + 1, memory.load (i + (k : Nat)) = own.load (i + (k : Nat))) :
    Act.Agree (fun e e' : Emulator Display => IsSwapped own memory e e' ∧ e.machine.cpu.i = i)
      (eachRegister x loadRegister) (eachRegister x loadRegister) := by
  refine Act.agree_forM _ fun k hk => ?_
  rintro e _ ⟨⟨hown, rfl⟩, hi⟩
  have hload : memory.load (e.machine.cpu.i + k) = e.machine.memory.load (e.machine.cpu.i + k) := by
    rw [hi, hown]
    exact h k (List.mem_range.mp hk)
  cases hbyte : e.machine.memory.load (e.machine.cpu.i + k) with
  | ok b =>
    rw [loadRegister_of_ok hbyte, loadRegister_of_ok (hload.trans hbyte)]
    exact .ok ⟨⟨hown, rfl⟩, hi⟩
  | error fault =>
    rw [loadRegister_of_error hbyte, loadRegister_of_error (hload.trans hbyte)]
    exact .error ⟨⟨hown, rfl⟩, hi⟩

/-- Drawing rows that both memories hold. -/
theorem matching_drawSprite (w : Word) (h : ∀ k < e.machine.spriteRows w,
      memory.load (e.machine.cpu.i + (k : Nat)) =
        e.machine.memory.load (e.machine.cpu.i + (k : Nat))) :
    Matching (IsSwapped e.machine.memory memory) (drawSprite w.x w.y w.n e)
      (drawSprite w.x w.y w.n (e.withMemory memory)) := by
  have hdraw := Sprite.draw_congr e.machine.hint
    (fun row => memory.load (e.machine.cpu.i + row))
    (fun row => e.machine.memory.load (e.machine.cpu.i + row)) (e.machine.cpu.get w.x).toNat
    (e.machine.cpu.get w.y).toNat w.n ⟨e.stage, false⟩ h
  unfold drawSprite
  change Matching _ (resultWithin _ (Sprite.draw _ _ _ _ _ _)) (resultWithin _
    (Sprite.draw e.machine.hint (fun row => memory.load (e.machine.cpu.i + row))
      (e.machine.cpu.get w.x).toNat (e.machine.cpu.get w.y).toNat w.n ⟨e.stage, false⟩))
  rw [hdraw]
  exact (Matching.refl _).resultWithin fun s _ hs => hs ▸ ⟨rfl, rfl⟩

/-- Storing a run of bytes that fits. -/
theorem store_withMemory {act : Act (Emulator Display) Unit} {count : Nat} (bytes : Nat → Byte)
    (hact : ∀ e₁ : Emulator Display, e₁.machine.CanTransfer →
      e₁.machine.cpu = e.machine.cpu → act e₁ = ended (e₁.machine.runFault? count)
        (e₁.withMemory (e₁.machine.memory.withBytes e₁.machine.base count bytes)))
    (hm : e.machine.CanTransfer) (hsize : e.machine.memory.size ≤ memory.size)
    (hindex : memory.size ≤ greatestIndex) (h : act e = .ok () e') :
    e'.machine.memory = e.machine.memory.withBytes e.machine.base count bytes ∧
    act (e.withMemory memory) =
      .ok () (e'.withMemory (memory.withBytes e.machine.base count bytes)) := by
  rw [hact e hm rfl, ended_eq_ok_iff] at h
  obtain ⟨hfault, rfl⟩ := h
  have hfault' : (e.withMemory memory).machine.runFault? count = none := by
    unfold Machine.runFault? at hfault ⊢
    split at hfault
    · cases hfault
    · exact if_neg (by change ¬ (memory.size : Int) < e.machine.cpu.i + count; omega)
  refine ⟨rfl, ?_⟩
  rw [hact (e.withMemory memory) ⟨hm.i_nonneg, hm.i_le, hindex⟩ rfl, hfault']
  rfl

/-- With another memory that holds the same bytes in the run, an operation does the same, and
puts the same bytes there. -/
theorem perform_withMemory (hm : e.machine.CanTransfer)
    (hsize : e.machine.memory.size ≤ memory.size) (hindex : memory.size ≤ greatestIndex)
    (hsame : ∀ k < op.reach w e.machine, memory.load (e.machine.cpu.i + (k : Nat)) =
      e.machine.memory.load (e.machine.cpu.i + (k : Nat)))
    (h : perform op w e = .ok () e') :
    ∃ count ≤ op.reach w e.machine, ∃ bytes,
      e'.machine.memory = e.machine.memory.withBytes e.machine.base count bytes ∧
      perform op w (e.withMemory memory) =
        .ok () (e'.withMemory (memory.withBytes e.machine.base count bytes)) := by
  have hnone {r : EStateM.Result Fault (Emulator Display) Unit}
      (hr : Matching (IsSwapped e.machine.memory memory) (perform op w e) r) :
      e'.machine.memory = e.machine.memory.withBytes e.machine.base 0 (fun _ => 0) ∧
      r = .ok () (e'.withMemory (memory.withBytes e.machine.base 0 fun _ => 0)) := by
    obtain ⟨_, ⟨hown, rfl⟩, rfl⟩ := hr.of_ok h
    rw [Memory.withBytes_zero, Memory.withBytes_zero]
    exact ⟨hown, rfl⟩
  cases op
  case storeDecimal =>
    exact ⟨3, le_rfl, _, store_withMemory (decimalDigit (e.machine.cpu.get w.x).toNat)
      (fun e₁ hm₁ hcpu => hcpu ▸ storeDecimal_eq hm₁ w.x) hm hsize hindex h⟩
  case storeRegisters =>
    exact ⟨w.x.val + 1, le_rfl, _, store_withMemory (fun k => e.machine.cpu.get (Register.ofNat k))
      (fun e₁ hm₁ hcpu => hcpu ▸ storeRegisters_eq hm₁ w.x) hm hsize hindex h⟩
  case loadRegisters =>
    have hload := agree_loadRegisters e.machine.memory memory e.machine.cpu.i w.x hsame e
      (e.withMemory memory) ⟨⟨rfl, rfl⟩, rfl⟩
    exact ⟨0, Nat.zero_le _, _, hnone (hload.mono fun _ _ h => h.1)⟩
  case draw => exact ⟨0, Nat.zero_le _, _, hnone (matching_drawSprite w hsame)⟩
  case clearScreen => exact ⟨0, Nat.zero_le _, _, hnone (.ok ⟨rfl, rfl⟩)⟩
  all_goals exact ⟨0, Nat.zero_le _, _,
    hnone ((shares_isSwapped _ memory).agree_perform rfl w _ _ ⟨rfl, rfl⟩)⟩

theorem complete_withMemory {δ : Type} (row : Opcode) (memory : Memory) (e : Emulator δ) :
    complete row (e.withMemory memory) = (complete row e).withMemory memory := by
  unfold complete
  split <;> rfl

/-! ## Steps that succeed -/

variable (hm : e.machine.IsBounded 0x1002) (hcount : e.machine.display.IsCountable)
include hm hcount

/-- A step that succeeds goes to addresses inside the memory only. -/
theorem mem_addresses (h : step e = .ok w e') :
    ∀ a ∈ e.machine.addresses w, 0 ≤ a ∧ a < Memory.standardSize := by
  obtain ⟨op, e₁, hf, hop, hp, -⟩ := of_step_ok hm.table h
  have hc := (hm.of_fetch hf).cpu
  have hfault : op.fault? w e.machine = none := by
    cases hfault : op.fault? w e.machine with
    | none => rfl
    | some fault =>
      obtain ⟨_, hp', -⟩ := perform_of_fault? (e := e.announce op w) hm hcount hfault
      rw [hp'] at hp
      cases hp
  have hreach := hm.reach_le hfault
  have hpc := hc.pc_nonneg
  have hpc' := hc.pc_le
  have hi := hc.i_nonneg
  intro a ha
  unfold Memory.standardSize at hreach ⊢
  rcases (Machine.mem_addresses_iff hop).mp ha with rfl | rfl | ⟨k, hk, rfl⟩ <;> omega

/-- With another memory that holds the same bytes at the addresses a step goes to, the step does
the same, and changes bytes at these addresses only. -/
theorem step_withMemory (h : step e = .ok w e') (hsize : Memory.standardSize ≤ memory.size)
    (hindex : memory.size ≤ greatestIndex)
    (hsame : ∀ a ∈ e.machine.addresses w, memory.load a = e.machine.memory.load a) :
    step (e.withMemory memory) =
      .ok w (e'.withMemory (memory.patched (e.machine.addresses w) e'.machine.memory)) := by
  have hrange := mem_addresses hm hcount h
  obtain ⟨op, e₁, hf, hop, hp, rfl⟩ := of_step_ok hm.table h
  have hmem {a : Int} := Machine.mem_addresses_iff (m := e.machine) hop (a := a)
  have hsize' : e.machine.memory.size ≤ memory.size := hm.memory ▸ hsize
  have hfetch : (e.withMemory memory).machine.fetch = .ok w := by
    rw [← hf]
    change memory.loadWord e.machine.cpu.pc = e.machine.memory.loadWord e.machine.cpu.pc
    unfold Memory.loadWord
    rw [hsame _ (hmem.mpr (Or.inl rfl)), hsame _ (hmem.mpr (Or.inr (Or.inl rfl)))]
  obtain ⟨count, hle, bytes, hown, hp'⟩ := perform_withMemory (e := e.announce op w) hm.canTransfer
    hsize' hindex (fun k hk => hsame _ (hmem.mpr (Or.inr (Or.inr ⟨k, hk, rfl⟩)))) hp
  have hrun : ∀ k < count, ((e.machine.base + k : Nat) : Int) ∈ e.machine.addresses w := by
    intro k hk
    refine hmem.mpr (Or.inr (Or.inr ⟨k, Nat.lt_of_lt_of_le hk hle, ?_⟩))
    have := hm.cpu.i_nonneg
    unfold Machine.base
    omega
  rw [step_of_perform (e := e.withMemory memory) hm.table hfetch hop hp', complete_withMemory,
    memory_complete, hown]
  exact congrArg (fun memory => EStateM.Result.ok w (withMemory memory _))
    (Memory.patched_withBytes hsize' hindex (hm.memory ▸ hrange) hsame hrun).symm

omit hm hcount

/-! ## Behind a guard -/

/-- The emulator with its display behind a guard. -/
def guarded (e : Emulator Display) : Emulator Guarded where
  machine :=
    { cpu := e.machine.cpu
      executed := e.machine.executed
      memory := e.machine.memory
      display := ⟨e.machine.display⟩
      keyboard := e.machine.keyboard
      audio := e.machine.audio
      random := e.machine.random
      table := e.machine.table
      hint := e.machine.hint }
  host := e.host

theorem sharesMemory_guarded :
    SharesMemory fun (e : Emulator Display) (e' : Emulator Guarded) => e' = e.guarded where
  cpu := by rintro _ _ rfl; rfl
  key := by rintro _ _ rfl; rfl
  random := by rintro _ _ rfl; rfl
  withCpu := by rintro _ _ rfl _; rfl
  withRandom := by rintro _ _ rfl _; rfl
  counted := by rintro _ _ rfl; rfl
  log := by rintro _ _ rfl _ _; rfl
  memory := by rintro _ _ rfl; rfl
  withMemory := by rintro _ _ rfl _; rfl

theorem agree_drawSprite_guarded (x y : Register) (count : Nat) :
    Act.Agree (fun (e : Emulator Display) (e' : Emulator Guarded) => e' = e.guarded)
      (drawSprite x y count) (drawSprite x y count) := by
  rintro e _ rfl
  have hdraw := Sprite.agree_draw e.machine.display.frame e.machine.hint
    (fun row => e.machine.memory.load (e.machine.cpu.i + row)) (e.machine.cpu.get x).toNat
    (e.machine.cpu.get y).toNat count ⟨e.stage, false⟩ _ ⟨rfl, rfl⟩
  refine hdraw.resultWithin fun c c' hc => ?_
  obtain ⟨-, rfl⟩ := hc
  rfl

/-- A step does behind a guard what it does without, whether it succeeds or fails. -/
theorem step_guarded (htable : e.machine.table = some standardTable) :
    step e.guarded = resultWithin guarded (step e) := by
  have hmatch : Matching (fun e e' => e' = e.guarded) (step e) (step e.guarded) := by
    refine matching_step sharesMemory_guarded.toShares rfl htable htable rfl
      fun w op _ _ e₁ e₁' h _ _ => ?_
    by_cases hdraw : op = .draw
    · subst hdraw
      exact agree_drawSprite_guarded w.x w.y w.n e₁ e₁' h
    · by_cases hclear : op = .clearScreen
      · subst hclear h
        exact .ok rfl
      · exact sharesMemory_guarded.agree_perform hclear hdraw w e₁ e₁' h
  generalize step e = r at hmatch
  generalize step e.guarded = r' at hmatch
  cases hmatch with
  | ok h => rw [h]; rfl
  | error h => rw [h]; rfl

end Emulator

end Chip8
