/-
  Blocks of bytes at any address. The target of a block is the run of cells from its address up to
  its end; a bound below zero counts from the back, and what lies outside the memory is no cell
  (`cellsBetween`). A block is written if its target has as many cells as the block has bytes
  (`loadBlock_of_fits`), which an address below zero makes impossible once the end reaches zero
  (`card_target`); it is then read back from the same address. Anything else leaves the memory
  alone. The main statement is `exact_of_loadIntegers`.
-/
import Chip8.Proofs.Machine.Transfer
import Mathlib.Order.Interval.Finset.Nat

namespace Chip8

/-! ## Spans as sets of cells -/

/-- A bound counted from the front. -/
def fromFront (size : Nat) (index : Int) : Int := if index < 0 then index + size else index

/-- The cells of a row from one bound up to another. -/
def cellsBetween (size : Nat) (start stop : Int) : Finset Nat :=
  (Finset.range size).filter fun a => fromFront size start ≤ a ∧ (a : Int) < fromFront size stop

/-- Cutting the bounds to the row keeps its cells. -/
theorem cellsBetween_eq_Ico (size : Nat) (start stop : Int) :
    cellsBetween size start stop = Finset.Ico (bound size start) (bound size stop) := by
  ext a
  simp only [cellsBetween, Finset.mem_filter, Finset.mem_range, Finset.mem_Ico]
  unfold fromFront bound
  split <;> split <;> omega

theorem card_cellsBetween (size : Nat) (start stop : Int) :
    (cellsBetween size start stop).card = (span size start stop).2 := by
  rw [cellsBetween_eq_Ico, Nat.card_Ico]
  rfl

/-- Where a block of `count` bytes at an address fits: at the front half of the addresses it may
end with the memory, at the back half it must end before. -/
theorem card_target {size count : Nat} {address : Int} :
    (cellsBetween size address (address + count)).card = count ↔
      count = 0 ∨ (0 ≤ address ∧ address + count ≤ size) ∨
        (-(size : Int) ≤ address ∧ address + count < 0) := by
  rw [card_cellsBetween]
  unfold span bound
  dsimp only
  split <;> split <;> omega

theorem bound_add_le {size count : Nat} {address : Int}
    (h : (cellsBetween size address (address + count)).card = count) :
    bound size address + count ≤ size := by
  have hspan := span_le size address (address + count)
  rw [card_cellsBetween] at h
  rw [h] at hspan
  exact hspan

/-- The cells of a target that is large enough, counted from the front. -/
theorem mem_target {size count : Nat} {address : Int}
    (h : (cellsBetween size address (address + count)).card = count) {a : Nat} :
    a ∈ cellsBetween size address (address + count) ↔
      bound size address ≤ a ∧ a < bound size address + count := by
  rw [card_cellsBetween] at h
  change bound size (address + count) - bound size address = count at h
  rw [cellsBetween_eq_Ico, Finset.mem_Ico]
  omega

namespace Memory

variable {m m' : Memory} {address : Int} {data : List Byte}

/-! ## Blocks of bytes -/

/-- The cells that a block of so many bytes is meant for. -/
def target (m : Memory) (address : Int) (count : Nat) : Finset Nat :=
  cellsBetween m.size address (address + count)

theorem loadBlock_of_fits (h : (m.target address data.length).card = data.length) :
    m.loadBlock address data = .ok (m.overwrite (bound m.size address) data) := by
  unfold target at h
  rw [card_cellsBetween] at h
  exact if_pos h

theorem loadBlock_of_not_fits (h : (m.target address data.length).card ≠ data.length) :
    m.loadBlock address data = .error .blockLength := by
  unfold target at h
  rw [card_cellsBetween] at h
  exact if_neg h

/-- The bytes that were put in are read back. -/
theorem readBlock_overwrite (h : (m.target address data.length).card = data.length) :
    (m.overwrite (bound m.size address) data).readBlock address data.length = data := by
  have hfits := bound_add_le h
  unfold target at h
  rw [card_cellsBetween] at h
  have hfront : (m.cells.toList.take (bound m.size address)).length = bound m.size address := by
    rw [List.length_take, Array.length_toList]
    exact Nat.min_eq_left (Nat.le_of_add_right_le hfits)
  unfold readBlock
  rw [size_overwrite m _ data hfits]
  change List.take (span m.size address (address + data.length)).2 (List.drop (bound m.size address)
    (m.cells.toList.take _ ++ data ++ m.cells.toList.drop _)) = data
  rw [h, List.append_assoc, List.drop_left' hfront, List.take_left]

theorem byte_overwrite_of_not_mem (h : (m.target address data.length).card = data.length) {a : Nat}
    (ha : a ∉ m.target address data.length) :
    (m.overwrite (bound m.size address) data).byte a = m.byte a := by
  rw [byte_overwrite (bound_add_le h), if_neg]
  exact fun hrange => ha ((mem_target h).mpr hrange)

/-! ## Integers as bytes -/

theorem bytesOf_cons (value : Int) (rest : List Int) : bytesOf (value :: rest) =
    if 0 ≤ value ∧ value < 256 then (bytesOf rest).map (Byte.ofInt value :: ·)
    else .error .blockValue := by
  have hcons : bytesOf (value :: rest) =
      (if 0 ≤ value ∧ value < 256 then .ok (Byte.ofInt value) else .error .blockValue) >>=
        fun b => bytesOf rest >>= fun bytes => pure (b :: bytes) := List.mapM_cons
  rw [hcons]
  split
  · cases bytesOf rest <;> rfl
  · rfl

/-- Integers from 0 to 255 are the bytes of the same values. -/
theorem exists_bytesOf {values : List Int} (h : ∀ value ∈ values, 0 ≤ value ∧ value ≤ 255) :
    ∃ bytes, bytesOf values = .ok bytes ∧ bytes.map (fun b => (b.toNat : Int)) = values := by
  induction values with
  | nil => exact ⟨[], rfl, rfl⟩
  | cons value rest ih =>
    obtain ⟨bytes, hbytes, hvalues⟩ := ih fun v hv => h v (List.mem_cons_of_mem _ hv)
    have hvalue := h value List.mem_cons_self
    have hbyte : ((Byte.ofInt value).toNat : Int) = value := by
      rw [Byte.ofInt, BitVec.toNat_ofInt]
      omega
    refine ⟨Byte.ofInt value :: bytes, ?_, ?_⟩
    · rw [bytesOf_cons, if_pos (by omega), hbytes]
      rfl
    · rw [List.map_cons, hbyte, hvalues]

theorem bytesOf_of_not_byte {values : List Int} {value : Int} (hmem : value ∈ values)
    (h : ¬ (0 ≤ value ∧ value ≤ 255)) : bytesOf values = .error .blockValue := by
  induction values with
  | nil => cases hmem
  | cons first rest ih =>
    rw [bytesOf_cons]
    split
    · rename_i hfirst
      obtain rfl | hrest := List.mem_cons.mp hmem
      · exact absurd ⟨hfirst.1, by omega⟩ h
      · rw [ih hrest]
        rfl
    · rfl

/-- The integers are bytes, and the memory has room for them. -/
def Accepts (m : Memory) (address : Int) (values : List Int) : Prop :=
  (∀ value ∈ values, 0 ≤ value ∧ value ≤ 255) ∧
    (m.target address values.length).card = values.length

/-- What is accepted is written as bytes. -/
theorem exists_loadIntegers {values : List Int} (h : m.Accepts address values) :
    ∃ data : List Byte, data.length = values.length ∧
      data.map (fun b => (b.toNat : Int)) = values ∧
      m.loadIntegers address values = .ok (m.overwrite (bound m.size address) data) := by
  obtain ⟨data, hdata, hvalues⟩ := exists_bytesOf h.1
  have hlength : data.length = values.length := by rw [← hvalues, List.length_map]
  refine ⟨data, hlength, hvalues, ?_⟩
  unfold loadIntegers
  rw [hdata]
  exact loadBlock_of_fits (by rw [hlength]; exact h.2)

theorem exists_loadIntegers_error {values : List Int} (h : ¬ m.Accepts address values) :
    ∃ fault, m.loadIntegers address values = .error fault := by
  unfold loadIntegers
  by_cases hbytes : ∀ value ∈ values, 0 ≤ value ∧ value ≤ 255
  · obtain ⟨data, hdata, hvalues⟩ := exists_bytesOf hbytes
    have hlength : data.length = values.length := by rw [← hvalues, List.length_map]
    rw [hdata]
    exact ⟨_, loadBlock_of_not_fits (by rw [hlength]; exact fun hfits => h ⟨hbytes, hfits⟩)⟩
  · obtain ⟨value, hmem, hvalue⟩ : ∃ value ∈ values, ¬ (0 ≤ value ∧ value ≤ 255) := by
      simpa only [not_forall, exists_prop] using hbytes
    rw [bytesOf_of_not_byte hmem hvalue]
    exact ⟨_, rfl⟩

/-- What was loaded is read back, and nothing but its target has changed. -/
theorem of_loadIntegers_ok {values : List Int} (h : m.loadIntegers address values = .ok m') :
    m.Accepts address values ∧
      (m'.readBlock address values.length).map (fun b => (b.toNat : Int)) = values ∧
      ∀ a ∉ m.target address values.length, m'.byte a = m.byte a := by
  by_cases haccepts : m.Accepts address values
  · obtain ⟨data, hlength, hvalues, hload⟩ := exists_loadIntegers haccepts
    cases h.symm.trans hload
    have hfits : (m.target address data.length).card = data.length := by
      rw [hlength]
      exact haccepts.2
    rw [← hlength, readBlock_overwrite hfits]
    exact ⟨haccepts, hvalues, fun a ha => byte_overwrite_of_not_mem hfits ha⟩
  · obtain ⟨fault, herror⟩ := exists_loadIntegers_error haccepts
    cases h.symm.trans herror

theorem size_loadIntegers {values : List Int} (h : m.loadIntegers address values = .ok m') :
    m'.size = m.size := by
  unfold loadIntegers at h
  cases hbytes : bytesOf values with
  | error fault => rw [hbytes] at h; cases h
  | ok data =>
    rw [hbytes] at h
    exact size_loadBlock h

end Memory

/-! ## The memory of a machine -/

/-- A change of a memory from outside. -/
inductive MemoryEvent where
  | loadBlock (address : Int) (values : List Int)
  | store (address value : Int)
  | clear
deriving DecidableEq, Repr

namespace MemoryEvent

variable {δ : Type}

def change : MemoryEvent → Memory → Except Fault Memory
  | loadBlock address values => (·.loadIntegers address values)
  | store address value => (·.store address (Byte.ofInt value))
  | clear => fun m => .ok m.clear

/-- The event on the memory of a machine; a change that is refused leaves the machine as it was. -/
def act (event : MemoryEvent) : Act (Emulator δ) Unit := Emulator.tryMemory event.change

theorem size_of_change {event : MemoryEvent} {m m' : Memory} (h : event.change m = .ok m') :
    m'.size = m.size := by
  cases event with
  | loadBlock address values => exact Memory.size_loadIntegers h
  | store address value => exact Memory.size_store h
  | clear =>
    cases h
    exact Memory.size_clear m

theorem size_act (event : MemoryEvent) (e : Emulator δ) :
    (stateOf (event.act e)).machine.memory.size = e.machine.memory.size := by
  cases hchange : event.change e.machine.memory with
  | error fault =>
    rw [act, Emulator.tryMemory_of_error _ hchange]
    rfl
  | ok memory =>
    rw [act, Emulator.tryMemory_of_ok _ hchange]
    exact size_of_change hchange

/-- Changes one after the other, some of which may be refused. -/
def afterAll (e : Emulator δ) (events : List MemoryEvent) : Emulator δ :=
  events.foldl (fun e event => stateOf (event.act e)) e

theorem size_afterAll (e : Emulator δ) (events : List MemoryEvent) :
    (afterAll e events).machine.memory.size = e.machine.memory.size := by
  induction events generalizing e with
  | nil => rfl
  | cons event rest ih => exact (ih _).trans (size_act event e)

end MemoryEvent

/-- A block of integers at any address of any memory. It is written exactly if all integers are
bytes and its target has as many cells; for an address from the front this is so if the block ends
within the memory, and for an address from the back if the block starts within the memory and ends
before its last cell. It is then read back from the same address, and all cells but the target
are as they were. Otherwise nothing changes. No block, byte or clearing ever changes the size. -/
theorem exact_of_loadIntegers {δ : Type} (e : Emulator δ) (address : Int) (values : List Int) :
    let m := e.machine.memory
    let target := m.target address values.length
    let loaded := (MemoryEvent.loadBlock address values).act e
    ((∃ e', loaded = .ok () e') ↔
      (∀ value ∈ values, 0 ≤ value ∧ value ≤ 255) ∧ target.card = values.length) ∧
    (values ≠ [] → 0 ≤ address →
      (target.card = values.length ↔ address + values.length ≤ m.size)) ∧
    (values ≠ [] → address < 0 →
      (target.card = values.length ↔ -(m.size : Int) ≤ address ∧ address + values.length < 0)) ∧
    (∀ e', loaded = .ok () e' →
      (e'.machine.memory.readBlock address values.length).map (fun b => (b.toNat : Int)) = values ∧
      ∀ a ∉ target, e'.machine.memory.byte a = m.byte a) ∧
    (∀ fault e', loaded = .error fault e' → e' = e) ∧
    ∀ events, (MemoryEvent.afterAll e events).machine.memory.size = m.size := by
  intro m target loaded
  have hcard : target.card = values.length ↔ _ := card_target
  have hlength (h : values ≠ []) : values.length ≠ 0 := mt List.length_eq_zero_iff.mp h
  refine ⟨⟨fun ⟨e', h⟩ => ?_, fun h => ?_⟩, fun hne haddress => ?_, fun hne haddress => ?_,
    fun e' h => ?_, fun fault e' h => (Emulator.tryMemory_eq_error_iff.mp h).2,
    MemoryEvent.size_afterAll e⟩
  · obtain ⟨memory, hload, -⟩ := Emulator.tryMemory_eq_ok_iff.mp h
    exact (Memory.of_loadIntegers_ok hload).1
  · obtain ⟨data, -, -, hload⟩ := Memory.exists_loadIntegers h
    exact ⟨_, Emulator.tryMemory_of_ok (·.loadIntegers address values) hload⟩
  · have := hlength hne
    rw [hcard]
    omega
  · have := hlength hne
    rw [hcard]
    omega
  · obtain ⟨memory, hload, rfl⟩ := Emulator.tryMemory_eq_ok_iff.mp h
    exact (Memory.of_loadIntegers_ok hload).2

/-- The last two cells are reached from the front only: from the back the end of the block is at
zero, which is the first cell. -/
example : (Memory.ofSize 4).loadIntegers 2 [7, 255] = .ok ⟨#[0, 0, 7, 255]⟩ ∧
    (Memory.ofSize 4).loadIntegers (-2) [7, 255] = .error .blockLength ∧
    (Memory.ofSize 4).loadIntegers (-3) [7, 255] = .ok ⟨#[0, 7, 255, 0]⟩ :=
  ⟨rfl, rfl, rfl⟩

end Chip8
