/-
  Single bytes of a memory, counted from the front. Inside the memory an address names its
  byte (`load_of_lt`), and past the end it names none (`load_of_le`). `withBytes` is a memory
  with a run of bytes put into it as far as it reaches; storing the bytes one by one makes it
  (`store_withBytes`), and what lies past the end makes no difference (`withBytes_of_le`). From
  either end two addresses name the same cell if they are the same modulo the size
  (`load_store_same`, `load_store_of_ne`).
-/
import Chip8.Memory
import Mathlib.Tactic.Common

namespace Chip8

/-! ## Positions from the front -/

theorem cellAt_of_lt {size : Nat} {index : Int} (fault : Fault) (h : 0 ≤ index)
    (h' : index < size) (hsize : size ≤ greatestIndex) :
    ∃ place : Fin size, place.val = index.toNat ∧ cellAt size index fault = .ok place := by
  have hindex : isMachineIndex index = true := by
    rw [isMachineIndex_iff]
    omega
  refine ⟨⟨index.toNat, by omega⟩, rfl, ?_⟩
  rw [cellAt, if_pos hindex, cell?_of_nonneg h h']

theorem cellAt_of_le {size : Nat} {index : Int} {fault : Fault} (h : (size : Int) ≤ index)
    (h' : index ≤ greatestIndex) : cellAt size index fault = .error fault := by
  have hindex : isMachineIndex index = true := by
    rw [isMachineIndex_iff]
    omega
  rw [cellAt, if_pos hindex, cell?_eq_none_iff.mpr (Or.inr h)]

/-- The fault of an index that names no cell: an index that does not fit is refused as such. -/
def indexFault (index : Int) (fault : Fault) : Fault :=
  if isMachineIndex index then fault else .indexTooWide

theorem cellAt_eq_indexFault {size : Nat} {index : Int} (fault : Fault)
    (h : index < -(size : Int) ∨ (size : Int) ≤ index) :
    cellAt size index fault = .error (indexFault index fault) := by
  unfold cellAt indexFault
  rw [cell?_eq_none_iff.mpr h]
  split <;> rfl

theorem cell?_of_cellAt {size : Nat} {index : Int} {fault : Fault} {place : Fin size}
    (h : cellAt size index fault = .ok place) : cell? size index = some place := by
  unfold cellAt at h
  split at h
  · cases hcell : cell? size index with
    | none => rw [hcell] at h; cases h
    | some other => rw [hcell] at h; cases h; rfl
  · cases h

/-- From either end, an index names the cell that it is modulo the size. -/
theorem val_of_cell? {size : Nat} {index : Int} {place : Fin size}
    (h : cell? size index = some place) : (place.val : Int) = index % size := by
  have hrange := cell?_isSome_iff.mp (Option.isSome_of_eq_some h)
  by_cases hneg : index < 0
  · unfold cell? at h
    simp only [if_pos hneg] at h
    rw [dif_pos (by omega)] at h
    cases h
    change ((index + size).toNat : Int) = _
    rw [Int.toNat_of_nonneg (by omega), ← Int.add_emod_right index size,
      Int.emod_eq_of_lt (by omega) (by omega)]
  · rw [cell?_of_nonneg (by omega) (by omega)] at h
    cases h
    change (index.toNat : Int) = _
    rw [Int.toNat_of_nonneg (by omega), Int.emod_eq_of_lt (by omega) (by omega)]

theorem exists_cellAt {size : Nat} {index : Int} (fault : Fault) (h : -(size : Int) ≤ index)
    (h' : index < size) (hsize : size ≤ greatestIndex) :
    ∃ place, cellAt size index fault = .ok place := by
  have hindex : isMachineIndex index = true := by
    rw [isMachineIndex_iff]
    omega
  obtain ⟨place, hplace⟩ := Option.isSome_iff_exists.mp (cell?_isSome_iff.mpr ⟨h, h'⟩)
  exact ⟨place, by rw [cellAt, if_pos hindex, hplace]⟩

namespace Memory

/-- The byte at an address from the front. -/
def byte (m : Memory) (address : Nat) : Byte := m.cells.getD address 0

theorem ext_byte {m m' : Memory} (hsize : m.size = m'.size)
    (h : ∀ a < m.size, m.byte a = m'.byte a) : m = m' := by
  obtain ⟨cells⟩ := m
  obtain ⟨cells'⟩ := m'
  congr 1
  apply Array.ext hsize
  intro a ha ha'
  have := h a ha
  simpa [byte, ha, ha'] using this

theorem load_of_lt {m : Memory} {address : Int} (h : 0 ≤ address) (h' : address < m.size)
    (hsize : m.size ≤ greatestIndex) : m.load address = .ok (m.byte address.toNat) := by
  obtain ⟨⟨a, ha⟩, rfl, hplace⟩ := cellAt_of_lt .cellIndex h h' hsize
  unfold load
  rw [hplace]
  change Except.ok m.cells[address.toNat] = _
  simp [byte, show address.toNat < m.cells.size from ha]

theorem load_of_le {m : Memory} {address : Int} (h : (m.size : Int) ≤ address)
    (h' : address ≤ greatestIndex) : m.load address = .error .cellIndex := by
  unfold load
  rw [cellAt_of_le h h']
  rfl

theorem store_of_lt {m : Memory} {address : Int} {value : Byte} (h : 0 ≤ address)
    (h' : address < m.size) (hsize : m.size ≤ greatestIndex) :
    ∃ m', m.store address value = .ok m' ∧ m'.size = m.size ∧
      ∀ a < m.size, m'.byte a = if a = address.toNat then value else m.byte a := by
  obtain ⟨⟨a, hplace⟩, rfl, hcell⟩ := cellAt_of_lt .cellIndex h h' hsize
  refine ⟨⟨m.cells.set address.toNat value hplace⟩, ?_, Array.size_set hplace, ?_⟩
  · unfold store
    rw [hcell]
    rfl
  · intro a ha
    have ha' : a < m.cells.size := ha
    simp [byte, ha', Array.getElem_set, eq_comm]

theorem store_of_le {m : Memory} {address : Int} {value : Byte} (h : (m.size : Int) ≤ address)
    (h' : address ≤ greatestIndex) : m.store address value = .error .cellIndex := by
  unfold store
  rw [cellAt_of_le h h']
  rfl

theorem loadWord_of_lt {m : Memory} {address : Int} (h : 0 ≤ address)
    (h' : address + 1 < m.size) (hsize : m.size ≤ greatestIndex) :
    m.loadWord address =
      .ok (Word.ofBytes (m.byte address.toNat) (m.byte (address + 1).toNat)) := by
  unfold loadWord
  rw [load_of_lt h (by omega) hsize, load_of_lt (by omega) h' hsize]
  rfl

/-- A word needs two bytes. -/
theorem loadWord_of_le {m : Memory} {address : Int} (h : 0 ≤ address)
    (h' : (m.size : Int) ≤ address + 1) (hsize : m.size ≤ greatestIndex)
    (hindex : address + 1 ≤ greatestIndex) : m.loadWord address = .error .cellIndex := by
  unfold loadWord
  by_cases hlast : address < m.size
  · rw [load_of_lt h hlast hsize]
    change (m.load (address + 1) >>= fun low => _) = _
    rw [load_of_le h' hindex]
    rfl
  · rw [load_of_le (by omega) (by omega)]
    rfl

/-! ## Addresses from either end -/

section Address

variable {m m' : Memory} {address other : Int} {value : Byte}

theorem load_eq (m : Memory) (address : Int) : m.load address =
    (cellAt m.size address .cellIndex).map fun place => m.byte place.val := by
  unfold load
  cases cellAt m.size address .cellIndex with
  | error fault => rfl
  | ok place =>
    change Except.ok m.cells[place.val] = Except.ok (m.byte place.val)
    simp [byte]

theorem exists_store (h : -(m.size : Int) ≤ address) (h' : address < m.size)
    (hsize : m.size ≤ greatestIndex) (value : Byte) : ∃ m', m.store address value = .ok m' := by
  obtain ⟨place, hplace⟩ := exists_cellAt .cellIndex h h' hsize
  exact ⟨_, by rw [store, hplace]; rfl⟩

/-- A store changes the cell that its address names. -/
theorem byte_store (h : m.store address value = .ok m') (a : Nat) :
    m'.byte a = if (a : Int) = address % m.size then value else m.byte a := by
  unfold store at h
  cases hcell : cellAt m.size address .cellIndex with
  | error fault =>
    rw [hcell] at h
    cases h
  | ok place =>
    rw [hcell] at h
    cases h
    have hplace := val_of_cell? (cell?_of_cellAt hcell)
    simp only [← hplace, Int.ofNat_inj, byte, Array.getD_eq_getD_getElem?, Array.getElem?_set,
      eq_comm]
    split <;> rfl

/-- What was stored is read at every address of the cell. -/
theorem load_store_same (h : m.store address value = .ok m') (hsize : m.size ≤ greatestIndex)
    (hfrom : -(m.size : Int) ≤ other) (hto : other < m.size)
    (hsame : other % m.size = address % m.size) : m'.load other = .ok value := by
  obtain ⟨place, hplace⟩ := exists_cellAt .cellIndex hfrom hto hsize
  have hother := val_of_cell? (cell?_of_cellAt hplace)
  rw [load_eq, size_store h, hplace]
  exact congrArg Except.ok ((byte_store h place.val).trans (if_pos (hother.trans hsame)))

theorem load_store_of_ne (h : m.store address value = .ok m')
    (hne : other % m.size ≠ address % m.size) : m'.load other = m.load other := by
  rw [load_eq, load_eq, size_store h]
  cases hcell : cellAt m.size other .cellIndex with
  | error fault => rfl
  | ok place =>
    have hother := val_of_cell? (cell?_of_cellAt hcell)
    exact congrArg Except.ok ((byte_store h place.val).trans (if_neg (hother ▸ hne)))

end Address

/-! ## Runs of bytes -/

/-- The memory with bytes put in from `start` on, as many as `count` and as fit. -/
def withBytes (m : Memory) (start count : Nat) (bytes : Nat → Byte) : Memory :=
  ⟨m.cells.mapIdx fun a old =>
    if start ≤ a ∧ a < start + count then bytes (a - start) else old⟩

theorem size_withBytes (m : Memory) (start count : Nat) (bytes : Nat → Byte) :
    (m.withBytes start count bytes).size = m.size := by
  simp [size, withBytes]

theorem byte_withBytes {m : Memory} {a : Nat} (ha : a < m.size) (start count : Nat)
    (bytes : Nat → Byte) : (m.withBytes start count bytes).byte a =
      if start ≤ a ∧ a < start + count then bytes (a - start) else m.byte a := by
  have ha' : a < m.cells.size := ha
  simp [byte, withBytes, ha']

theorem withBytes_zero (m : Memory) (start : Nat) (bytes : Nat → Byte) :
    m.withBytes start 0 bytes = m := by
  apply ext_byte (size_withBytes ..)
  intro a ha
  rw [size_withBytes] at ha
  rw [byte_withBytes ha, if_neg (by omega)]

theorem store_withBytes {m : Memory} {start k : Nat} {bytes : Nat → Byte} {address : Int}
    (haddress : address = (start + k : Nat)) (h : start + k < m.size)
    (hsize : m.size ≤ greatestIndex) :
    (m.withBytes start k bytes).store address (bytes k) =
      .ok (m.withBytes start (k + 1) bytes) := by
  subst haddress
  have hs := size_withBytes m start k bytes
  obtain ⟨m', hstore, hsize', hbyte⟩ :
      ∃ m', (m.withBytes start k bytes).store (start + k : Nat) (bytes k) = .ok m' ∧
        m'.size = (m.withBytes start k bytes).size ∧
        ∀ a < (m.withBytes start k bytes).size, m'.byte a =
          if a = ((start + k : Nat) : Int).toNat then bytes k
          else (m.withBytes start k bytes).byte a :=
    store_of_lt (by omega) (by omega) (by omega)
  rw [hstore]
  congr 1
  apply ext_byte
  · rw [hsize', size_withBytes, size_withBytes]
  · intro a ha
    have ha' : a < m.size := by omega
    rw [hbyte a (by omega), byte_withBytes ha', byte_withBytes ha', Int.toNat_natCast]
    by_cases hak : a = start + k
    · subst hak
      simp
    · have : (start ≤ a ∧ a < start + k) ↔ (start ≤ a ∧ a < start + (k + 1)) := by omega
      simp only [if_neg hak, this]

/-- Bytes past the end of the memory make no difference. -/
theorem withBytes_of_le {m : Memory} {start j k : Nat} {bytes : Nat → Byte}
    (hj : m.size ≤ start + j) (hk : j ≤ k) :
    m.withBytes start j bytes = m.withBytes start k bytes := by
  apply ext_byte
  · rw [size_withBytes, size_withBytes]
  · intro a ha
    rw [size_withBytes] at ha
    rw [byte_withBytes ha, byte_withBytes ha]
    have : (start ≤ a ∧ a < start + j) ↔ (start ≤ a ∧ a < start + k) := by omega
    simp only [this]

/-! ## Blocks -/

theorem byte_overwrite {m : Memory} {start : Nat} {data : List Byte}
    (h : start + data.length ≤ m.size) (a : Nat) : (m.overwrite start data).byte a =
      if start ≤ a ∧ a < start + data.length then data.getD (a - start) 0 else m.byte a := by
  have hsize : m.cells.size = m.size := rfl
  unfold byte overwrite
  simp only [Array.getD_eq_getD_getElem?, List.getElem?_toArray, List.getElem?_append,
    List.length_append, List.length_take, Array.length_toList, hsize,
    Nat.min_eq_left (show start ≤ m.size by omega)]
  by_cases hfront : a < start
  · rw [if_pos (by omega), if_pos hfront, if_neg (by omega), List.getElem?_take_of_lt hfront,
      Array.getElem?_toList]
  · by_cases hback : a < start + data.length
    · rw [if_pos hback, if_neg hfront, if_pos ⟨by omega, hback⟩, List.getD_eq_getElem?_getD]
    · rw [if_neg hback, if_neg (by omega), List.getElem?_drop, Array.getElem?_toList,
        show start + data.length + (a - (start + data.length)) = a by omega]

theorem overwrite_nil (m : Memory) (start : Nat) : m.overwrite start [] = m := by
  simp [overwrite]

theorem bound_natCast (size n : Nat) : bound size (n : Int) = min n size := by
  rw [bound, if_neg (by omega), Int.toNat_natCast]

/-- A span inside the memory is not cut. -/
theorem span_of_le {size start count : Nat} (h : start + count ≤ size) :
    span size start ((start : Int) + count) = (start, count) := by
  rw [span, bound_natCast, show (start : Int) + count = (start + count : Nat) by omega,
    bound_natCast, Nat.min_eq_left (by omega), Nat.min_eq_left h, Nat.add_sub_cancel_left]

/-- A block that fits is written. -/
theorem loadBlock_of_le {m : Memory} {start : Nat} {data : List Byte}
    (h : start + data.length ≤ m.size) :
    m.loadBlock start data = .ok (m.overwrite start data) := by
  unfold loadBlock
  rw [span_of_le h]
  exact if_pos rfl

/-- A block that goes past the end is not written. -/
theorem loadBlock_of_lt {m : Memory} {start : Nat} {data : List Byte} (hstart : start ≤ m.size)
    (h : m.size < start + data.length) : m.loadBlock start data = .error .blockLength := by
  have hspan : span m.size start ((start : Int) + data.length) = (start, m.size - start) := by
    rw [span, bound_natCast,
      show (start : Int) + data.length = (start + data.length : Nat) by omega,
      bound_natCast, Nat.min_eq_left hstart, Nat.min_eq_right (Nat.le_of_lt h)]
  unfold loadBlock
  rw [hspan]
  exact if_neg (by omega)

/-- A block is read byte by byte. -/
theorem readBlock_of_byte {m : Memory} {start : Nat} {data : List Byte}
    (hsize : start + data.length ≤ m.size)
    (h : ∀ k < data.length, m.byte (start + k) = data.getD k 0) :
    m.readBlock start data.length = data := by
  unfold readBlock
  rw [span_of_le hsize]
  refine List.ext_getElem ?_ fun k hk hk' => ?_
  · rw [List.length_take, List.length_drop, Array.length_toList]
    exact Nat.min_eq_left (Nat.le_sub_of_add_le' hsize)
  · have hlt : start + k < m.cells.size := Nat.lt_of_lt_of_le (by omega) hsize
    rw [List.getElem_take, List.getElem_drop, Array.getElem_toList]
    simpa [byte, hlt, hk'] using h k hk'

end Memory

end Chip8
