/-
  Memory as the shell shows it. A stretch of memory, cut at the end of the memory, is shown in rows
  of sixteen bytes, of which the last may be shorter (`RowsOf`), and each row as a line that gives
  its address and its bytes as numerals (`ShowsRow`). The main statement is `rows_of_showMemory`:
  so it is for any memory and any two numbers of which the first is not below zero.
-/
import Chip8.Proofs.App.Inspect
import Chip8.Proofs.Machine.Failure
import Chip8.Proofs.Text.Numeral

namespace Chip8

/-! ## Rows -/

/-- The bytes of a stretch of memory in rows with their addresses, each byte once. -/
structure RowsOf (m : Memory) (start stop : Nat) (rows : List (Nat × List Byte)) : Prop where
  bytes : (rows.map (·.2)).flatten = (List.range' start (stop - start)).map m.byte
  address : ∀ j row, rows[j]? = some row → row.1 = start + 16 * j
  full : ∀ j row, rows[j]? = some row → j + 1 < rows.length → row.2.length = 16
  short : ∀ row ∈ rows, row.2 ≠ [] ∧ row.2.length ≤ 16

/-- A line of text gives an address and behind it bytes, as numerals in base sixteen. -/
def ShowsRow (line : String) (address : Nat) (bytes : List Byte) : Prop :=
  ∃ (label : String) (cells : List String),
    line = label ++ ": " ++ String.intercalate " " cells ∧
    Numeral.read 16 (Text.ofString label) = some (address : Int) ∧
    List.Forall₂ (fun (cell : String) (b : Byte) => cell.length = 2 ∧
      Numeral.read 16 (Text.ofString cell) = some (b.toNat : Int)) cells bytes

namespace Memory

variable {m : Memory}

/-- The places of a stretch, row by row, are its places. -/
theorem flatten_range' (start count : Nat) :
    ((List.range ((count + 15) / 16)).map fun k =>
      List.range' (start + 16 * k) (min 16 (count - 16 * k))).flatten =
      List.range' start count := by
  -- the first row, and then the rows of what is left of the stretch
  generalize hrows : (count + 15) / 16 = rows
  induction rows generalizing start count with
  | zero =>
    obtain rfl : count = 0 := by omega
    rfl
  | succ rows ih =>
    have hrest := ih (start + 16) (count - 16) (by omega)
    have hshift (k : Nat) : List.range' (start + 16 * (k + 1)) (min 16 (count - 16 * (k + 1))) =
        List.range' (start + 16 + 16 * k) (min 16 (count - 16 - 16 * k)) := by
      congr 1 <;> omega
    rw [List.range_succ_eq_map, List.map_cons, List.map_map, List.flatten_cons]
    simp only [Function.comp_def, Nat.succ_eq_add_one, hshift, hrest]
    rcases Nat.le_total count 16 with hcount | hcount
    · rw [Nat.sub_eq_zero_of_le hcount, List.range'_zero, List.append_nil]
      simp [hcount]
    · have hjoin := @List.range'_append_1 start 16 (count - 16)
      rw [Nat.add_sub_cancel' hcount] at hjoin
      rw [← hjoin]
      simp [hcount]

theorem readBlock_eq_map {start count : Nat} (h : start + count ≤ m.size) :
    m.readBlock start count = (List.range' start count).map m.byte := by
  have hlength : ((List.range' start count).map m.byte).length = count := by simp
  have hread : m.readBlock start ((List.range' start count).map m.byte).length =
      (List.range' start count).map m.byte :=
    readBlock_of_byte (by rwa [hlength]) fun k hk => by
      rw [hlength] at hk
      simp [hk]
  rwa [hlength] at hread

end Memory

namespace App

/-- A row starts sixteen places behind the one before it, and has what is left of the stretch, up
to sixteen bytes. -/
theorem of_getElem?_memoryRows {m : Memory} {start length j : Nat} {row : Nat × List Byte}
    (h : (memoryRows m start length)[j]? = some row) :
    let count := min (start + length) m.size - start
    16 * j < count ∧ row.1 = start + 16 * j ∧
      row.2 = (List.range' (start + 16 * j) (min 16 (count - 16 * j))).map m.byte := by
  unfold memoryRows at h
  generalize hstop : min (start + length) m.size = stop at h ⊢
  intro count
  have hsize : stop ≤ m.size := by omega
  rw [List.getElem?_map, Option.map_eq_some_iff] at h
  obtain ⟨k, hk, rfl⟩ := h
  obtain ⟨hj, hkj⟩ := List.getElem?_eq_some_iff.mp hk
  rw [List.getElem_range] at hkj
  subst hkj
  rw [List.length_range] at hj
  refine ⟨by omega, rfl, ?_⟩
  dsimp only
  rw [Memory.readBlock_eq_map (by omega), Nat.sub_add_eq]

theorem length_memoryRows (m : Memory) (start length : Nat) : (memoryRows m start length).length =
    (min (start + length) m.size - start + 15) / 16 := by
  rw [memoryRows, List.length_map, List.length_range]

theorem rowsOf_memoryRows (m : Memory) (start length : Nat) :
    RowsOf m start (min (start + length) m.size) (memoryRows m start length) where
  bytes := by
    have hrows : (memoryRows m start length).map (·.2) =
        (List.range ((min (start + length) m.size - start + 15) / 16)).map fun k =>
          (List.range' (start + 16 * k)
            (min 16 (min (start + length) m.size - start - 16 * k))).map m.byte := by
      refine List.ext_getElem (by simp [length_memoryRows]) fun j hj hj' => ?_
      rw [List.getElem_map, List.getElem_map, List.getElem_range]
      rw [List.length_map] at hj
      exact (of_getElem?_memoryRows (List.getElem?_eq_getElem hj)).2.2
    rw [hrows, ← Memory.flatten_range', List.map_flatten, List.map_map]
    rfl
  address j row h := (of_getElem?_memoryRows h).2.1
  full j row h hj := by
    obtain ⟨-, -, hbytes⟩ := of_getElem?_memoryRows h
    rw [length_memoryRows] at hj
    rw [hbytes, List.length_map, List.length_range']
    omega
  short row hrow := by
    obtain ⟨j, hj⟩ := List.getElem?_of_mem hrow
    obtain ⟨hcount, -, hbytes⟩ := of_getElem?_memoryRows hj
    have hlength : row.2.length = _ := congrArg List.length hbytes
    rw [List.length_map, List.length_range'] at hlength
    exact ⟨List.ne_nil_of_length_pos (by omega), by omega⟩

theorem showsRow_memoryRowText (address : Nat) (bytes : List Byte) :
    ShowsRow (memoryRowText address bytes) address bytes := by
  refine ⟨Numeral.hexUpper 3 address, bytes.map fun b => Numeral.hexUpper 2 b.toNat, ?_,
    Numeral.read_hexUpper 3 address, ?_⟩
  · rfl
  rw [List.forall₂_map_left_iff]
  refine List.forall₂_same.mpr fun b _ => ⟨?_, Numeral.read_hexUpper 2 b.toNat⟩
  have hbyte := b.isLt
  exact Numeral.length_hexUpper (by decide) (by omega)

/-! ## Showing -/

theorem foldl_printLine (rows : List (Nat × List Byte)) (a : App) :
    rows.foldl (fun a (address, bytes) => a.printLine (memoryRowText address bytes)) a =
      a.told (rows.map fun row => Text.ofString (memoryRowText row.1 row.2) ++ "\n")
        a.host.console := by
  induction rows generalizing a with
  | nil => exact a.told_nil.symm
  | cons row rest ih =>
    have hconsole (text : String) : (a.printLine text).host.console = a.host.console := rfl
    rw [List.foldl_cons, ih, hconsole]
    dsimp only
    rw [printLine_eq_told, told_told]
    rfl

/-- The start and the length of a stretch as they are given, whatever they are. -/
def rangeNumbers? : List Text → Option (Int × Int)
  | [] => some (0x200, 0x80)
  | [start] => (Numeral.read 16 start).map (·, 0x80)
  | start :: length :: _ => do return (← Numeral.read 16 start, ← Numeral.read 10 length)

theorem memoryRange?_of_rangeNumbers? {fields : List Text} {start length : Int}
    (h : rangeNumbers? fields = some (start, length)) (hstart : 0 ≤ start) :
    memoryRange? fields = some (start.toNat, length.toNat) := by
  have hsign : ¬ start < 0 := by omega
  match fields with
  | [] =>
    cases h
    rfl
  | [first] =>
    obtain ⟨n, hn, hpair⟩ := Option.map_eq_some_iff.mp h
    cases hpair
    simp [memoryRange?, hn, hsign]
  | first :: second :: rest =>
    simp only [rangeNumbers?, Option.bind_eq_bind, Option.bind_eq_some_iff, Option.pure_def,
      Option.some.injEq, Prod.mk.injEq] at h
    obtain ⟨n, hn, k, hk, rfl, rfl⟩ := h
    simp [memoryRange?, hn, hk, hsign]

/-- The shell is asked for a stretch of memory, with a start that is not below zero and any length,
each given or left out. It answers without a fault and does nothing but print lines. They show the
stretch as far as it lies inside the memory, in rows of sixteen bytes of which the last may be
shorter, and there is none exactly if nothing of the stretch lies inside. -/
theorem rows_of_showMemory (a : App) {arguments : Text} {start length : Int}
    (hnumbers : rangeNumbers? arguments.words = some (start, length)) (hstart : 0 ≤ start) :
    let m := a.emulator.machine.memory
    let stop := min (start + max length 0) m.size
    ∃ rows lines, inspect (.memory arguments) a = .ok () (a.told lines a.host.console) ∧
      List.Forall₂ (fun line row => ∃ text : String, line = Text.ofString text ++ "\n" ∧
        ShowsRow text row.1 row.2) lines rows ∧
      RowsOf m start.toNat stop.toNat rows ∧ (lines = [] ↔ stop ≤ start) := by
  intro m stop
  have hrange := memoryRange?_of_rangeNumbers? hnumbers hstart
  have hstop : stop.toNat = min (start.toNat + length.toNat) m.size := by omega
  have hrows := rowsOf_memoryRows m start.toNat length.toNat
  rw [← hstop] at hrows
  refine ⟨memoryRows m start.toNat length.toNat, (memoryRows m start.toNat length.toNat).map
    fun row => Text.ofString (memoryRowText row.1 row.2) ++ "\n", ?_, ?_, hrows, ?_⟩
  · change EStateM.Result.ok () (showMemory arguments a) = _
    unfold showMemory
    rw [hrange]
    exact congrArg _ (foldl_printLine _ a)
  · rw [List.forall₂_map_left_iff]
    exact List.forall₂_same.mpr fun row _ => ⟨_, rfl, showsRow_memoryRowText row.1 row.2⟩
  · rw [List.map_eq_nil_iff, ← List.length_eq_zero_iff, length_memoryRows, ← hstop]
    omega

/-- Thirty-two bytes of which the memory holds eight. -/
theorem rows_of_showMemory_end : ∃ (a : App) (rows : List (Nat × List Byte)) (lines : List Text),
    a.emulator.machine.memory.size = 0x1000 ∧
    rangeNumbers? (Text.words "ff8 32") = some (0xFF8, 32) ∧
    inspect (.memory "ff8 32") a = .ok () (a.told lines a.host.console) ∧
    RowsOf a.emulator.machine.memory 0xFF8 0x1000 rows ∧ lines ≠ [] := by
  obtain ⟨e, -, -, hreach, -⟩ := Emulator.exists_unknown
  have hsize : e.machine.memory.size = 0x1000 := hreach.isBounded.memory
  have hnumbers : rangeNumbers? (Text.words "ff8 32") = some (0xFF8, 32) := by decide
  obtain ⟨rows, lines, hshow, -, hrows, hnone⟩ :=
    rows_of_showMemory { settings := {}, emulator := e } hnumbers (by decide)
  rw [hsize] at hrows hnone
  exact ⟨_, rows, lines, hsize, hnumbers, hshow, hrows, fun h => absurd (hnone.mp h) (by decide)⟩

end App

end Chip8
