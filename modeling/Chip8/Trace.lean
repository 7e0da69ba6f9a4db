/-
  A record of the latest steps. The recorder keeps a fixed number of entries and drops the
  oldest one for each entry beyond it.
-/
import Chip8.Cpu
import Chip8.Host

namespace Chip8

/-- The processor just before a step, with the word about to run. -/
structure TraceEntry where
  pc : Int
  opcode : Option Word
  mnemonic : Text
  v : List Byte
  i : Int
  sp : Int
  delay : Int
  sound : Int
  note : Text := []
deriving DecidableEq, Repr

namespace TraceEntry

/-- An entry from any register values; addresses are cut to sixteen bits. -/
def ofValues (pc i sp delay sound : Int) (v : List Byte) (opcode : Option Word)
    (mnemonic note : Text) : TraceEntry :=
  ⟨wrap16 pc, opcode, mnemonic, v, wrap16 i, sp, delay, sound, note⟩

def capture (c : Cpu) (opcode : Option Word) (mnemonic : Text := []) (note : Text := []) :
    TraceEntry :=
  ofValues c.pc c.i c.sp c.delay c.sound c.v.toList opcode mnemonic note

/-- Text filled up with blanks behind. -/
def padded (width : Nat) (t : Text) : Text := t ++ List.replicate (width - t.length) (.char ' ')

def format (t : TraceEntry) : Text :=
  let opcode := match t.opcode with
    | none => "????"
    | some w => Numeral.hexUpper 4 w.toNat
  let registers := String.join (t.v.map fun b => Numeral.hexUpper 2 b.toNat)
  let mnemonic : Text := if t.mnemonic.isEmpty then "?" else t.mnemonic
  let note : Text := if t.note.isEmpty then [] else "  ; " ++ t.note
  Numeral.hexUpper 4 t.pc ++ "  " ++ opcode ++ "  " ++
    padded 18 mnemonic ++ " V=" ++ registers ++
    " I=" ++ Numeral.hexUpper 3 t.i ++ " SP=" ++ Numeral.hexUpper 0 t.sp ++
    " DT=" ++ Numeral.hexUpper 2 t.delay ++ " ST=" ++ Numeral.hexUpper 2 t.sound ++ note

end TraceEntry

/-- A bounded record. It holds up to twice its capacity, so that making room is rare; only the
newest entries of what it holds, as many as its capacity, count as recorded. -/
structure TraceRecorder where
  capacity : Nat
  /-- The newest entry first. -/
  held : List TraceEntry := []
  count : Nat := 0
  count_eq : count = held.length := by rfl
deriving DecidableEq, Repr

namespace TraceRecorder

/-- A recorder without entries. -/
def empty (capacity : Nat) : TraceRecorder := { capacity }

/-- A recorder for the given number of entries; zero or less is refused, and so is a number that
is too large to count with. -/
def ofCapacity (capacity : Int) : Except Fault TraceRecorder :=
  if capacity ≤ 0 then .error .traceCapacity
  else if isMachineIndex capacity then .ok (empty capacity.toNat)
  else .error .countTooWide

/-- The entries recorded, the oldest one first. -/
def entries (r : TraceRecorder) : List TraceEntry := (r.held.take r.capacity).reverse

def size (r : TraceRecorder) : Nat := r.entries.length

/-- The last elements of a list. -/
def lastOf {α : Type} (count : Nat) (l : List α) : List α := l.drop (l.length - count)

/-- Adds an entry. -/
def record (r : TraceRecorder) (t : TraceEntry) : TraceRecorder :=
  if h : r.count < 2 * r.capacity then
    { r with
      held := t :: r.held
      count := r.count + 1
      count_eq := by rw [List.length_cons, r.count_eq] }
  else
    { r with
      held := (t :: r.held).take r.capacity
      count := r.capacity
      count_eq := by rw [List.length_take, List.length_cons, ← r.count_eq]; omega }

/-- The newest entries up to a limit, the oldest of them first. -/
def latest (r : TraceRecorder) (limit : Option Int) : List TraceEntry :=
  match limit with
  | none => r.entries
  | some n => lastOf n.toNat r.entries

def last? (r : TraceRecorder) : Option TraceEntry := r.entries.getLast?

def formatLatest (r : TraceRecorder) (limit : Option Int) : List Text :=
  (r.latest limit).map TraceEntry.format

/-- Prints the newest entries as messages of the category that a value names. -/
def dump (r : TraceRecorder) (category : MessageArg) (limit : Option Int) : Act Host Unit :=
  (r.formatLatest limit).forM (Host.logFor category)

def clear (r : TraceRecorder) : TraceRecorder := empty r.capacity

theorem length_lastOf {α : Type} (count : Nat) (l : List α) :
    (lastOf count l).length = min count l.length := by
  simp only [lastOf, List.length_drop]
  omega

theorem lastOf_eq_reverse_take {α : Type} (count : Nat) (l : List α) :
    lastOf count l = (l.reverse.take count).reverse := by
  rw [List.take_reverse, List.reverse_reverse, lastOf]

theorem lastOf_lastOf_append {α : Type} (count : Nat) (l : List α) (a : α) :
    lastOf count (lastOf count l ++ [a]) = lastOf count (l ++ [a]) := by
  cases count with
  | zero => simp [lastOf]
  | succ n =>
    simp only [lastOf_eq_reverse_take, List.reverse_append, List.reverse_reverse,
      List.reverse_cons, List.reverse_nil, List.nil_append, List.singleton_append,
      List.take_succ_cons, List.take_take]
    rw [Nat.min_eq_left (Nat.le_succ n)]

/-- What is recorded after one more entry: of all that was recorded and the new entry, the last
ones up to the capacity. -/
theorem entries_record (r : TraceRecorder) (t : TraceEntry) :
    (r.record t).entries = lastOf r.capacity (r.entries ++ [t]) := by
  have h : ((t :: r.held).take r.capacity).reverse = lastOf r.capacity (r.entries ++ [t]) := by
    have e : r.entries = lastOf r.capacity r.held.reverse := by
      rw [lastOf_eq_reverse_take, List.reverse_reverse, entries]
    rw [e, lastOf_lastOf_append, lastOf_eq_reverse_take]
    simp
  unfold record
  split
  · exact h
  · rw [← h, entries, List.take_take, Nat.min_self]

@[simp] theorem entries_empty (capacity : Nat) : (empty capacity).entries = [] := by
  simp [empty, entries]

theorem entries_clear (r : TraceRecorder) : r.clear.entries = [] := entries_empty r.capacity

theorem size_le (r : TraceRecorder) : r.size ≤ r.capacity := by
  simp only [size, entries, List.length_reverse, List.length_take]
  omega

end TraceRecorder

end Chip8
