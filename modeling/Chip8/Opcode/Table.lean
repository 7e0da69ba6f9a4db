/-
  Instruction tables: rows sorted into sixteen buckets by family, in the order of registration.
  Looking a word up scans its family's bucket only.
-/
import Chip8.Opcode.Basic

namespace Chip8

/-- Rows by family. -/
structure OpcodeTable where
  buckets : Vector (List Opcode) 16
deriving DecidableEq, Repr

namespace OpcodeTable

def empty : OpcodeTable := ⟨Vector.replicate 16 []⟩

instance : Inhabited OpcodeTable := ⟨empty⟩

/-- The rows of a family. -/
def bucket (t : OpcodeTable) (family : Fin 16) : List Opcode := t.buckets[family]

/-- Adds a row behind the rows of its family. A second row with the same mask and pattern is
refused. -/
def register (t : OpcodeTable) (o : Opcode) : Except Fault OpcodeTable :=
  let bucket := t.bucket o.family
  match bucket.find? (·.sameBits o) with
  | some earlier => .error (.opcode (.taken o.pattern earlier.handler))
  | none => .ok ⟨t.buckets.set o.family (bucket ++ [o])⟩

/-- Adds rows one after the other. The first refused row ends the registration; the rows before
it stay. -/
def registerAll : List Opcode → Act OpcodeTable Unit
  | [] => pure ()
  | o :: rest => do
    set (← Act.ofExcept ((← get).register o))
    registerAll rest

/-- The table of the given rows. -/
def ofOpcodes (rows : List Opcode) : Except Fault OpcodeTable :=
  match registerAll rows empty with
  | .ok _ t => .ok t
  | .error e _ => .error e

/-- The table of the rows proposed, each of which must make a row before the next one is looked
at. -/
def ofRows (rows : List OpcodeRow) : Except Fault OpcodeTable :=
  rows.foldlM (fun t row => do t.register (← Opcode.ofRow row)) empty

/-- The first row of the word's family that the word matches. -/
def lookup (t : OpcodeTable) (w : Word) : Option Opcode :=
  (t.bucket w.family).find? (·.isMatch w)

/-- The row of an integer, of which only the low sixteen bits count. -/
def lookupRaw (t : OpcodeTable) (raw : Int) : Option Opcode := t.lookup (Word.ofInt raw)

/-- The text of a word that matches no row. -/
def unknownText : Text := "???"

/-- The text of an instruction word. -/
def disassemble (t : OpcodeTable) (w : Word) : Except Fault Text :=
  match t.lookup w with
  | none => .ok unknownText
  | some o => o.format w

/-- The text of an integer, of which only the low sixteen bits count. -/
def disassembleRaw (t : OpcodeTable) (raw : Int) : Except Fault Text :=
  t.disassemble (Word.ofInt raw)

/-- The number of rows in each bucket. -/
def sizes (t : OpcodeTable) : List Nat := t.buckets.toList.map List.length

theorem bucket_empty (family : Fin 16) : empty.bucket family = [] := by
  simp [bucket, empty]

end OpcodeTable

end Chip8
