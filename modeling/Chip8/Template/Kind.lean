/-
  The kinds of value that a template can come to. A field stands for a number; the parts of a
  number lead to texts, to kinds, to the members of kinds, and to members bound to a value. Every
  kind comes from that of all objects, truth values by way of the numbers, and kinds are values
  themselves.
-/

namespace Chip8

inductive FieldKind where
  | number
  /-- Truth values, which count as numbers. -/
  | flag
  | text
  /-- The kind of the one value that stands for none. -/
  | nothing
  /-- Values in a row. -/
  | row
  /-- The kind of kinds. -/
  | kind
  /-- The kind that all values have in common. -/
  | object
  /-- A part that a kind works out for each of its values. -/
  | property
  /-- A part that each value of a kind holds. -/
  | field
  | method
  /-- A method that the language has a sign or a rule for. -/
  | operator
  /-- A method of the kind itself, not of its values. -/
  | kindMethod
  /-- A method that works on no value, as the kind holds it. -/
  | looseMethod
  /-- A method together with the value it works on. -/
  | boundMethod
  /-- An operator together with the value it works on. -/
  | boundOperator
  /-- The members of a kind by name. -/
  | table
  /-- Values by key, as a value keeps them for itself. -/
  | dictionary
  /-- A kind with a key in brackets. -/
  | indexed
deriving DecidableEq, Repr

/-- How the values of a kind lie in memory, and what the kind can do, as flags. -/
structure KindShape where
  flags : Nat
  size : Nat
  itemSize : Nat := 0
  tableOffset : Nat := 0
  referenceOffset : Nat := 0
deriving DecidableEq, Repr

namespace FieldKind

/-- The name of a kind inside its home. -/
def shortName : FieldKind → String
  | number => "int"
  | flag => "bool"
  | text => "str"
  | nothing => "NoneType"
  | row => "tuple"
  | kind => "type"
  | object => "object"
  | property => "getset_descriptor"
  | field => "member_descriptor"
  | method => "method_descriptor"
  | operator => "wrapper_descriptor"
  | kindMethod => "classmethod_descriptor"
  | looseMethod => "staticmethod"
  | boundMethod => "builtin_function_or_method"
  | boundOperator => "method-wrapper"
  | table => "mappingproxy"
  | dictionary => "dict"
  | indexed => "GenericAlias"

/-- Where a kind is at home. -/
def home : FieldKind → String
  | indexed => "types"
  | _ => "builtins"

/-- The name of a kind, with its home unless that is where all the others are. -/
def name (k : FieldKind) : String :=
  if k.home == "builtins" then k.shortName else k.home ++ "." ++ k.shortName

/-- A kind and those it comes from, itself first. -/
def lineage : FieldKind → List FieldKind
  | object => [object]
  | flag => [flag, number, object]
  | k => [k, object]

/-- The arguments that make a value of a kind, where they are told. -/
def signature : FieldKind → Option String
  | row => some "(iterable=(), /)"
  | object => some "()"
  | _ => none

/-- Whether a kind can be followed by a key in brackets. -/
def takesKey (k : FieldKind) : Bool := k == kind || k == row || k == table || k == dictionary

def shape : FieldKind → KindShape
  | number => { flags := 21501184, size := 24, itemSize := 4 }
  | flag => { flags := 21500160, size := 32, itemSize := 4 }
  | text => { flags := 273159424, size := 80 }
  | nothing => { flags := 528640, size := 16 }
  | row => { flags := 71849248, size := 24, itemSize := 8 }
  | kind =>
    { flags := 2148031744, size := 904, itemSize := 40, tableOffset := 264
      referenceOffset := 368 }
  | object => { flags := 529664, size := 16 }
  | property => { flags := 545152, size := 48 }
  | field => { flags := 545152, size := 48 }
  | method => { flags := 678272, size := 56 }
  | operator => { flags := 676224, size := 56 }
  | kindMethod => { flags := 545152, size := 56 }
  | looseMethod => { flags := 546048, size := 32, tableOffset := 24 }
  | boundMethod => { flags := 547200, size := 56, referenceOffset := 40 }
  | boundOperator => { flags := 545152, size := 32 }
  | table => { flags := 545088, size := 24 }
  | dictionary => { flags := 541611328, size := 48 }
  | indexed => { flags := 548096, size := 64, referenceOffset := 40 }

theorem mem_lineage_self (k : FieldKind) : k ∈ k.lineage := by
  cases k <;> decide

theorem object_mem_lineage (k : FieldKind) : object ∈ k.lineage := by
  cases k <;> decide

end FieldKind

end Chip8
