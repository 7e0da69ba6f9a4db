/-
  Parts of the processor that a table row can name although they are no operations. Most of them
  refuse the instruction and the devices that are handed to them; two do nothing, and one makes
  the processor start over.
-/
import Chip8.Text

namespace Chip8

/-- Why a part of the processor takes no instruction. -/
inductive PartRefusal where
  /-- A method that takes so many arguments, the processor among them. -/
  | takes (count : Nat)
  /-- A method that takes nothing but the processor. -/
  | takesNothing
  /-- A method that takes one argument beside the processor. -/
  | takesOne
  /-- An operator with so many operands beside the processor. -/
  | expects (count : Nat)
  /-- The setter, which wants a name first. -/
  | wantsName
  /-- The maker, which wants a type first. -/
  | wantsType
  /-- No method at all. -/
  | value (kind : String)
  /-- The executing itself, which hands the instruction on to itself. -/
  | endless
deriving DecidableEq, Repr

/-- How a part of the given name refuses an instruction. -/
def PartRefusal.message (name : Text) : PartRefusal → Text
  | takes count => "CPU." ++ name ++ "() takes " ++ toString count ++ " positional argument" ++
      (if count = 1 then "" else "s") ++ " but 3 were given"
  | takesNothing => "CPU." ++ name ++ "() takes no arguments (2 given)"
  | takesOne => "CPU." ++ name ++ "() takes exactly one argument (2 given)"
  | expects count =>
    "expected " ++ toString count ++ " argument" ++ (if count = 1 then "" else "s") ++ ", got 2"
  | wantsName => "attribute name must be string, not 'Instruction'"
  | wantsType => "object." ++ name ++ "(X): X is not a type object (Instruction)"
  | value kind => "'" ++ kind ++ "' object is not callable"
  | endless => "maximum recursion depth exceeded in comparison"

/-- What a part of the processor does with an instruction that is handed to it. -/
inductive ProcessorPart where
  | refusing (refusal : PartRefusal)
  /-- Makes something that nobody keeps. -/
  | idle
  /-- Makes the processor start over, with the instruction in the place of its table. -/
  | startOver
deriving DecidableEq, Repr

namespace ProcessorPart

/-- The parts that refuse, by name, the drawing hint apart. -/
def refusals : List (String × PartRefusal) :=
  [("reset", .takes 2), ("tick_timers", .takes 2), ("_skip", .takes 1), ("execute", .endless),
   ("state", .value "CPUState"), ("opcode_table", .value "tuple"), ("rng", .value "Random"),
   ("instruction_count", .value "int"), ("__annotations__", .value "dict"),
   ("__dataclass_fields__", .value "dict"), ("__dataclass_params__", .value "_DataclassParams"),
   ("__delattr__", .expects 1), ("__dict__", .value "dict"), ("__dir__", .takesNothing),
   ("__doc__", .value "str"), ("__eq__", .takes 2), ("__format__", .takesOne),
   ("__ge__", .expects 1), ("__getattribute__", .expects 1), ("__getstate__", .takesNothing),
   ("__gt__", .expects 1), ("__init_subclass__", .takesNothing), ("__le__", .expects 1),
   ("__lt__", .expects 1), ("__match_args__", .value "tuple"), ("__module__", .value "str"),
   ("__ne__", .expects 1), ("__new__", .wantsType), ("__reduce__", .takesNothing),
   ("__reduce_ex__", .takesOne), ("__repr__", .takes 1), ("__setattr__", .wantsName),
   ("__sizeof__", .takesNothing), ("__str__", .expects 0)]

/-- The part of a name, if there is one. -/
def ofName? : String → Option ProcessorPart
  | "__class__" | "__subclasshook__" => some .idle
  | "__init__" => some .startOver
  | name => (refusals.find? (·.1 == name)).map fun entry => .refusing entry.2

end ProcessorPart

end Chip8
