/-
  The members of kinds: what a kind has under a name, with the text that describes it and, where
  it is told, the arguments that it takes.
-/
import Chip8.Template.Kind

namespace Chip8

/-- What a kind has under a name. -/
inductive MemberSort where
  | property
  | field
  | method
  | operator
  | kindMethod
  /-- A method of a kind that is bound to it from the start. -/
  | freeMethod
  /-- A method that is bound to nothing. -/
  | looseMethod
  /-- A text, or nothing. -/
  | constant
deriving DecidableEq, Repr

namespace MemberSort

/-- The kind of a member that is taken out of its kind. -/
def kind : MemberSort → FieldKind
  | property => .property
  | field => .field
  | method => .method
  | operator => .operator
  | kindMethod => .kindMethod
  | freeMethod => .boundMethod
  | looseMethod => .looseMethod
  | constant => .text

/-- Whether a value of the kind has a value under the member's name, before its own kind is asked
for a member of that name. -/
def isData (s : MemberSort) : Bool := s == property || s == field

end MemberSort

structure Member where
  name : String
  sort : MemberSort
  /-- The description; of a constant, the text it stands for. -/
  text : Option String := none
  signature : Option String := none
deriving DecidableEq, Repr

namespace Member

/-- Lines as one text; without lines there is none. -/
def textOf : List String → Option String
  | [] => none
  | lines => some (String.intercalate "\n" lines)

def property (name : String) (text : Option String := none) : Member :=
  { name, sort := .property, text }

def field (name : String) : Member := { name, sort := .field }

def method (name : String) (signature : Option String) (lines : List String) : Member :=
  { name, sort := .method, text := textOf lines, signature }

def kindMethod (name : String) (signature : Option String) (lines : List String) : Member :=
  { name, sort := .kindMethod, text := textOf lines, signature }

def freeMethod (name : String) (signature : Option String) (lines : List String) : Member :=
  { name, sort := .freeMethod, text := textOf lines, signature }

def looseMethod (name : String) (signature : Option String) (lines : List String) : Member :=
  { name, sort := .looseMethod, text := textOf lines, signature }

def constant (name : String) (lines : List String) : Member :=
  { name, sort := .constant, text := textOf lines }

/-- A name under which a kind has nothing. -/
def missing (name : String) : Member := constant name []

/-- The member that makes a value of a kind. -/
def maker : Member :=
  freeMethod "__new__" (some "($type, *args, **kwargs)")
    ["Create and return a new object.  See help(type) for accurate signature."]

/-- The operators, each with what it does and the arguments beside the value itself. -/
def operators : List (String × String × String) :=
  [("__repr__", "Return repr(self).", "/"), ("__hash__", "Return hash(self).", "/"),
   ("__getattribute__", "Return getattr(self, name).", "name, /"),
   ("__lt__", "Return self<value.", "value, /"), ("__le__", "Return self<=value.", "value, /"),
   ("__eq__", "Return self==value.", "value, /"), ("__ne__", "Return self!=value.", "value, /"),
   ("__gt__", "Return self>value.", "value, /"), ("__ge__", "Return self>=value.", "value, /"),
   ("__add__", "Return self+value.", "value, /"), ("__radd__", "Return value+self.", "value, /"),
   ("__sub__", "Return self-value.", "value, /"), ("__rsub__", "Return value-self.", "value, /"),
   ("__mul__", "Return self*value.", "value, /"), ("__rmul__", "Return value*self.", "value, /"),
   ("__mod__", "Return self%value.", "value, /"), ("__rmod__", "Return value%self.", "value, /"),
   ("__divmod__", "Return divmod(self, value).", "value, /"),
   ("__rdivmod__", "Return divmod(value, self).", "value, /"),
   ("__pow__", "Return pow(self, value, mod).", "value, mod=None, /"),
   ("__rpow__", "Return pow(value, self, mod).", "value, mod=None, /"), ("__neg__", "-self", "/"),
   ("__pos__", "+self", "/"), ("__abs__", "abs(self)", "/"),
   ("__bool__", "True if self else False", "/"), ("__invert__", "~self", "/"),
   ("__lshift__", "Return self<<value.", "value, /"),
   ("__rlshift__", "Return value<<self.", "value, /"),
   ("__rshift__", "Return self>>value.", "value, /"),
   ("__rrshift__", "Return value>>self.", "value, /"),
   ("__and__", "Return self&value.", "value, /"), ("__rand__", "Return value&self.", "value, /"),
   ("__xor__", "Return self^value.", "value, /"), ("__rxor__", "Return value^self.", "value, /"),
   ("__or__", "Return self|value.", "value, /"), ("__ror__", "Return value|self.", "value, /"),
   ("__int__", "int(self)", "/"), ("__float__", "float(self)", "/"),
   ("__floordiv__", "Return self//value.", "value, /"),
   ("__rfloordiv__", "Return value//self.", "value, /"),
   ("__truediv__", "Return self/value.", "value, /"),
   ("__rtruediv__", "Return value/self.", "value, /"),
   ("__index__",
     "Return self converted to an integer, if self is suitable for use as an index into a list.",
     "/"),
   ("__str__", "Return str(self).", "/"), ("__iter__", "Implement iter(self).", "/"),
   ("__len__", "Return len(self).", "/"), ("__getitem__", "Return self[key].", "key, /"),
   ("__setitem__", "Set self[key] to value.", "key, value, /"),
   ("__delitem__", "Delete self[key].", "key, /"),
   ("__contains__", "Return key in self.", "key, /"),
   ("__call__", "Call self as a function.", "/, *args, **kwargs"),
   ("__setattr__", "Implement setattr(self, name, value).", "name, value, /"),
   ("__delattr__", "Implement delattr(self, name).", "name, /"),
   ("__init__",
     "Initialize self.  See help(type(self)) for accurate signature.", "/, *args, **kwargs"),
   ("__get__",
     "Return an attribute of instance, which is of type owner.", "instance, owner=None, /"),
   ("__set__", "Set an attribute of instance to value.", "instance, value, /"),
   ("__delete__", "Delete an attribute of instance.", "instance, /"),
   ("__ior__", "Return self|=value.", "value, /")]

/-- The operator of the given name, which means the same in every kind. -/
def operator (name : String) : Member :=
  match operators.find? (·.1 == name) with
  | some (_, text, arguments) =>
    { name, sort := .operator, text, signature := some ("($self, " ++ arguments ++ ")") }
  | none => { name, sort := .operator }

end Member

end Chip8
