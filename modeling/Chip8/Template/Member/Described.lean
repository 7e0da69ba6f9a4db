/-
  The members of members themselves: what a member can tell about itself, alone or bound to a
  value.
-/
import Chip8.Template.Member

namespace Chip8.Member

def propertyMembers : List Member :=
  [operator "__repr__", operator "__getattribute__", operator "__get__", operator "__set__",
   operator "__delete__", field "__objclass__", field "__name__", property "__doc__",
   property "__qualname__"]

def fieldMembers : List Member :=
  [operator "__repr__", operator "__getattribute__", operator "__get__", operator "__set__",
   operator "__delete__", method "__reduce__" none [], field "__objclass__", field "__name__",
   property "__doc__", property "__qualname__"]

def methodMembers : List Member :=
  [operator "__repr__", operator "__call__", operator "__getattribute__", operator "__get__",
   method "__reduce__" none [], field "__objclass__", field "__name__", property "__doc__",
   property "__qualname__", property "__text_signature__"]

def operatorMembers : List Member :=
  [operator "__repr__", operator "__call__", operator "__getattribute__", operator "__get__",
   method "__reduce__" none [], field "__objclass__", field "__name__", property "__doc__",
   property "__qualname__", property "__text_signature__"]

def kindMethodMembers : List Member :=
  [operator "__repr__", operator "__call__", operator "__getattribute__", operator "__get__",
   field "__objclass__", field "__name__", property "__doc__", property "__qualname__",
   property "__text_signature__"]

def looseMethodMembers : List Member :=
  [maker, operator "__repr__", operator "__call__", operator "__get__", operator "__init__",
   field "__func__", field "__wrapped__", property "__isabstractmethod__", property "__dict__",
   constant "__doc__"
    ["staticmethod(function) -> method", "", "Convert a function to be a static method.", "",
     "A static method does not receive an implicit first argument.",
     "To declare a static method, use this idiom:", "", "     class C:",
     "         @staticmethod", "         def f(arg1, arg2, ...):", "             ...", "",
     "It can be called either on the class (e.g. C.f()) or on an instance",
     "(e.g. C().f()). Both the class and the instance are ignored, and",
     "neither is passed implicitly as the first argument to the method.", "",
     "Static methods in Python are similar to those found in Java or C++.",
     "For a more advanced concept, see the classmethod builtin."]]

def boundMethodMembers : List Member :=
  [operator "__repr__", operator "__hash__", operator "__call__", operator "__getattribute__",
   operator "__lt__", operator "__le__", operator "__eq__", operator "__ne__", operator "__gt__",
   operator "__ge__", method "__reduce__" none [], field "__module__", property "__doc__",
   property "__name__", property "__qualname__", property "__self__",
   property "__text_signature__"]

def boundOperatorMembers : List Member :=
  [operator "__repr__", operator "__hash__", operator "__call__", operator "__getattribute__",
   operator "__lt__", operator "__le__", operator "__eq__", operator "__ne__", operator "__gt__",
   operator "__ge__", method "__reduce__" none [], field "__self__", property "__objclass__",
   property "__name__", property "__qualname__", property "__doc__",
   property "__text_signature__"]

end Chip8.Member
