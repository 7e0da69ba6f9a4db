/-
  The members that all values share, and those of the kinds.
-/
import Chip8.Template.Member

namespace Chip8.Member

def objectMembers : List Member :=
  [maker, operator "__repr__", operator "__hash__", operator "__str__",
   operator "__getattribute__", operator "__setattr__", operator "__delattr__", operator "__lt__",
   operator "__le__", operator "__eq__", operator "__ne__", operator "__gt__", operator "__ge__",
   operator "__init__",
   method "__reduce_ex__" (some "($self, protocol, /)") ["Helper for pickle."],
   method "__reduce__" (some "($self, /)") ["Helper for pickle."],
   method "__getstate__" (some "($self, /)") ["Helper for pickle."],
   kindMethod "__subclasshook__" none
    ["Abstract classes can override this to customize issubclass().", "",
     "This is invoked early on by abc.ABCMeta.__subclasscheck__().",
     "It should return True, False or NotImplemented.  If it returns",
     "NotImplemented, the normal algorithm is used.  Otherwise, it",
     "overrides the normal algorithm (and the outcome is cached).", ""],
   kindMethod "__init_subclass__" none
    ["This method is called when a class is subclassed.", "",
     "The default implementation does nothing. It may be", "overridden to extend subclasses.", ""],
   method "__format__" (some "($self, format_spec, /)") ["Default object formatter."],
   method "__sizeof__" (some "($self, /)") ["Size of object in memory, in bytes."],
   method "__dir__" (some "($self, /)") ["Default dir() implementation."],
   property "__class__" (some "the object's class"),
   constant "__doc__"
    ["The base class of the class hierarchy.", "",
     "When called, it accepts no arguments and returns a new featureless",
     "instance that has no instance attributes and cannot be given any.", ""]]

def kindMembers : List Member :=
  [maker, operator "__repr__", operator "__call__", operator "__getattribute__",
   operator "__setattr__", operator "__delattr__", operator "__init__", operator "__or__",
   operator "__ror__",
   method "mro" (some "($self, /)") ["Return a type's method resolution order."],
   method "__subclasses__" (some "($self, /)") ["Return a list of immediate subclasses."],
   kindMethod "__prepare__" none
    ["__prepare__() -> dict", "used to create the namespace for the class statement"],
   method "__instancecheck__" (some "($self, instance, /)")
    ["Check if an object is an instance."],
   method "__subclasscheck__" (some "($self, subclass, /)") ["Check if a class is a subclass."],
   method "__dir__" (some "($self, /)") ["Specialized __dir__ implementation for types."],
   method "__sizeof__" (some "($self, /)") ["Return memory consumption of the type object."],
   field "__basicsize__", field "__itemsize__", field "__flags__", field "__weakrefoffset__",
   field "__base__", field "__dictoffset__", field "__mro__", property "__name__",
   property "__qualname__", property "__bases__", property "__module__",
   property "__abstractmethods__", property "__dict__", property "__doc__",
   property "__text_signature__", property "__annotations__"]

end Chip8.Member
