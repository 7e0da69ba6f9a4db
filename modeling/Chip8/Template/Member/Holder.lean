/-
  The members of values that hold others: rows, tables, dictionaries and kinds with a key. The
  value that stands for none has the fewest.
-/
import Chip8.Template.Member

namespace Chip8.Member

def nothingMembers : List Member :=
  [maker, operator "__repr__", operator "__bool__", missing "__doc__"]

def rowMembers : List Member :=
  [maker, operator "__repr__", operator "__hash__", operator "__getattribute__", operator "__lt__",
   operator "__le__", operator "__eq__", operator "__ne__", operator "__gt__", operator "__ge__",
   operator "__iter__", operator "__len__", operator "__getitem__", operator "__add__",
   operator "__mul__", operator "__rmul__", operator "__contains__",
   method "__getnewargs__" (some "($self, /)") [],
   method "index" (some "($self, value, start=0, stop=sys.maxsize, /)")
    ["Return first index of value.", "", "Raises ValueError if the value is not present."],
   method "count" (some "($self, value, /)") ["Return number of occurrences of value."],
   kindMethod "__class_getitem__" none ["See PEP 585"],
   constant "__doc__"
    ["Built-in immutable sequence.", "",
     "If no argument is given, the constructor returns an empty tuple.",
     "If iterable is specified the tuple is initialized from iterable's items.", "",
     "If the argument is a tuple, the return value is the same object."]]

def tableMembers : List Member :=
  [maker, operator "__repr__", operator "__str__", operator "__getattribute__", operator "__lt__",
   operator "__le__", operator "__eq__", operator "__ne__", operator "__gt__", operator "__ge__",
   operator "__iter__", operator "__or__", operator "__ror__", operator "__ior__",
   operator "__len__", operator "__getitem__", operator "__contains__",
   method "get" none ["D.get(k[,d]) -> D[k] if k in D, else d.  d defaults to None."],
   method "keys" none ["D.keys() -> a set-like object providing a view on D's keys"],
   method "values" none ["D.values() -> an object providing a view on D's values"],
   method "items" none ["D.items() -> a set-like object providing a view on D's items"],
   method "copy" none ["D.copy() -> a shallow copy of D"],
   kindMethod "__class_getitem__" none ["See PEP 585"],
   method "__reversed__" none ["D.__reversed__() -> reverse iterator"], missing "__doc__",
   missing "__hash__"]

def dictionaryMembers : List Member :=
  [maker, operator "__repr__", missing "__hash__", operator "__getattribute__", operator "__lt__",
   operator "__le__", operator "__eq__", operator "__ne__", operator "__gt__", operator "__ge__",
   operator "__iter__", operator "__init__", operator "__or__", operator "__ror__",
   operator "__ior__", operator "__len__",
   method "__getitem__" none ["x.__getitem__(y) <==> x[y]"], operator "__setitem__",
   operator "__delitem__",
   method "__contains__" (some "($self, key, /)")
    ["True if the dictionary has the specified key, else False."],
   method "__sizeof__" none ["D.__sizeof__() -> size of D in memory, in bytes"],
   method "get" (some "($self, key, default=None, /)")
    ["Return the value for key if key is in the dictionary, else default."],
   method "setdefault" (some "($self, key, default=None, /)")
    ["Insert key with a value of default if key is not in the dictionary.", "",
     "Return the value for key if key is in the dictionary, else default."],
   method "pop" (some "($self, key, default=<unrepresentable>, /)")
    ["D.pop(k[,d]) -> v, remove specified key and return the corresponding value.", "",
     "If the key is not found, return the default if given; otherwise,", "raise a KeyError."],
   method "popitem" (some "($self, /)")
    ["Remove and return a (key, value) pair as a 2-tuple.", "",
     "Pairs are returned in LIFO (last-in, first-out) order.",
     "Raises KeyError if the dict is empty."],
   method "keys" none ["D.keys() -> a set-like object providing a view on D's keys"],
   method "items" none ["D.items() -> a set-like object providing a view on D's items"],
   method "values" none ["D.values() -> an object providing a view on D's values"],
   method "update" none
    ["D.update([E, ]**F) -> None.  Update D from dict/iterable E and F.",
     "If E is present and has a .keys() method, then does:  for k in E: D[k] = E[k]",
     "If E is present and lacks a .keys() method, then does:  for k, v in E: D[k] = v",
     "In either case, this is followed by: for k in F:  D[k] = F[k]"],
   kindMethod "fromkeys" (some "($type, iterable, value=None, /)")
    ["Create a new dictionary with keys from iterable and values set to value."],
   method "clear" none ["D.clear() -> None.  Remove all items from D."],
   method "copy" none ["D.copy() -> a shallow copy of D"],
   method "__reversed__" (some "($self, /)") ["Return a reverse iterator over the dict keys."],
   kindMethod "__class_getitem__" none ["See PEP 585"],
   constant "__doc__"
    ["dict() -> new empty dictionary",
     "dict(mapping) -> new dictionary initialized from a mapping object's",
     "    (key, value) pairs", "dict(iterable) -> new dictionary initialized as if via:",
     "    d = \x7b\x7d", "    for k, v in iterable:", "        d[k] = v",
     "dict(**kwargs) -> new dictionary initialized with the name=value pairs",
     "    in the keyword argument list.  For example:  dict(one=1, two=2)"]]

def indexedMembers : List Member :=
  [maker, operator "__repr__", operator "__hash__", operator "__call__",
   operator "__getattribute__", operator "__lt__", operator "__le__", operator "__eq__",
   operator "__ne__", operator "__gt__", operator "__ge__", operator "__iter__", operator "__or__",
   operator "__ror__", operator "__getitem__", method "__mro_entries__" none [],
   method "__instancecheck__" none [], method "__subclasscheck__" none [],
   method "__reduce__" none [], method "__dir__" none [], field "__origin__", field "__args__",
   field "__unpacked__", property "__parameters__" (some "Type variables in the GenericAlias."),
   property "__typing_unpacked_tuple_args__",
   constant "__doc__"
    ["Represent a PEP 585 generic type", "",
     "E.g. for t = list[int], t.__origin__ is list and t.__args__ is (int,)."]]

end Chip8.Member
