/-
  The members of whole numbers, and what truth values have beside them.
-/
import Chip8.Template.Member

namespace Chip8.Member

def numberMembers : List Member :=
  [maker, operator "__repr__", operator "__hash__", operator "__getattribute__", operator "__lt__",
   operator "__le__", operator "__eq__", operator "__ne__", operator "__gt__", operator "__ge__",
   operator "__add__", operator "__radd__", operator "__sub__", operator "__rsub__",
   operator "__mul__", operator "__rmul__", operator "__mod__", operator "__rmod__",
   operator "__divmod__", operator "__rdivmod__", operator "__pow__", operator "__rpow__",
   operator "__neg__", operator "__pos__", operator "__abs__", operator "__bool__",
   operator "__invert__", operator "__lshift__", operator "__rlshift__", operator "__rshift__",
   operator "__rrshift__", operator "__and__", operator "__rand__", operator "__xor__",
   operator "__rxor__", operator "__or__", operator "__ror__", operator "__int__",
   operator "__float__", operator "__floordiv__", operator "__rfloordiv__", operator "__truediv__",
   operator "__rtruediv__", operator "__index__",
   method "conjugate" none ["Returns self, the complex conjugate of any int."],
   method "bit_length" (some "($self, /)")
    ["Number of bits necessary to represent self in binary.", "", ">>> bin(37)", "'0b100101'",
     ">>> (37).bit_length()", "6"],
   method "bit_count" (some "($self, /)")
    ["Number of ones in the binary representation of the absolute value of self.", "",
     "Also known as the population count.", "", ">>> bin(13)", "'0b1101'", ">>> (13).bit_count()",
     "3"],
   method "to_bytes" (some "($self, /, length=1, byteorder='big', *, signed=False)")
    ["Return an array of bytes representing an integer.", "", "  length",
     "    Length of bytes object to use.  An OverflowError is raised if the",
     "    integer is not representable with the given number of bytes.  Default",
     "    is length 1.", "  byteorder",
     "    The byte order used to represent the integer.  If byteorder is 'big',",
     "    the most significant byte is at the beginning of the byte array.  If",
     "    byteorder is 'little', the most significant byte is at the end of the",
     "    byte array.  To request the native byte order of the host system, use",
     "    `sys.byteorder' as the byte order value.  Default is to use 'big'.", "  signed",
     "    Determines whether two's complement is used to represent the integer.",
     "    If signed is False and a negative integer is given, an OverflowError", "    is raised."],
   kindMethod "from_bytes" (some "($type, /, bytes, byteorder='big', *, signed=False)")
    ["Return the integer represented by the given array of bytes.", "", "  bytes",
     "    Holds the array of bytes to convert.  The argument must either",
     "    support the buffer protocol or be an iterable object producing bytes.",
     "    Bytes and bytearray are examples of built-in objects that support the",
     "    buffer protocol.", "  byteorder",
     "    The byte order used to represent the integer.  If byteorder is 'big',",
     "    the most significant byte is at the beginning of the byte array.  If",
     "    byteorder is 'little', the most significant byte is at the end of the",
     "    byte array.  To request the native byte order of the host system, use",
     "    `sys.byteorder' as the byte order value.  Default is to use 'big'.", "  signed",
     "    Indicates whether two's complement is used to represent the integer."],
   method "as_integer_ratio" (some "($self, /)")
    ["Return integer ratio.", "",
     "Return a pair of integers, whose ratio is exactly equal to the original int",
     "and with a positive denominator.", "", ">>> (10).as_integer_ratio()", "(10, 1)",
     ">>> (-10).as_integer_ratio()", "(-10, 1)", ">>> (0).as_integer_ratio()", "(0, 1)"],
   method "__trunc__" none ["Truncating an Integral returns itself."],
   method "__floor__" none ["Flooring an Integral returns itself."],
   method "__ceil__" none ["Ceiling of an Integral returns itself."],
   method "__round__" (some "($self, ndigits=<unrepresentable>, /)")
    ["Rounding an Integral returns itself.", "",
     "Rounding with an ndigits argument also returns an integer."],
   method "__getnewargs__" (some "($self, /)") [],
   method "__format__" (some "($self, format_spec, /)") [],
   method "__sizeof__" (some "($self, /)") ["Returns size in memory, in bytes."],
   property "real" (some "the real part of a complex number"),
   property "imag" (some "the imaginary part of a complex number"),
   property "numerator" (some "the numerator of a rational number in lowest terms"),
   property "denominator" (some "the denominator of a rational number in lowest terms"),
   constant "__doc__"
    ["int([x]) -> integer", "int(x, base=10) -> integer", "",
     "Convert a number or string to an integer, or return 0 if no arguments",
     "are given.  If x is a number, return x.__int__().  For floating point",
     "numbers, this truncates towards zero.", "",
     "If x is not a number or if base is given, then x must be a string,",
     "bytes, or bytearray instance representing an integer literal in the",
     "given base.  The literal can be preceded by '+' or '-' and be surrounded",
     "by whitespace.  The base defaults to 10.  Valid bases are 0 and 2-36.",
     "Base 0 means to interpret the base from the string as an integer literal.",
     ">>> int('0b100', base=0)", "4"]]

def flagMembers : List Member :=
  [maker, operator "__repr__", operator "__and__", operator "__rand__", operator "__xor__",
   operator "__rxor__", operator "__or__", operator "__ror__",
   constant "__doc__"
    ["bool(x) -> bool", "", "Returns True when the argument x is true, False otherwise.",
     "The builtins True and False are the only two instances of the class bool.",
     "The class bool is a subclass of the class int, and cannot be subclassed."]]

end Chip8.Member
