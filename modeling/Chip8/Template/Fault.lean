/-
  Why a template cannot be rendered, and the wording of each cause.
-/
import Chip8.Template.Kind
import Chip8.Text.Quoted

namespace Chip8

/-- What a style can ask for. -/
inductive StyleOption where
  | sign
  | blankSign
  | mark
  | positiveZero
  | signAlignment
  | precision
deriving DecidableEq, Repr

/-- What a style is applied to. -/
inductive StyleTarget where
  | integer
  | character
  | text
deriving DecidableEq, Repr

inductive TemplateFault where
  | unknownField (name : Text)
  /-- A field given by position, of which there are none. -/
  | numberedField (index : Nat)
  | numberTooLong
  | loneOpening
  | loneClosing
  | openingInName
  | unclosedName
  | conversionMissing
  | conversionUnended
  | unknownConversion (code : CodePoint)
  | unclosedStyle
  | nestedTooDeep
  | emptyPart
  | strayAfterElement
  | unknownPart (k : FieldKind) (name : Text)
  /-- A part that a kind itself does not have. -/
  | unknownKindPart (k : FieldKind) (name : Text)
  /-- A part of a kind that has a name and no value. -/
  | unsetPart (name : Text)
  | noElements (k : FieldKind)
  | noKindElements (k : FieldKind)
  /-- A kind that has its key already, with another one. -/
  | keyTaken (text : Text)
  /-- A number beyond the elements of a value. -/
  | elementMissing (k : FieldKind)
  /-- A word for an element, where elements have numbers. -/
  | elementUnnumbered (k : FieldKind)
  /-- A key that a table does not have, as it is shown. -/
  | keyMissing (key : Text)
  /-- A style for a value that takes none. -/
  | styleUnfit (k : FieldKind)
  | unknownCode (code : CodePoint) (k : FieldKind)
  | invalidStyle (style : Text) (k : FieldKind)
  | groupedTwice
  | groupingUnfit (mark code : CodePoint)
  | precisionMissing
  | precisionTooLarge
  | optionUnfit (option : StyleOption) (target : StyleTarget)
  /-- A number that is no character code. -/
  | characterCode
  /-- A text longer than what a host can address. -/
  | tooWide
deriving DecidableEq, Repr

namespace TemplateFault

/-- A code point in a message: as it is between the blank and a limit, by its code beyond. -/
def codeText (limit : Nat) (p : CodePoint) : Text :=
  if 32 < p.code && p.code < limit then [p] else "\\x" ++ Numeral.hex 0 p.code

def optionText : StyleOption → String
  | .sign => "Sign"
  | .blankSign => "Space"
  | .mark => "Alternate form (#)"
  | .positiveZero => "Negative zero coercion (z)"
  | .signAlignment => "'=' alignment"
  | .precision => "Precision"

def targetText : StyleTarget → String
  | .integer => "in integer format specifier"
  | .character => "with integer format specifier 'c'"
  | .text => "in string format specifier"

def message : TemplateFault → Text
  | unknownField name => Text.quote name
  | numberedField index =>
    "Replacement index " ++ toString index ++ " out of range for positional args tuple"
  | numberTooLong => "Too many decimal digits in format string"
  | loneOpening => "Single '\x7b' encountered in format string"
  | loneClosing => "Single '\x7d' encountered in format string"
  | openingInName => "unexpected '\x7b' in field name"
  | unclosedName => "expected '\x7d' before end of string"
  | conversionMissing => "end of string while looking for conversion specifier"
  | conversionUnended => "expected ':' after conversion specifier"
  | unknownConversion code => "Unknown conversion specifier " ++ codeText 127 code
  | unclosedStyle => "unmatched '\x7b' in format spec"
  | nestedTooDeep => "Max string recursion exceeded"
  | emptyPart => "Empty attribute in format string"
  | strayAfterElement => "Only '.' or '[' may follow ']' in format field specifier"
  | unknownPart k name => "'" ++ k.name ++ "' object has no attribute '" ++ name ++ "'"
  | unknownKindPart k name =>
    "type object '" ++ k.name ++ "' has no attribute '" ++ name ++ "'"
  | unsetPart name => name
  | noElements k => "'" ++ k.name ++ "' object is not subscriptable"
  | noKindElements k => "type '" ++ k.name ++ "' is not subscriptable"
  | keyTaken text => text ++ " is not a generic class"
  | elementMissing .text => "string index out of range"
  | elementMissing k => k.name ++ " index out of range"
  | elementUnnumbered .text => "string indices must be integers, not 'str'"
  | elementUnnumbered k => k.name ++ " indices must be integers or slices, not str"
  | keyMissing key => key
  | styleUnfit k => "unsupported format string passed to " ++ k.name ++ ".__format__"
  | unknownCode code k =>
    "Unknown format code '" ++ codeText 128 code ++ "' for object of type '" ++ k.name ++ "'"
  | invalidStyle style k =>
    "Invalid format specifier '" ++ style ++ "' for object of type '" ++ k.name ++ "'"
  | groupedTwice => "Cannot specify both ',' and '_'."
  | groupingUnfit mark code =>
    "Cannot specify '" ++ [mark] ++ "' with '" ++ codeText 128 code ++ "'."
  | precisionMissing => "Format specifier missing precision"
  | precisionTooLarge => "precision too big"
  | optionUnfit option target => optionText option ++ " not allowed " ++ targetText target
  | characterCode => "%c arg not in range(0x110000)"
  | tooWide => ""

end TemplateFault

end Chip8
