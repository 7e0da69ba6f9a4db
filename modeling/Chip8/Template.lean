/-
  Text templates with named fields, as `LD V{x:X}, {kk:#04x}`. A field names a value, perhaps with
  parts of it behind points or in brackets, then perhaps a conversion behind `!` and a style
  behind `:`; the style may hold fields itself. A template is read into pieces, and a piece that
  cannot be read is kept as a fault, so that rendering reports the first fault from the left.
  Doubled braces stand for themselves.
-/
import Chip8.Template.Value

namespace Chip8

/-- A piece of a template. -/
inductive TemplatePart where
  | text (t : Text)
  | field (name : Text) (conversion : Option CodePoint) (style : Text)
  | broken (fault : TemplateFault)
deriving DecidableEq, Repr

namespace Template

/-- Where the reader of a template stands, with the characters collected so far in reverse. -/
inductive Place where
  | text (seen : Text)
  | name (seen : Text)
  /-- In brackets, inside a name. -/
  | element (seen : Text)
  /-- Before the code of a conversion. -/
  | conversion (name : Text)
  /-- After it. -/
  | converted (name : Text) (code : CodePoint)
  /-- In a style, with the number of braces open. -/
  | style (name : Text) (conversion : Option CodePoint) (seen : Text) (depth : Nat)

def textPart (seen : Text) : List TemplatePart :=
  if seen.isEmpty then [] else [.text seen.reverse]

/-- The pieces of the rest of a template. -/
def readFrom : Place → Text → List TemplatePart
  | .text seen, [] => textPart seen
  | .text seen, [.char '\x7b'] => textPart seen ++ [.broken .loneOpening]
  | .text seen, .char '\x7b' :: .char '\x7b' :: rest => readFrom (.text ('\x7b' :: seen)) rest
  | .text seen, .char '\x7b' :: rest => textPart seen ++ readFrom (.name []) rest
  | .text seen, .char '\x7d' :: .char '\x7d' :: rest => readFrom (.text ('\x7d' :: seen)) rest
  | .text seen, .char '\x7d' :: _ => textPart seen ++ [.broken .loneClosing]
  | .text seen, c :: rest => readFrom (.text (c :: seen)) rest
  | .name _, [] => [.broken .unclosedName]
  | .name _, .char '\x7b' :: _ => [.broken .openingInName]
  | .name seen, .char '[' :: rest => readFrom (.element ('[' :: seen)) rest
  | .name seen, .char '!' :: rest => readFrom (.conversion seen.reverse) rest
  | .name seen, .char ':' :: rest => readFrom (.style seen.reverse none [] 0) rest
  | .name seen, .char '\x7d' :: rest => .field seen.reverse none [] :: readFrom (.text []) rest
  | .name seen, c :: rest => readFrom (.name (c :: seen)) rest
  | .element _, [] => [.broken .unclosedName]
  | .element seen, .char ']' :: rest => readFrom (.name (']' :: seen)) rest
  | .element seen, c :: rest => readFrom (.element (c :: seen)) rest
  | .conversion _, [] => [.broken .conversionMissing]
  | .conversion name, c :: rest => readFrom (.converted name c) rest
  | .converted _ _, [] => [.broken .unclosedStyle]
  | .converted name code, .char '\x7d' :: rest =>
    .field name (some code) [] :: readFrom (.text []) rest
  | .converted name code, .char ':' :: rest => readFrom (.style name (some code) [] 0) rest
  | .converted _ _, _ :: _ => [.broken .conversionUnended]
  | .style _ _ _ _, [] => [.broken .unclosedStyle]
  | .style name code seen n, .char '\x7b' :: rest =>
    readFrom (.style name code ('\x7b' :: seen) (n + 1)) rest
  | .style name code seen 0, .char '\x7d' :: rest =>
    .field name code seen.reverse :: readFrom (.text []) rest
  | .style name code seen (n + 1), .char '\x7d' :: rest =>
    readFrom (.style name code ('\x7d' :: seen) n) rest
  | .style name code seen n, c :: rest => readFrom (.style name code (c :: seen) n) rest

def parse (template : Text) : List TemplatePart := readFrom (.text []) template

/-- Whether a code point starts a part of a value in a field's name. -/
def startsPart (p : CodePoint) : Bool := p == '.' || p == '['

/-- Whether a code point ends an element that stands in brackets. -/
def endsElement (p : CodePoint) : Bool := p == ']'

/-- The value that the first word of a field's name gives. A field with no name, or with a
number for a name, asks for a value by position, and there are none. -/
def named (value? : String → Option Int) (name : Text) :
    Except TemplateFault FieldValue := do
  let index ← FieldStyle.numberOf (name.takeWhile FieldStyle.isDigit)
  if name.all FieldStyle.isDigit then throw (.numberedField index)
  match name.string?.bind value? with
  | none => throw (.unknownField name)
  | some n => return .number n

/-- The key that stands in brackets: a number if it is all digits. -/
def keyOf (key : Text) : Except TemplateFault FieldKey := do
  let index ← FieldStyle.numberOf (key.takeWhile FieldStyle.isDigit)
  if key.isEmpty then throw .emptyPart
  return if key.all FieldStyle.isDigit then .index index else .word key

/-- The part of a value that the rest of a field's name leads to. -/
def follow (v : FieldValue) : Text → Except TemplateFault FieldValue
  | [] => .ok v
  | .char '.' :: rest =>
    match rest.takeWhile (!startsPart ·) with
    | [] => .error .emptyPart
    | name => do
      let v ← v.part name
      follow v (rest.dropWhile (!startsPart ·))
  | .char '[' :: rest => do
    let v ← v.element (← keyOf (rest.takeWhile (!endsElement ·)))
    follow v ((rest.dropWhile (!endsElement ·)).drop 1)
  | _ => .error .strayAfterElement
termination_by text => text.length
decreasing_by
  · have := (List.dropWhile_suffix (l := rest) (!startsPart ·)).length_le
    simp only [List.length_cons]
    omega
  · have := (List.dropWhile_suffix (l := rest) (!endsElement ·)).length_le
    simp only [List.length_cons, List.length_drop]
    omega

/-- The value that a field's name stands for. -/
def valueOf (value? : String → Option Int) (name : Text) :
    Except TemplateFault FieldValue := do
  follow (← named value? (name.takeWhile (!startsPart ·))) (name.dropWhile (!startsPart ·))

/-- A piece rendered with the fields' values. The value is found and converted before the style
is looked at; `expand` fills the fields in the style. -/
def renderPart (value? : String → Option Int)
    (expand : Text → Except TemplateFault Text) :
    TemplatePart → Except TemplateFault (Thunk Text)
  | .text t => .ok (.mk fun _ => t)
  | .broken fault => .error fault
  | .field name conversion style => do
    let v ← valueOf value? name
    let v ← match conversion.filter fun (code : CodePoint) => code != '\x00' with
      | none => .ok v
      | some code => v.convert code
    v.write (← expand style)

def renderParts (value? : String → Option Int)
    (expand : Text → Except TemplateFault Text) :
    List TemplatePart → Except TemplateFault (Thunk Text)
  | [] => .ok (.mk fun _ => [])
  | part :: rest => do
    let front ← renderPart value? expand part
    let behind ← renderParts value? expand rest
    return .mk fun _ => front.get ++ behind.get

/-- A style without fields in it. -/
def plainStyle (style : Text) : Except TemplateFault Text :=
  if style.contains '\x7b' then .error .nestedTooDeep else .ok style

/-- A style with its fields filled in, whose own styles hold no fields. -/
def nestedStyle (value? : String → Option Int) (style : Text) :
    Except TemplateFault Text :=
  if style.contains '\x7b' then
    (renderParts value? plainStyle (parse style)).map Thunk.get
  else .ok style

/-- The template with its fields filled in. -/
def render (value? : String → Option Int) (template : Text) : Except TemplateFault Text :=
  (renderParts value? (nestedStyle value?) (parse template)).map Thunk.get

/-- What stands behind a field's name: the conversion and the style, where there are any. -/
def manner (conversion : Option CodePoint) (style : Text) : Text :=
  let style : Text := if style.isEmpty then [] else ':' :: style
  match conversion with
  | none => style
  | some code => '!' :: code :: style

/-- A piece as it is written in a template. -/
def source : TemplatePart → Text
  | .text t => t.flatMap fun (p : CodePoint) => if p == '\x7b' || p == '\x7d' then [p, p] else [p]
  | .field name conversion style =>
    "\x7b" ++ name ++ manner conversion style ++ "\x7d"
  | .broken _ => []

/-- The template that consists of the given pieces. -/
def ofParts (parts : List TemplatePart) : Text := parts.flatMap source

end Template

end Chip8
