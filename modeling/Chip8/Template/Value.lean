/-
  How values of fields are written: as a number in some base, with decimals or as a character, or
  as text, in each case aligned in a width. Other values take no style. The text is made only once
  nothing else has failed, since a width can make it long.
-/
import Chip8.Binary64.Rounded
import Chip8.Template.Part
import Chip8.Template.Style

namespace Chip8

namespace FieldStyle

/-- A front and a body, filled up to the width. -/
def aligned (s : FieldStyle) (front body : Text) : Text :=
  let gap := s.width - (front.length + body.length)
  let filled (n : Nat) := List.replicate n s.fill
  match s.align with
  | .left => front ++ body ++ filled gap
  | .right => filled gap ++ front ++ body
  | .center => filled (gap / 2) ++ front ++ body ++ filled (gap - gap / 2)
  | .afterSign => front ++ filled gap ++ body

/-- A front and the text behind it, filled up to a width that a host must be able to address. -/
def fit (s : FieldStyle) (front : Text) (body : Unit → Text) :
    Except TemplateFault (Thunk Text) :=
  if greatestLength < s.width then .error .tooWide
  else .ok (.mk fun _ => s.aligned front (body ()))

/-- Digits in groups, counted from the right. -/
def grouped (size : Nat) (mark : Char) (digits : List Char) : List Char :=
  let count := digits.length
  digits.zipIdx.flatMap fun (c, k) =>
    if k ≠ 0 ∧ (count - k) % size = 0 then [mark, c] else [c]

/-- How many digits in groups it takes to fill a width: the fewest whose groups and marks are at
least that wide. -/
def digitsToFill (size width : Nat) : Nat :=
  width - width / (size + 1) + (if width % (size + 1) = 0 then 1 else 0)

/-- Digits with grouping marks. If zeros fill up between the sign and the digits, they are
grouped with the digits. -/
def groupedBody (s : FieldStyle) (size : Nat) (room : Nat) (digits : List Char) : List Char :=
  match s.grouping with
  | none => digits
  | some mark =>
    if digits.isEmpty then digits
    else
      let zeros :=
        if s.fill == '0' && s.align == .afterSign then digitsToFill size room - digits.length
        else 0
      grouped size mark.mark (List.replicate zeros '0' ++ digits)

/-- The text of a number behind its sign and base mark: its leading digits and what follows
them. -/
def numberBody (s : FieldStyle) (size : Nat) (front : Text) (digits : List Char) (rest : Text) :
    Text :=
  Text.ofChars (s.groupedBody size (s.width - (front.length + rest.length)) digits) ++ rest

/-- The sign of a number. -/
def signOf (s : FieldStyle) (negative : Bool) : Text :=
  if negative then ['-']
  else match s.sign with
    | some (.char '+') => ['+']
    | some (.char ' ') => [' ']
    | _ => []

def writeInteger (s : FieldStyle) (base : Nat) (upper : Bool) (n : Int) :
    Except TemplateFault (Thunk Text) :=
  if s.precision.isSome then .error (.optionUnfit .precision .integer)
  else if s.positiveZero then .error (.optionUnfit .positiveZero .integer)
  else
    let numeral : NumeralStyle := { base, upper, marked := s.marked }
    let front := s.signOf (decide (n < 0)) ++ Text.ofChars numeral.mark
    s.fit front fun _ =>
      s.numberBody (if base = 10 then 3 else 4) front (numeral.digits n.natAbs) []

def writeCharacter (s : FieldStyle) (n : Int) : Except TemplateFault (Thunk Text) :=
  if s.precision.isSome then .error (.optionUnfit .precision .integer)
  else if s.positiveZero then .error (.optionUnfit .positiveZero .integer)
  else if s.sign.isSome then .error (.optionUnfit .sign .character)
  else if s.marked then .error (.optionUnfit .mark .character)
  else if n < 0 ∨ 0x110000 ≤ n then .error .characterCode
  else s.fit [] fun _ => s.numberBody 3 [] [] [CodePoint.ofCode n.toNat]

/-- A number with decimals, six of them unless the precision says otherwise, and a text behind
it. -/
def writeReal (s : FieldStyle) (form : DecimalForm) (upper : Bool) (x : Binary64)
    (behind : List Char) : Except TemplateFault (Thunk Text) :=
  let style : DecimalStyle :=
    { form, digits := form.digits s.precision, marked := s.marked, upper }
  if greatestShortCount < style.digits then .error .precisionTooLarge
  else
    let front := s.signOf x.isNegative
    s.fit front fun _ =>
      let text := style.write x
      s.numberBody 3 front (text.takeWhile Char.isDigit)
        (Text.ofChars (text.dropWhile Char.isDigit ++ behind))

/-- A number of the given kind in a style. -/
def writeNumber (s : FieldStyle) (k : FieldKind) (n : Int) :
    Except TemplateFault (Thunk Text) :=
  match s.code.getD 'd' with
  | .char 'd' | .char 'n' => s.writeInteger 10 false n
  | .char 'x' => s.writeInteger 16 false n
  | .char 'X' => s.writeInteger 16 true n
  | .char 'b' => s.writeInteger 2 false n
  | .char 'o' => s.writeInteger 8 false n
  | .char 'c' => s.writeCharacter n
  | .char 'e' => s.writeReal .scientific false (Binary64.ofInt n) []
  | .char 'E' => s.writeReal .scientific true (Binary64.ofInt n) []
  | .char 'f' => s.writeReal .fixed false (Binary64.ofInt n) []
  | .char 'F' => s.writeReal .fixed true (Binary64.ofInt n) []
  | .char 'g' => s.writeReal .general false (Binary64.ofInt n) []
  | .char 'G' => s.writeReal .general true (Binary64.ofInt n) []
  | .char '%' =>
    s.writeReal .fixed false (Binary64.mul (Binary64.ofInt n) (Binary64.ofInt 100)) ['%']
  | code => .error (.unknownCode code k)

/-- Text in a style, cut to the precision. -/
def writeText (s : FieldStyle) (t : Text) : Except TemplateFault (Thunk Text) :=
  match s.code.filter fun (code : CodePoint) => code != 's', s.sign with
  | some code, _ => .error (.unknownCode code .text)
  | none, some (.char ' ') => .error (.optionUnfit .blankSign .text)
  | none, some _ => .error (.optionUnfit .sign .text)
  | none, none =>
    if s.positiveZero then .error (.optionUnfit .positiveZero .text)
    else if s.marked then .error (.optionUnfit .mark .text)
    else if s.align == .afterSign then .error (.optionUnfit .signAlignment .text)
    else s.fit [] fun _ => t.take (s.precision.getD t.length)

end FieldStyle

/-- A value in a style. -/
def FieldValue.write (v : FieldValue) (style : Text) : Except TemplateFault (Thunk Text) :=
  if style.isEmpty then .ok (.mk fun _ => v.shown)
  else match v with
    | .number n => do (← FieldStyle.ofText .number style).writeNumber .number n
    | .flag on => do (← FieldStyle.ofText .flag style).writeNumber .flag (if on then 1 else 0)
    | .text t => do (← FieldStyle.ofText .text style).writeText t
    | v => .error (.styleUnfit v.kindOf)

end Chip8
