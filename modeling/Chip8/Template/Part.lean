/-
  Values of fields and their parts. A part is found under its name in the kind of the value or in
  a kind that this one comes from; a kind is asked itself before its own kind is, unless that
  keeps data under the name. Elements are found by their number or by their key.
-/
import Chip8.Template.Fault
import Chip8.Template.Member.Described
import Chip8.Template.Member.Holder
import Chip8.Template.Member.Kind
import Chip8.Template.Member.Number
import Chip8.Template.Member.Text

namespace Chip8

namespace FieldKind

/-- What a kind has under names of its own. -/
def members : FieldKind → List Member
  | number => Member.numberMembers
  | flag => Member.flagMembers
  | text => Member.textMembers
  | nothing => Member.nothingMembers
  | row => Member.rowMembers
  | kind => Member.kindMembers
  | object => Member.objectMembers
  | property => Member.propertyMembers
  | field => Member.fieldMembers
  | method => Member.methodMembers
  | operator => Member.operatorMembers
  | kindMethod => Member.kindMethodMembers
  | looseMethod => Member.looseMethodMembers
  | boundMethod => Member.boundMethodMembers
  | boundOperator => Member.boundOperatorMembers
  | table => Member.tableMembers
  | dictionary => Member.dictionaryMembers
  | indexed => Member.indexedMembers

/-- The member of a kind under a name of its own. -/
def own? (k : FieldKind) (name : String) : Option Member := k.members.find? (·.name == name)

/-- The member that a kind has under a name, its own or one of a kind it comes from, with the
kind that owns it. -/
def member? (k : FieldKind) (name : String) : Option (FieldKind × Member) :=
  k.lineage.findSome? fun owner => (owner.own? name).map fun m => (owner, m)

theorem name_of_own? {k : FieldKind} {name : String} {m : Member} (h : k.own? name = some m) :
    m.name = name := by
  simpa using List.find?_some h

end FieldKind

/-- What stands in brackets: a number, or any other text. -/
inductive FieldKey where
  | index (n : Nat)
  | word (text : Text)
deriving DecidableEq, Repr

inductive FieldValue where
  | number (n : Int)
  | flag (on : Bool)
  | text (t : Text)
  | nothing
  | kind (k : FieldKind)
  | row (kinds : List FieldKind)
  /-- A key in a row of its own. -/
  | keyRow (key : FieldKey)
  /-- A member taken out of the kind that owns it. -/
  | member (owner : FieldKind) (m : Member)
  /-- A method or an operator bound to a value. -/
  | bound (owner : FieldKind) (m : Member) (self : FieldValue)
  /-- The members that a kind has under names of its own. -/
  | table (k : FieldKind)
  /-- A dictionary with nothing in it. -/
  | dictionary
  | indexed (k : FieldKind) (key : FieldKey)
deriving DecidableEq, Repr

namespace FieldKey

/-- The key as it is shown between the brackets. -/
def shown : FieldKey → Text
  | index n => toString n
  | word t => t.quote

end FieldKey

namespace FieldValue

def kindOf : FieldValue → FieldKind
  | number _ => .number
  | flag _ => .flag
  | text _ => .text
  | nothing => .nothing
  | kind _ => .kind
  | row _ => .row
  | keyRow _ => .row
  | member _ m => m.sort.kind
  | bound _ m _ => if m.sort == .operator then .boundOperator else .boundMethod
  | table _ => .table
  | dictionary => .dictionary
  | indexed _ _ => .indexed

/-- The value that a key is itself. -/
def ofKey : FieldKey → FieldValue
  | .index n => number n
  | .word t => text t

def ofString (s : String) : FieldValue := text s

/-- A text, or the value for none. -/
def ofText? (s : Option String) : FieldValue := s.elim nothing ofString

/-- The kind whose name stands before the name of a method that is bound to the value. -/
def homeKind : FieldValue → FieldKind
  | kind k => k
  | v => v.kindOf

/-- The description of a kind. One that has a member for the descriptions of its values shows
that member. -/
def description (k : FieldKind) : FieldValue :=
  if k = .kind then
    ofString "type(object) -> the object's type\ntype(name, bases, dict, **kwds) -> a new type"
  else match k.own? "__doc__" with
    | some m => if m.sort.isData then member k m else ofText? m.text
    | none => nothing

/-- What a kind tells about itself. -/
def kindData (k : FieldKind) (name : String) : Except TemplateFault FieldValue :=
  match name with
  | "__name__" | "__qualname__" => .ok (ofString k.shortName)
  | "__module__" => .ok (ofString k.home)
  | "__doc__" => .ok (description k)
  | "__text_signature__" => .ok (ofText? k.signature)
  | "__mro__" => .ok (row k.lineage)
  | "__bases__" => .ok (row k.lineage.tail)
  | "__base__" => .ok (k.lineage.tail.head?.elim nothing kind)
  | "__dict__" => .ok (table k)
  | "__flags__" => .ok (number k.shape.flags)
  | "__basicsize__" => .ok (number k.shape.size)
  | "__itemsize__" => .ok (number k.shape.itemSize)
  | "__dictoffset__" => .ok (number k.shape.tableOffset)
  | "__weakrefoffset__" => .ok (number k.shape.referenceOffset)
  | "__abstractmethods__" => .error (.unsetPart name)
  | _ => .error (.unknownKindPart k name)

/-- What a number tells about itself: it is its own real part and its own numerator. -/
def numberData (n : Int) (name : String) : FieldValue :=
  match name with
  | "imag" => number 0
  | "denominator" => number 1
  | _ => number n

/-- What a member tells about itself, alone or bound to a value. A method that is bound to nothing
tells of no value, and its wrapper in the kind's table tells of the method. -/
def memberData (owner : FieldKind) (m : Member) (self : Option FieldValue) (name : String) :
    FieldValue :=
  match name with
  | "__name__" => ofString m.name
  | "__qualname__" =>
    let home := if m.sort == .operator then owner else self.elim owner homeKind
    ofString (home.shortName ++ "." ++ m.name)
  | "__doc__" => ofText? m.text
  | "__text_signature__" => ofText? m.signature
  | "__objclass__" => kind owner
  | "__self__" => if m.sort == .looseMethod then nothing else self.getD nothing
  | "__func__" | "__wrapped__" => bound owner m (kind owner)
  | "__isabstractmethod__" => flag false
  | "__dict__" => dictionary
  | _ => nothing

/-- What a kind with a key tells about itself. -/
def indexedData (k : FieldKind) (key : FieldKey) (name : String) : FieldValue :=
  match name with
  | "__origin__" => kind k
  | "__args__" => keyRow key
  | "__parameters__" => row []
  | "__unpacked__" => flag false
  | _ => nothing

/-- What a value has under the name of a property or a field of its kind. -/
def data (v : FieldValue) (name : String) : Except TemplateFault FieldValue :=
  match name, v with
  | "__class__", v => .ok (kind v.kindOf)
  | name, number n => .ok (numberData n name)
  | name, flag on => .ok (numberData (if on then 1 else 0) name)
  | name, kind k => kindData k name
  | name, member owner m => .ok (memberData owner m none name)
  | name, bound owner m self => .ok (memberData owner m (some self) name)
  | name, indexed k key => .ok (indexedData k key name)
  | _, _ => .ok nothing

/-- A member of a value's kind as a part of the value. -/
def partBy (v : FieldValue) (owner : FieldKind) (m : Member) : Except TemplateFault FieldValue :=
  match m.sort with
  | .property | .field => v.data m.name
  | .method | .operator => .ok (bound owner m v)
  | .kindMethod => .ok (bound owner m (kind v.kindOf))
  | .freeMethod | .looseMethod => .ok (bound owner m (kind owner))
  | .constant => .ok (ofText? m.text)

/-- A member of a kind as a part of the kind. -/
def kindPartBy (k owner : FieldKind) (m : Member) : FieldValue :=
  match m.sort with
  | .kindMethod => bound owner m (kind k)
  | .freeMethod | .looseMethod => bound owner m (kind owner)
  | .constant => ofText? m.text
  | _ => member owner m

/-- A named part of a kind. -/
def kindPart (k : FieldKind) (name : String) : Except TemplateFault FieldValue :=
  match FieldKind.kind.member? name, k.member? name with
  | some (owner, m), found =>
    if m.sort.isData then (kind k).data name
    else match found with
      | some (owner, m) => .ok (kindPartBy k owner m)
      | none => (kind k).partBy owner m
  | none, some (owner, m) => .ok (kindPartBy k owner m)
  | none, none => .error (.unknownKindPart k name)

/-- A part of a value by the name that its own kind has for it. -/
def ownPart (v : FieldValue) (name : String) : Except TemplateFault FieldValue :=
  match v.kindOf.member? name with
  | some (owner, m) => v.partBy owner m
  | none => .error (.unknownPart v.kindOf name)

/-- The parts that a kind with a key does not take from the kind. -/
def indexedParts : List String :=
  ["__class__", "__origin__", "__args__", "__unpacked__", "__parameters__",
   "__typing_unpacked_tuple_args__", "__mro_entries__", "__reduce_ex__", "__reduce__", "__copy__",
   "__deepcopy__"]

/-- A named part of a value. -/
def namedPart (v : FieldValue) (name : String) : Except TemplateFault FieldValue :=
  match v with
  | kind k => kindPart k name
  | indexed k _ => if indexedParts.contains name then v.ownPart name else kindPart k name
  | v => v.ownPart name

/-- The fault of a part that no value of the kind has. -/
def noPart (name : Text) : FieldValue → TemplateFault
  | kind k => .unknownKindPart k name
  | indexed k _ => .unknownKindPart k name
  | v => .unknownPart v.kindOf name

/-- The part of a value under a name. Names of parts are strings. -/
def part (v : FieldValue) (name : Text) : Except TemplateFault FieldValue :=
  match name.string? with
  | some name => v.namedPart name
  | none => .error (v.noPart name)

/-- A member in the table of its kind. A method that is bound to nothing is wrapped there. -/
def entry (k : FieldKind) (m : Member) : FieldValue :=
  match m.sort with
  | .freeMethod => bound k m (kind k)
  | .constant => ofText? m.text
  | _ => member k m

/-- The text of a member bound to a value of a kind. Where the value lies in memory is not
known. -/
def boundText (m : Member) (home : FieldKind) : String :=
  (if m.sort == .operator then "<method-wrapper '" ++ m.name ++ "'"
    else "<built-in method " ++ m.name) ++ " of " ++ home.name ++ " object at 0x0>"

/-- The text of a member that is taken out of its kind. -/
def memberText (owner : FieldKind) (m : Member) : String :=
  let described (sort : String) :=
    "<" ++ sort ++ " '" ++ m.name ++ "' of '" ++ owner.name ++ "' objects>"
  match m.sort with
  | .property => described "attribute"
  | .field => described "member"
  | .operator => described "slot wrapper"
  | .looseMethod => "<staticmethod(" ++ boundText m .kind ++ ")>"
  | _ => described "method"

def kindText (k : FieldKind) : String := "<class '" ++ k.name ++ "'>"

/-- Kinds between brackets; a single one is followed by a comma. -/
def rowText : List FieldKind → String
  | [k] => "(" ++ kindText k ++ ",)"
  | ks => "(" ++ String.intercalate ", " (ks.map kindText) ++ ")"

/-- The text of a member in the table of its kind. -/
def entryText (k : FieldKind) (m : Member) : Text :=
  match m.sort with
  | .freeMethod => boundText m .kind
  | .constant => m.text.elim "None" fun t => Text.quote t
  | _ => memberText k m

/-- The members of a kind between braces. -/
def tableText (k : FieldKind) : Text :=
  "\x7b" ++
    Text.joinWith ", " (k.members.map fun m => Text.quote m.name ++ ": " ++ entryText k m) ++
    "\x7d"

def indexedText (k : FieldKind) (key : FieldKey) : Text := k.name ++ "[" ++ key.shown ++ "]"

/-- The value as text that tells its kind: a text stands between quotation marks, and a table
behind the name of its kind. -/
def quoted : FieldValue → Text
  | number n => toString n
  | flag on => if on then "True" else "False"
  | text t => t.quote
  | nothing => "None"
  | kind k => kindText k
  | row ks => rowText ks
  | keyRow key => "(" ++ key.shown ++ ",)"
  | member owner m => memberText owner m
  | bound _ m self => boundText m self.kindOf
  | table k => "mappingproxy(" ++ tableText k ++ ")"
  | dictionary => "\x7b\x7d"
  | indexed k key => indexedText k key

/-- The value as plain text. -/
def shown : FieldValue → Text
  | text t => t
  | table k => tableText k
  | v => v.quoted

/-- The element of a value by its number or its key. -/
def element (v : FieldValue) (key : FieldKey) : Except TemplateFault FieldValue :=
  match v, key with
  | text t, .index n =>
    (t[n]?).elim (.error (.elementMissing .text)) fun p => .ok (text [p])
  | row ks, .index n => (ks[n]?).elim (.error (.elementMissing .row)) fun k => .ok (kind k)
  | keyRow held, .index n => if n = 0 then .ok (ofKey held) else .error (.elementMissing .row)
  | text _, .word _ => .error (.elementUnnumbered .text)
  | row _, .word _ => .error (.elementUnnumbered .row)
  | keyRow _, .word _ => .error (.elementUnnumbered .row)
  | table k, .word t =>
    (t.string?.bind k.own?).elim (.error (.keyMissing key.shown)) fun m => .ok (entry k m)
  | table _, .index _ => .error (.keyMissing key.shown)
  | dictionary, key => .error (.keyMissing key.shown)
  | kind k, key => if k.takesKey then .ok (indexed k key) else .error (.noKindElements k)
  | indexed k taken, _ => .error (.keyTaken (indexedText k taken))
  | v, _ => .error (.noElements v.kindOf)

/-- The value as text, by the code of a conversion: plain, with a text between quotation marks,
or so and in ASCII. -/
def convert (v : FieldValue) (code : CodePoint) : Except TemplateFault FieldValue :=
  match code with
  | .char 's' => .ok (text v.shown)
  | .char 'r' => .ok (text v.quoted)
  | .char 'a' => .ok (text v.quoted.asciiOnly)
  | code => .error (.unknownConversion code)

end FieldValue

end Chip8
