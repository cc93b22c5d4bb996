import ObjectMapping.Class.Attribute
import ObjectMapping.Class.Copying
import ObjectMapping.Number.Identifier
import ObjectMapping.TypeExpr.Printer

/-!
# The written form of a value

A value among others is written so that it could be read back: containers by
their elements, records and models by their fields, which are read for that.
What holds itself is marked where it comes up again.

Anything can be asked for its properties, also what is no type. A value that is
a type stands for it; any other value only has its written form.
-/

namespace ObjectMapping

namespace Text

/-- Bytes written between quotes, those beyond seven bits by their numbers. -/
def quotedBytes (digits : String) : String :=
  let bytes := bytesOfHex digits.toList
  let quote := preferredQuote bytes
  let byte (c : Char) : List Char := if c.toNat < 0x80 then quotedChar quote c else numericEscape c
  String.ofList ('b' :: quote :: bytes.flatMap byte ++ [quote])

/-- Texts with commas between them. -/
def listed (texts : List String) : String :=
  ", ".intercalate texts

/-- A name in front of something in parentheses. -/
def applied (name inside : String) : String :=
  name ++ "(" ++ inside ++ ")"

/-- Named texts as the arguments of a call. -/
def call (name : String) (arguments : List (String × String)) : String :=
  applied name (listed (arguments.map fun entry => entry.1 ++ "=" ++ entry.2))

/-- Texts between braces. -/
def braced (texts : List String) : String :=
  "\x7b" ++ listed texts ++ "\x7d"

/-- Texts as the elements of a tuple, of which a single one keeps its comma. -/
def tupled : List String → String
  | [item] => "(" ++ item ++ ",)"
  | items => "(" ++ listed items ++ ")"

/-- A set of texts under the name of its class; without elements it is a call. -/
def writtenSet (name : String) (items : List String) (isBare : Bool) : String :=
  if items.isEmpty then applied name ""
  else if isBare then braced items
  else applied name (braced items)

end Text

/-- Numbers without the zeros at their end, but at least the first few. -/
def withoutZeros (least : Nat) (numbers : List Int) : List Int :=
  numbers.take least ++ ((numbers.drop least).reverse.dropWhile (· == 0)).reverse

/-- A span of time by those of its parts that are not zero. -/
def writtenSpan (numbers : List Int) : String :=
  let parts := (["days", "seconds", "microseconds"].zip numbers).filter (·.2 != 0)
  if parts.isEmpty then Text.applied "datetime.timedelta" "0"
  else Text.call "datetime.timedelta" (parts.map fun part => (part.1, toString part.2))

/-- A value of a standard class by the written forms of its parts. -/
def StandardClass.writtenValue (c : StandardClass) (parts : List Value)
    (written : List String) : String :=
  let numbers := parts.filterMap (·.number?)
  let places (least : Nat) : String :=
    Text.listed ((withoutZeros least numbers).map toString)
  match c with
  | .frozenset => Text.writtenSet "frozenset" written false
  | .range =>
      Text.applied "range"
        (Text.listed (if numbers.getLast? == some 1 then written.take 2 else written))
  | .decimal => Text.applied "Decimal" (Text.listed written)
  | .timedelta => writtenSpan numbers
  | .date => Text.applied "datetime.date" (places 3)
  | .datetime => Text.applied "datetime.datetime" (places 5)
  | .uuid =>
      let written := Identifier.written (numbers.head?.getD 0).toNat
      Text.applied "UUID" ("'" ++ written ++ "'")
  | c => Text.applied c.className.qualname (Text.listed written)

/-- The mark for something that is being written already. -/
def repetitionMark : String := "..."

namespace ClassTable

variable (classes : ClassTable Code)

/-- What the written form of an instance follows. -/
inductive WrittenRule where
  | record (layout : RecordLayout)
  | slotted (layout : SlottedLayout)
  | model (layout : ModelLayout)

/-- What the written form of the instances of a class follows: the first class
of the line that settles it. -/
def writtenRule? (c : ClassId) : Option WrittenRule :=
  (classes.line c).findSome? fun ancestor =>
    match ancestor.record?, ancestor.slotted? with
    | some layout, _ => some (.record layout)
    | none, some layout => some (.slotted layout)
    | none, none =>
        if ancestor.name.id == .standard .modelBase then
          (classes.modelLayout? c).map .model
        else none

variable [PackageReading]

/-- Names with the written forms of what is read under them. -/
def writtenFields (v : Value) (write : Value → Run String) (names : List String) :
    Run (List (String × String)) :=
  names.mapM fun name => do
    return (name, ← write (← classes.readAttribute v name))

/-- Fields of a slotted class with their written forms. One that the constructor
does not accept may have no value. -/
def writtenSlots (v : Value) (write : Value → Run String) (fields : List SlottedField) :
    Run (List (String × String)) :=
  fields.mapM fun f => do
    let read : Run String := do write (← classes.readAttribute v f.name)
    let written ←
      if f.accepted then read
      else tryCatch read fun fault =>
        if fault.concernsAttribute then return "NOTHING" else throw fault
    return (f.name, written)

/-- The written form of an instance of a class. -/
def writtenInstance (address : Nat) (r : Instance) (write : Value → Run String) :
    Run String := do
  let name := (classes.info r.classId).name
  let v : Value := .object address
  match classes.writtenRule? r.classId with
  | some (.record layout) =>
      let names := (layout.fields.filter (·.kind == .stored)).map (·.name)
      return Text.call name.qualname (← classes.writtenFields v write names)
  | some (.slotted layout) =>
      return Text.call name.qualname (← classes.writtenSlots v write layout.fields)
  | some (.model layout) =>
      let stored := r.attributes.filter fun entry =>
        layout.fields.any fun f => f.name == entry.1
      let fields ← stored.mapM fun entry => do return (entry.1, ← write entry.2)
      let computed ← classes.writtenFields v write (Entries.keys layout.computed)
      return Text.call name.name (fields ++ computed)
  | none => return "<" ++ name.written ++ " object>"

/-- The written form of a value, to a depth, while the objects at some addresses
are being written. -/
def writtenTo : Nat → List Nat → Value → Run String
  | 0, _, _ => return repetitionMark
  | depth + 1, outer, v => do
      let all (items : List Value) (outer : List Nat) : Run (List String) :=
        items.mapM (writtenTo depth outer)
      match v with
      | .null => return Scalar.null.written
      | .bool value => return (Scalar.bool value).written
      | .int value _ => return (Scalar.int value).written
      | .float value _ => return value.written
      | .bytes digits _ => return Text.quotedBytes digits
      | .str value _ => return Text.quoted value
      | .tuple items _ => return Text.tupled (← all items outer)
      | .type t _ => return t.writtenAsValue
      | .standard c parts _ => return c.writtenValue parts (← all parts outer)
      | .member kind _ name => return "<" ++ kind.className.qualname ++ " " ++ name ++ ">"
      | .object address =>
          let inner := address :: outer
          let repeats := outer.contains address
          match ← Run.object? address with
          | some (.list items) =>
              if repeats then return "[" ++ repetitionMark ++ "]"
              return "[" ++ Text.listed (← all items inner) ++ "]"
          | some (.dict entries) =>
              if repeats then return Text.braced [repetitionMark]
              return Text.braced (← entries.mapM fun entry => do
                return (← writtenTo depth inner entry.1) ++ ": " ++
                  (← writtenTo depth inner entry.2))
          | some (.set items) =>
              return Text.writtenSet "set" (← all items inner) true
          | some (.record r) =>
              if repeats then return repetitionMark
              classes.writtenInstance address r (writtenTo depth inner)
          | none => return repetitionMark

/-- The written form of a value. -/
def written (v : Value) : Run String := do
  let classes ← classes.now
  classes.writtenTo (depthOf (← get).heap) [] v

/-- The type that a value stands for. -/
def standsFor (v : Value) : Run TypeExpr := do
  match v with
  | .type t _ => return t
  | .null => return .none
  | _ => return .other (← classes.written v)

end ClassTable

end ObjectMapping
