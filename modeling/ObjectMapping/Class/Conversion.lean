import ObjectMapping.Class.Arguments
import ObjectMapping.Class.Written
import ObjectMapping.Number.Calendar
import ObjectMapping.Number.Decimal

/-!
# Values of standard classes

What calling a standard class makes: without arguments an empty value, and from
another value the one that it converts to. A text or number that does not
convert is refused as a value, and anything else as a call.
-/

namespace ObjectMapping

/-- The hexadecimal digits of a byte. -/
def byteDigits (n : Nat) : List Char :=
  Text.hexDigits 2 n

/-- The hexadecimal digits of the bytes that encode a text. -/
def encodedText (s : String) : String :=
  String.ofList (s.toUTF8.toList.flatMap fun byte => byteDigits byte.toNat)

/-- The bytes that hexadecimal digits write. -/
def bytesOfDigits (digits : String) : List Nat :=
  (Text.bytesOfHex digits.toList).map (·.toNat)

/-- The text that bytes encode. -/
def decodedText? (digits : String) : Option String :=
  String.fromUTF8? ⟨((bytesOfDigits digits).map (·.toUInt8)).toArray⟩

/-- The digits of bytes that a text writes in pairs, with blanks between pairs. -/
def hexPairs? : List Char → Option (List Char)
  | [] => some []
  | c :: rest =>
      if isBlank c then hexPairs? rest
      else
        match rest with
        | c' :: rest' =>
            if Text.isHexDigit c && Text.isHexDigit c' then
              (hexPairs? rest').map fun others => c.toLower :: c'.toLower :: others
            else none
        | [] => none

/-- The numbers of a range. -/
def rangeItems (start stop step : Int) : List Int :=
  let count := if step == 0 then 0
    else if step > 0 then (stop - start + step - 1).fdiv step
    else (start - stop - step - 1).fdiv (-step)
  (List.range count.toNat).map fun (index : Nat) => start + step * index

/-- A list of values without those that equal an earlier one as a key. -/
def distinctValues (items : List Value) : List Value :=
  items.foldl (fun kept v => if kept.contains v then kept else kept ++ [v]) []

/-- A decimal number as a value, kept by its written form. -/
def ofDecimal (d : Decimal) (making : Making) : Value :=
  .standard .decimal [.text d.written] making

/-- The decimal number that a value is. -/
def Value.decimal? : Value → Option Decimal
  | .standard .decimal [.str s _] _ => Decimal.read? s
  | _ => none

/-- The parameters of a standard class that can be given by name. One without
name is only given by position. -/
def StandardClass.parameterNames : StandardClass → List String
  | .int => ["", "base"]
  | .str => ["object"]
  | .bytes => ["source"]
  | .decimal => ["value"]
  | _ => []

namespace ClassTable

variable (classes : ClassTable Code)

/-- The elements of a value, one after another. -/
def elements (v : Value) : Run (List Value) := do
  match v with
  | .str s _ => return s.toList.map fun c => .text (String.singleton c)
  | .bytes digits _ => return (bytesOfDigits digits).map fun (n : Nat) => .number n
  | .tuple items _ | .standard .frozenset items _ => return items
  | .standard .range parts _ =>
      match parts.filterMap (·.number?) with
      | [start, stop, step] => return (rangeItems start stop step).map .number
      | _ => throw .badCall
  | .object address =>
      match ← Run.object? address with
      | some (.list items) | some (.set items) => return items
      | some (.dict entries) => return Entries.keys entries
      | _ => throw .badCall
  | _ => throw .badCall

/-- The value counts as true. -/
def isTruthy (v : Value) : Run Bool := do
  match v with
  | .null => return false
  | .bool value => return value
  | .int n _ => return n != 0
  | .float x _ => return x.toInt? != some 0
  | .str s _ => return !s.isEmpty
  | .bytes digits _ => return !digits.isEmpty
  | .tuple items _ | .standard .frozenset items _ => return !items.isEmpty
  | .standard .range _ _ => return !(← elements v).isEmpty
  | .standard .timedelta parts _ => return !parts.all (·.agrees (.number 0))
  | .standard .decimal _ _ => return !v.decimal?.any Decimal.isZero
  | .object address =>
      match ← Run.object? address with
      | some (.list items) | some (.set items) => return !items.isEmpty
      | some (.dict entries) => return !entries.isEmpty
      | _ => return true
  | _ => return true

/-- The whole number that a floating number is without its fraction. -/
def truncated (x : Floating) : Run Value :=
  match x with
  | .undefined => throw .badValue
  | .infinite _ => throw .overflow
  | .finite isNegative mantissa exponent =>
      let (numerator, denominator) := Floating.scaled mantissa 1 (-exponent)
      Run.make (.int (withSign isNegative (numerator / denominator)))

/-- The value that a text writes, if it writes one. -/
def ofText (value? : Option (Making → Value)) : Run Value :=
  match value? with
  | some value => Run.make value
  | none => throw .badValue

/-- The text that bytes of one character each make up. -/
def plainText (digits : String) : String :=
  String.ofList (Text.bytesOfHex digits.toList)

/-- The whole number that a value converts to. -/
def toWholeNumber (v : Value) : Run Value :=
  match v with
  | .int _ _ => return v
  | .bool value => return .number (if value then 1 else 0)
  | .float x _ => truncated x
  | .str s _ => ofText ((ObjectMapping.wholeNumber? (Text.withPlainDigits s)).map Value.int)
  | .bytes digits _ => ofText ((ObjectMapping.wholeNumber? (plainText digits)).map Value.int)
  | .standard .uuid [.int n _] _ => Run.make (.int n)
  | .standard .decimal _ _ =>
      match v.decimal?, v.decimal?.bind Decimal.truncated? with
      | _, some n => Run.make (.int n)
      | some (.infinite _), none => throw .overflow
      | _, none => throw .badValue
  | _ => throw .badCall

/-- The greatest base of numerals. -/
def greatestBase : Int := 36

/-- The whole number that a text writes in a base. -/
def toWholeNumberInBase (v base : Value) : Run Value := do
  let some base := base.number? | throw .badCall
  if base < 0 || base == 1 || greatestBase < base then throw .badValue
  match v with
  | .str s _ =>
      ofText ((wholeNumberInBase? base.toNat (Text.withPlainDigits s)).map Value.int)
  | .bytes digits _ => ofText ((wholeNumberInBase? base.toNat (plainText digits)).map Value.int)
  | _ => throw .badCall

/-- The floating number that a whole number is nearest to. -/
def floatingOf (n : Int) : Run Value :=
  match Floating.ofInt n with
  | .infinite _ => throw .overflow
  | x => Run.make (.float x)

/-- The floating number that a value converts to. -/
def toFloating (v : Value) : Run Value :=
  match v with
  | .float _ _ => return v
  | .str s _ => ofText ((Floating.read? (Text.withPlainDigits s)).map Value.float)
  | .bytes digits _ => ofText ((Floating.read? (plainText digits)).map Value.float)
  | .standard .decimal _ _ =>
      ofText ((v.decimal?.bind Decimal.toFloating?).map Value.float)
  | v =>
      match v.number? with
      | some n => floatingOf n
      | none => throw .badCall

/-- The text of a value of a standard class, where it is not the written form. -/
def plainText? (c : StandardClass) (parts : List Value) : Option String :=
  let numbers := parts.filterMap (·.number?)
  match c, parts with
  | .decimal, [.str s _] => some s
  | .uuid, [.int n _] => some (Identifier.written n.toNat)
  | .date, _ | .datetime, _ => Calendar.writtenMoment numbers
  | .timedelta, _ => Calendar.writtenSpan numbers
  | _, _ => none

/-- The text that a value is shown as: a text is itself, a model shows its
fields alone, and all else its written form, unless its class has a form for
this use. -/
def toText [PackageReading] (v : Value) : Run Value := do
  match v with
  | .str _ _ => return v
  | .standard c parts _ =>
      match plainText? c parts with
      | some text => Run.make (.str text)
      | none => Run.make (.str (← classes.written v))
  | _ => return ← Run.make (.str (← classes.written v))

/-- The greatest number of bytes that a byte string can have. -/
def greatestSize : Int := 9223372036854775807

/-- The bytes that a value converts to. -/
def toBytes (v : Value) : Run Value := do
  match v with
  | .bytes _ _ => return v
  | .str _ _ => throw .badCall
  | v =>
      match v.number? with
      | some n =>
          if n < 0 then throw .badValue
          if greatestSize < n then throw .overflow
          Run.make (.bytes (String.ofList (List.replicate (2 * n.toNat) '0')))
      | none =>
          let items ← elements v
          let bytes ← items.mapM fun item =>
            match item.number? with
            | some n => if 0 ≤ n && n < 256 then return byteDigits n.toNat else throw .badValue
            | none => throw .badCall
          Run.make (.bytes (String.ofList bytes.flatten))

/-- Elements that can all serve as keys, each kept once. -/
def keysOf (items : List Value) : Run (List Value) := do
  items.forM classes.requireKey
  return distinctValues items

/-- A new dictionary from a value and from named values. -/
def toDictionary (source? : Option Value) (named : Entries String Value) : Run Value := do
  let entries : Entries Value Value ← match source? with
    | none => pure []
    | some (.object address) =>
        match ← Run.object? address with
        | some (.dict entries) => pure entries
        | _ => pairsOf (.object address)
    | some v => pairsOf v
  let named := named.map fun entry => (Value.text entry.1, entry.2)
  Run.allocate (.dict (Entries.merge entries named))
where
  /-- The entries that a list of pairs makes up. -/
  pairsOf (v : Value) : Run (Entries Value Value) := do
    let pairs ← (← elements v).mapM fun pair => do
      match ← elements pair with
      | [key, value] => do
          classes.requireKey key
          return (key, value)
      | _ => throw .badValue
    return Entries.ofList pairs

/-- Numbers as the parts of a value of a standard class. -/
def ofNumbers (c : StandardClass) (numbers : List Int) : Run Value :=
  Run.make (.standard c (numbers.map .number))

/-- The values by position and by name, in the order of the names; those that
are missing are zero. -/
def valuesFor (names : List String) (arguments : Arguments) : Run (List Value) :=
  classes.bindAll
    (names.map fun name => { name := name, default? := some (.shared (.number 0)) }) arguments

/-- The greatest number that a part of a date can be asked for. -/
def greatestPart : Int := 2147483647

/-- A value as a part of a date or a time. -/
def toPart (v : Value) : Run Int :=
  match v.number? with
  | some n => if greatestPart < n.natAbs then throw .overflow else return n
  | none => throw .badCall

/-- The arguments of a time that are no parts of it. -/
def zoneNames : List String := ["tzinfo", "fold"]

/-- Takes off the arguments that tell the zone of a time, of which there is
none, and which of two equal times is meant. -/
def withoutZone (arguments : Arguments) : Run Arguments := do
  if (Entries.get? arguments.named "tzinfo").any (!· matches .null) then throw .badCall
  let fold? : Option (Option Int) := (Entries.get? arguments.named "fold").map (·.number?)
  match fold? with
  | none | some (some 0) | some (some 1) =>
      return { arguments with
        named := arguments.named.filter fun entry => !zoneNames.contains entry.1 }
  | some (some _) => throw .badValue
  | some none => throw .badCall

/-- A date or a moment from its parts. -/
def toMoment (c : StandardClass) (arguments : Arguments) : Run Value := do
  let arguments ← if c == .datetime then withoutZone arguments else pure arguments
  discard (arguments.positional.mapM toPart)
  if arguments.positional.length + arguments.named.length < 3 then throw .badCall
  let numbers ← (← classes.valuesFor c.partNames arguments).mapM toPart
  if Calendar.isMoment (numbers ++ List.replicate (7 - numbers.length) 0) then
    ofNumbers c numbers
  else throw .badValue

/-- The sign, digits and power of ten of a decimal number. -/
def decimalOfParts? (items : List Value) : Option Decimal := do
  let [sign, .tuple digits _, exponent] := items | none
  let sign ← sign.number?
  let digits : List Int ← digits.mapM (·.number?)
  let exponent ← exponent.number?
  if (sign == 0 || sign == 1) && digits.all (fun d => 0 ≤ d && d ≤ 9) then
    let coefficient := digits.foldl (fun (n : Nat) d => 10 * n + d.toNat) 0
    some (.finite (sign == 1) coefficient exponent)
  else none

/-- A decimal number from a value. -/
def toDecimal (v : Value) : Run Value := do
  match v with
  | .standard .decimal _ _ => return v
  | .str s _ =>
      match Decimal.read? s with
      | some d => Run.make (ofDecimal d)
      | none => throw .badDecimal
  | .float x _ => Run.make (ofDecimal (Decimal.ofFloating x))
  | .tuple items _ => ofText ((decimalOfParts? items).map ofDecimal)
  | .object address =>
      match ← Run.object? address with
      | some (.list items) => ofText ((decimalOfParts? items).map ofDecimal)
      | _ => throw .badCall
  | v =>
      match v.number? with
      | some n => Run.make (ofDecimal (Decimal.ofInt n))
      | none => throw .badCall

/-- A range from one to three numbers. -/
def toRange (items : List Value) : Run Value :=
  let build (numbers : List Int) : Run Value := ofNumbers .range numbers
  match items.map (·.number?) with
  | [some stop] => build [0, stop, 1]
  | [some start, some stop] => build [start, stop, 1]
  | [some start, some stop, some step] =>
      if step == 0 then throw .badValue else build [start, stop, step]
  | _ => throw .badCall

/-- The first number that needs more bits than an identifier has. -/
def identifierBound : Int := Int.pow 2 128

/-- An identifier from its digits. -/
def toIdentifier (v : Value) : Run Value :=
  match v with
  | .str s _ =>
      match Identifier.parse? s with
      | some n => ofNumbers .uuid [n]
      | none => throw .badValue
  | .null | .bytes _ _ | .standard .date _ _ | .standard .datetime _ _ => throw .badCall
  | _ => throw (.noAttribute "replace")

/-- An identifier from its digits, its number or its bytes. -/
def toIdentifierOf (arguments : Arguments) : Run Value :=
  match arguments.positional, arguments.named with
  | [v], [] | [], [("hex", v)] => toIdentifier v
  | [], [("int", v)] =>
      match v.number? with
      | some n => if 0 ≤ n && n < identifierBound then ofNumbers .uuid [n] else throw .badValue
      | none => throw .badCall
  | [], [("bytes", .bytes digits _)] =>
      match Identifier.ofDigits? digits.toList with
      | some n => ofNumbers .uuid [n]
      | none => throw .badValue
  | _, _ => throw .badCall

/-- A number of units as a quotient. -/
def quotientOf (unit : Nat) (v : Value) : Run (Int × Nat) :=
  match v with
  | .float (.finite isNegative mantissa exponent) _ =>
      let (numerator, denominator) := Floating.scaled mantissa 1 (-exponent)
      return (withSign isNegative (numerator * unit), denominator)
  | .float .undefined _ => throw .badValue
  | .float (.infinite _) _ => throw .overflow
  | v =>
      match v.number? with
      | some n => return (n * unit, 1)
      | none => throw .badCall

/-- A span of time from numbers of units. -/
def toSpan (arguments : Arguments) : Run Value := do
  let values ← classes.valuesFor (Calendar.units.map (·.1)) arguments
  let quotients ← (Calendar.units.zip values).mapM fun entry => quotientOf entry.1.2 entry.2
  match Calendar.spanOf? (Calendar.nearestSum quotients) with
  | some parts => ofNumbers .timedelta parts
  | none => throw .overflow

/-- The value of a standard class that some arguments by position make. -/
def convert [PackageReading] (c : StandardClass) (items : List Value) : Run Value := do
  match c, items with
  | .noneType, [] => return .null
  | .object, [] | .mapped, [] | .property, [] =>
      Run.allocate (.record { classId := .standard c })
  | .bool, [] => return .bool false
  | .bool, [v] => return .bool (← isTruthy v)
  | .int, [] => return .number 0
  | .int, [v] => toWholeNumber v
  | .int, [v, base] => toWholeNumberInBase v base
  | .float, [] => Run.make (.float (.finite false 0 0))
  | .float, [v] => toFloating v
  | .str, [] => return .text ""
  | .str, [v] => classes.toText v
  | .bytes, [] => return .bytes "" .shared
  | .bytes, [v] => toBytes v
  | .list, [] => Run.allocate (.list [])
  | .list, [v] => Run.allocate (.list (← elements v))
  | .tuple, [] => return .tuple [] .shared
  | .tuple, [v] =>
      match v with
      | .tuple _ _ => return v
      | v => Run.make (.tuple (← elements v))
  | .set, [] => Run.allocate (.set [])
  | .set, [v] => Run.allocate (.set (← classes.keysOf (← elements v)))
  | .frozenset, [] => Run.make (.standard .frozenset [])
  | .frozenset, [v] => Run.make (.standard .frozenset (← classes.keysOf (← elements v)))
  | .type, [v] => return .type (classes.typeOf (← classes.classOf v)) .shared
  | .range, items => toRange items
  | .decimal, [] => Run.make (ofDecimal (Decimal.ofInt 0))
  | .decimal, [v] => toDecimal v
  | _, _ => throw .badCall

/-- The arguments by position, when those by name follow them in order. -/
def inOrder? (names : List String) (arguments : Arguments) : Option (List Value) :=
  let following := (names.drop arguments.positional.length).take arguments.named.length
  if following.length == arguments.named.length then
    (following.mapM (Entries.get? arguments.named ·)).map (arguments.positional ++ ·)
  else none

/-- Calls a standard class. -/
def callStandard [PackageReading] (c : StandardClass) (arguments : Arguments) : Run Value :=
  match c with
  | .timedelta => classes.toSpan arguments
  | .date | .datetime => classes.toMoment c arguments
  | .uuid => toIdentifierOf arguments
  | .dict =>
      match arguments.positional with
      | [] => classes.toDictionary none arguments.named
      | [v] => classes.toDictionary (some v) arguments.named
      | _ => throw .badCall
  | c =>
      match inOrder? c.parameterNames arguments with
      | some items => classes.convert c items
      | none => throw .badCall

end ClassTable

end ObjectMapping
