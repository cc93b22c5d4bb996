/-!
# Numerals

How whole numbers are read from texts. Blanks around a numeral do not count, a
sign may stand in front, and single underscores may separate the digits.
-/

namespace ObjectMapping

/-- The characters that may surround a numeral. -/
def isBlank (c : Char) : Bool :=
  c.isWhitespace || [0x0b, 0x0c, 0x1c, 0x1d, 0x1e, 0x1f, 0x85, 0xa0, 0x1680, 0x2028, 0x2029,
    0x202f, 0x205f, 0x3000].contains c.toNat || (0x2000 ≤ c.toNat && c.toNat ≤ 0x200a)

/-- A text without the blanks around it. -/
def withoutBlanks (chars : List Char) : List Char :=
  ((chars.dropWhile isBlank).reverse.dropWhile isBlank).reverse

/-- The number that some digits write. -/
def numberOfDigits (digits : List Char) : Nat :=
  digits.foldl (fun n c => 10 * n + (c.toNat - '0'.toNat)) 0

/-- No underscore stands beside another, and none at an end. -/
def separatesWell : List Char → Bool
  | [] => false
  | ['_'] => false
  | '_' :: '_' :: _ => false
  | [_] => true
  | _ :: rest => separatesWell rest

/-- The digits of a numeral without the underscores that separate them. -/
def plainDigits? (chars : List Char) : Option (List Char) :=
  if chars.head? != some '_' && separatesWell chars && chars.all (fun c => c.isDigit || c == '_')
  then some (chars.filter (· != '_'))
  else none

/-- Takes the sign off a text: whether the rest counts below zero, and the rest. -/
def takeSign : List Char → Bool × List Char
  | '-' :: rest => (true, rest)
  | '+' :: rest => (false, rest)
  | chars => (false, chars)

/-- A number or its opposite. -/
def withSign (isNegative : Bool) (n : Nat) : Int :=
  if isNegative then -n else n

/-- The whole number that a text writes. -/
def wholeNumber? (text : String) : Option Int :=
  let (isNegative, rest) := takeSign (withoutBlanks text.toList)
  (plainDigits? rest).map fun digits => withSign isNegative (numberOfDigits digits)

/-- The whole number that a text writes, also with zeros behind a point. -/
def wholeNumberWithPoint? (text : String) : Option Int :=
  let chars := withoutBlanks text.toList
  let whole := chars.takeWhile (· != '.')
  let behind := (chars.dropWhile (· != '.')).drop 1
  if behind.all (· == '0') then wholeNumber? (String.ofList whole) else none

/-- The number that a digit or a letter counts as in a numeral of a large base. -/
def digitValue? (c : Char) : Option Nat :=
  let letter := c.toLower
  if c.isDigit then some (c.toNat - '0'.toNat)
  else if 'a' ≤ letter && letter ≤ 'z' then some (10 + (letter.toNat - 'a'.toNat))
  else none

/-- The letter that stands behind a zero in front of the numerals of a base. -/
def baseLetter? : Nat → Option Char
  | 2 => some 'b'
  | 8 => some 'o'
  | 16 => some 'x'
  | _ => none

/-- The bases that a numeral can tell itself. -/
def tellingBases : List Nat := [2, 8, 16]

/-- The digits behind the letter of a base, which an underscore may follow. -/
def behindLetter? (base : Nat) (chars : List Char) : Option (List Char) :=
  match chars with
  | '0' :: letter :: rest =>
      if baseLetter? base == some letter.toLower then
        some (if rest.head? == some '_' then rest.drop 1 else rest)
      else none
  | _ => none

/-- The number that digits of a base write, where single underscores may
separate them. -/
def numberInBase? (base : Nat) (chars : List Char) : Option Nat := do
  if chars.head? == some '_' || !separatesWell chars then none
  let digits ← (chars.filter (· != '_')).mapM digitValue?
  if digits.all (· < base) then some (digits.foldl (fun n d => base * n + d) 0) else none

/-- The number that a text without sign writes in a base. The base zero leaves
it to the text to tell the base; then nothing but zeros may start with a zero. -/
def magnitudeInBase? (base : Nat) (chars : List Char) : Option Nat :=
  if base == 0 then
    let told? := tellingBases.findSome? fun b =>
      (behindLetter? b chars).map fun rest => numberInBase? b rest
    match told? with
    | some found => found
    | none =>
        (numberInBase? 10 chars).filter fun n => n == 0 || chars.head? != some '0'
  else
    numberInBase? base ((behindLetter? base chars).getD chars)

/-- The whole number that a text writes in a base. -/
def wholeNumberInBase? (base : Nat) (text : String) : Option Int :=
  let (isNegative, rest) := takeSign (withoutBlanks text.toList)
  (magnitudeInBase? base rest).map (withSign isNegative)

end ObjectMapping
