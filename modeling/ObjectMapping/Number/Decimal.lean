import ObjectMapping.Number.Floating
import ObjectMapping.Text.Digit

/-!
# Decimal numbers

Multiples of powers of ten that keep the digits they are written with: zeros at
the end count as digits. A numeral is a number with an optional point and power
of ten, or one of a few words. The written form has no power of ten as long as
the point stands among the digits, or a few zeros in front of them.
-/

namespace ObjectMapping

/-- A decimal number. -/
inductive Decimal where
  /-- A multiple of a power of ten, below zero or not. -/
  | finite (isNegative : Bool) (coefficient : Nat) (exponent : Int)
  | infinite (isNegative : Bool)
  /-- What no number is, with the digits that tell why; it may call for attention. -/
  | undefined (isNegative isSignalling : Bool) (cause : List Char)
  deriving DecidableEq, Repr, Inhabited

namespace Decimal

/-- The whole number as a decimal number. -/
def ofInt (n : Int) : Decimal :=
  .finite (n < 0) n.natAbs 0

/-- The decimal number that a floating number is, exactly. -/
def ofFloating : Floating → Decimal
  | .undefined => .undefined false false []
  | .infinite isNegative => .infinite isNegative
  | .finite isNegative mantissa exponent =>
      let (numerator, denominator) := Floating.scaled mantissa 1 (-exponent)
      let divisor := Nat.gcd numerator denominator
      let places := Nat.log2 (denominator / divisor)
      .finite isNegative (numerator / divisor * Nat.pow 5 places) (-(places : Int))

/-- The digits and the power of ten that digits with an optional point write. -/
def readDigits? (chars : List Char) : Option (Nat × Int) :=
  let (whole, rest) := chars.span Char.isDigit
  let (fraction, rest) :=
    match rest with
    | '.' :: behind => behind.span Char.isDigit
    | rest => ([], rest)
  let exponent? := if rest.isEmpty then some 0 else Floating.readExponent? rest
  if whole.isEmpty && fraction.isEmpty then none
  else exponent?.map fun exponent =>
    (numberOfDigits (whole ++ fraction), exponent - fraction.length)

/-- The word for what no number is, once it is in small letters. -/
def undefinedWord : List Char := "nan".toList

/-- The decimal number without sign that characters write. -/
def readMagnitude? (isNegative : Bool) (chars : List Char) : Option Decimal :=
  let small := chars.map Char.toLower
  let (isSignalling, word) :=
    match small with
    | 's' :: word => (true, word)
    | word => (false, word)
  if small == "inf".toList || small == "infinity".toList then
    some (.infinite isNegative)
  else if undefinedWord.isPrefixOf word && (word.drop 3).all Char.isDigit then
    some (.undefined isNegative isSignalling ((word.drop 3).dropWhile (· == '0')))
  else
    (readDigits? chars).map fun found => .finite isNegative found.1 found.2

/-- The decimal number that a text writes, in digits of any script. Underscores
do not count. -/
def read? (text : String) : Option Decimal :=
  let chars := (Text.withPlainDigits text).toList
  let (isNegative, rest) := takeSign ((withoutBlanks chars).filter (· != '_'))
  readMagnitude? isNegative rest

/-- The power of ten behind digits. -/
def writtenExponent (exponent : Int) : List Char :=
  'E' :: (if exponent < 0 then '-' else '+') :: (toString exponent.natAbs).toList

/-- Digits with the point behind the first of them, as many as `point` tells. -/
def layOut (digits : List Char) (point : Int) : List Char :=
  if point ≤ 0 then
    "0.".toList ++ List.replicate (-point).toNat '0' ++ digits
  else if digits.length ≤ point.toNat then
    digits ++ List.replicate (point.toNat - digits.length) '0'
  else
    digits.take point.toNat ++ '.' :: digits.drop point.toNat

/-- The written form of a number without its sign. -/
def writtenMagnitude (coefficient : Nat) (exponent : Int) : List Char :=
  let digits := (toString coefficient).toList
  let point := exponent + digits.length
  if exponent ≤ 0 && -6 < point then layOut digits point
  else layOut digits 1 ++ (if point == 1 then [] else writtenExponent (point - 1))

/-- The sign that is written in front. -/
def sign (isNegative : Bool) : List Char :=
  if isNegative then ['-'] else []

/-- The written form of a number. -/
def written : Decimal → String
  | .finite isNegative coefficient exponent =>
      String.ofList (sign isNegative ++ writtenMagnitude coefficient exponent)
  | .infinite isNegative => String.ofList (sign isNegative ++ "Infinity".toList)
  | .undefined isNegative isSignalling cause =>
      let word := if isSignalling then "sNaN" else "NaN"
      String.ofList (sign isNegative ++ word.toList ++ cause)

/-- The whole number that is left without the fraction. -/
def truncated? : Decimal → Option Int
  | .finite isNegative coefficient exponent =>
      let (numerator, denominator) := Floating.decimalQuotient coefficient exponent
      some (withSign isNegative (numerator / denominator))
  | _ => none

/-- The whole number that a number is. -/
def toInt? (d : Decimal) : Option Int :=
  match d with
  | .finite _ coefficient exponent =>
      let (numerator, denominator) := Floating.decimalQuotient coefficient exponent
      if numerator % denominator == 0 then d.truncated? else none
  | _ => none

/-- The floating number that is nearest to a number. What calls for attention
has none. -/
def toFloating? : Decimal → Option Floating
  | .finite isNegative coefficient exponent =>
      some (Floating.ofDecimal isNegative coefficient exponent)
  | .infinite isNegative => some (.infinite isNegative)
  | .undefined _ isSignalling _ => if isSignalling then none else some .undefined

/-- The number is neither infinite nor undefined. -/
def isFinite : Decimal → Bool
  | .finite _ _ _ => true
  | _ => false

/-- The number is zero, whatever its sign. -/
def isZero : Decimal → Bool
  | .finite _ coefficient _ => coefficient == 0
  | _ => false

end Decimal

end ObjectMapping
