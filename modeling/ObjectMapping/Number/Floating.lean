import ObjectMapping.Number.Numeral

/-!
# Floating numbers

Numbers of 53 significant binary digits. A decimal numeral becomes the nearest
such number, and of two that are equally near the one whose last digit is even.
A number is written with the fewest decimal digits that read back as itself,
and of several such numerals the nearest one.
-/

namespace ObjectMapping

/-- A floating number. -/
inductive Floating where
  /-- A multiple of a power of two, below zero or not. -/
  | finite (isNegative : Bool) (mantissa : Nat) (exponent : Int)
  | infinite (isNegative : Bool)
  /-- What no number is. -/
  | undefined
  deriving DecidableEq, Repr, Inhabited

namespace Floating

/-- The least exponent of a floating number. -/
def leastExponent : Int := -1074

/-- The greatest exponent of a floating number. -/
def greatestExponent : Int := 971

/-- The first number that needs more than 53 binary digits. -/
def mantissaBound : Nat := Nat.pow 2 53

/-- A quotient rounded to the nearest whole number, a tie to the even one. -/
def nearest (numerator denominator : Nat) : Nat :=
  let quotient := numerator / denominator
  let twice := 2 * (numerator % denominator)
  if twice < denominator || (twice == denominator && quotient % 2 == 0) then quotient
  else quotient + 1

/-- A quotient divided by a power of two, as a quotient. -/
def scaled (numerator denominator : Nat) (exponent : Int) : Nat × Nat :=
  if exponent < 0 then (numerator * Nat.pow 2 (-exponent).toNat, denominator)
  else (numerator, denominator * Nat.pow 2 exponent.toNat)

/-- The exponent that leaves 53 binary digits before the point of a quotient. -/
def exponentOf (numerator denominator : Nat) : Int :=
  let estimate : Int := (Nat.log2 numerator : Int) - Nat.log2 denominator - 53
  let (n, d) := scaled numerator denominator estimate
  max leastExponent (if n / d < mantissaBound then estimate else estimate + 1)

/-- The floating number that is nearest to a quotient. -/
def ofQuotient (isNegative : Bool) (numerator denominator : Nat) : Floating :=
  if numerator == 0 then .finite isNegative 0 0
  else
    let exponent := exponentOf numerator denominator
    let (n, d) := scaled numerator denominator exponent
    let mantissa := nearest n d
    let (mantissa, exponent) :=
      if mantissa == mantissaBound then (mantissa / 2, exponent + 1) else (mantissa, exponent)
    if greatestExponent < exponent then .infinite isNegative
    else if mantissa == 0 then .finite isNegative 0 0
    else .finite isNegative mantissa exponent

/-- A number of decimal digits times a power of ten, as a quotient. -/
def decimalQuotient (digits : Nat) (exponent : Int) : Nat × Nat :=
  if exponent < 0 then (digits, Nat.pow 10 (-exponent).toNat)
  else (digits * Nat.pow 10 exponent.toNat, 1)

/-- The floating number that is nearest to a decimal number. Powers of ten far
beyond the range are cut off, where they do not decide. -/
def ofDecimal (isNegative : Bool) (digits : Nat) (exponent : Int) : Floating :=
  let places : Int := (Nat.toDigits 10 digits).length
  if digits == 0 || exponent + places < -400 then .finite isNegative 0 0
  else if 400 < exponent + places then .infinite isNegative
  else
    let (numerator, denominator) := decimalQuotient digits exponent
    ofQuotient isNegative numerator denominator

/-- The floating number that is nearest to a whole number. -/
def ofInt (n : Int) : Floating :=
  ofDecimal (n < 0) n.natAbs 0

/-- The whole number that a floating number is. -/
def toInt? : Floating → Option Int
  | .finite isNegative mantissa exponent =>
      if 0 ≤ exponent then some (withSign isNegative (mantissa * Nat.pow 2 exponent.toNat))
      else
        let denominator := Nat.pow 2 (-exponent).toNat
        if mantissa % denominator == 0 then some (withSign isNegative (mantissa / denominator))
        else none
  | _ => none

/-- Equality of numbers: both zeros are one number, and what no number is equals
nothing. -/
def agrees : Floating → Floating → Bool
  | .undefined, _ => false
  | .finite _ 0 _, .finite _ 0 _ => true
  | x, y => x == y

/-! ## Reading -/

/-- The digits before the first character that is neither a digit nor an
underscore, and the rest. -/
def spanDigits (chars : List Char) : List Char × List Char :=
  let isPart (c : Char) : Bool := c.isDigit || c == '_'
  (chars.takeWhile isPart, chars.dropWhile isPart)

/-- The digits of a part of a numeral that may be missing. -/
def optionalDigits? (chars : List Char) : Option (List Char) :=
  if chars.isEmpty then some [] else plainDigits? chars

/-- The power of ten at the end of a numeral. -/
def readExponent? : List Char → Option Int
  | [] => some 0
  | mark :: rest =>
      if mark == 'e' || mark == 'E' then
        let (isNegative, digits) := takeSign rest
        (plainDigits? digits).map fun digits => withSign isNegative (numberOfDigits digits)
      else none

/-- The floating number that digits with an optional point and exponent write. -/
def readMagnitude? (isNegative : Bool) (chars : List Char) : Option Floating := do
  let (whole, rest) := spanDigits chars
  let (behind, rest) :=
    match rest with
    | '.' :: rest => spanDigits rest
    | rest => ([], rest)
  let whole ← optionalDigits? whole
  let behind ← optionalDigits? behind
  let exponent ← readExponent? rest
  if whole.isEmpty && behind.isEmpty then none
  else
    some (ofDecimal isNegative (numberOfDigits (whole ++ behind)) (exponent - behind.length))

/-- The floating number that a text writes. -/
def read? (text : String) : Option Floating :=
  let (isNegative, rest) := takeSign (withoutBlanks text.toList)
  match String.ofList (rest.map Char.toLower) with
  | "inf" | "infinity" => some (.infinite isNegative)
  | "nan" => some .undefined
  | _ => readMagnitude? isNegative rest

/-! ## Writing -/

/-- The number of decimal places before the point of a quotient, negative when
zeros follow the point. -/
def decimalPlaces (numerator denominator : Nat) : Int :=
  if denominator ≤ numerator then (Nat.toDigits 10 (numerator / denominator)).length
  else
    let inverse := (denominator + numerator - 1) / numerator
    let places : Int := (Nat.toDigits 10 inverse).length
    if inverse == Nat.pow 10 (places.toNat - 1) then 2 - places else 1 - places

/-- The decimal numbers of some digits around a quotient that read back as the
given number, the nearer one first. -/
def candidate? (mantissa : Nat) (exponent : Int) (numerator denominator : Nat) (places : Int)
    (count : Nat) : Option (Nat × Int) :=
  let power : Int := places - count
  let (n, d) :=
    if power < 0 then (numerator * Nat.pow 10 (-power).toNat, denominator)
    else (numerator, denominator * Nat.pow 10 power.toNat)
  let low := n / d
  let near := nearest n d
  let far := if near == low then low + 1 else low
  let readsBack (digits : Nat) : Bool :=
    ofDecimal false digits power == .finite false mantissa exponent
  if readsBack near then some (near, power)
  else if readsBack far then some (far, power)
  else none

/-- The fewest digits, and their power of ten, that read back as a number. -/
def shortest (mantissa : Nat) (exponent : Int) : Nat × Int :=
  let (numerator, denominator) := scaled mantissa 1 (-exponent)
  let places := decimalPlaces numerator denominator
  let counts := (List.range 17).map (· + 1)
  match counts.findSome? (candidate? mantissa exponent numerator denominator places) with
  | some found => found
  | none => (0, 0)

/-- Zeros. -/
def zeros (count : Int) : List Char :=
  List.replicate count.toNat '0'

/-- The exponent as it is written, of two digits at least. -/
def writtenExponent (exponent : Int) : List Char :=
  let digits := Nat.toDigits 10 exponent.natAbs
  'e' :: (if exponent < 0 then '-' else '+') ::
    (if digits.length < 2 then '0' :: digits else digits)

/-- Digits with the point behind some of them. From 16 digits before the point
on, and from 4 zeros behind it on, an exponent takes the place of the zeros. -/
def layOut (digits : List Char) (point : Int) : List Char :=
  let count : Int := digits.length
  if -4 < point && point ≤ 0 then '0' :: '.' :: (zeros (-point) ++ digits)
  else if 0 < point && point ≤ 16 then
    if count ≤ point then digits ++ zeros (point - count) ++ ['.', '0']
    else digits.take point.toNat ++ '.' :: digits.drop point.toNat
  else
    match digits with
    | [digit] => digit :: writtenExponent (point - 1)
    | first :: rest => first :: '.' :: rest ++ writtenExponent (point - 1)
    | [] => []

/-- Digits without the zeros at their end, which move into the power of ten. -/
def withoutTrailingZeros (digits : List Char) : List Char :=
  (digits.reverse.dropWhile (· == '0')).reverse

/-- The written form of a number. -/
def written : Floating → String
  | .undefined => "nan"
  | .infinite isNegative => if isNegative then "-inf" else "inf"
  | .finite isNegative mantissa exponent =>
      let magnitude :=
        if mantissa == 0 then ['0', '.', '0']
        else
          let (digits, power) := shortest mantissa exponent
          let chars := Nat.toDigits 10 digits
          layOut (withoutTrailingZeros chars) (power + chars.length)
      String.ofList (if isNegative then '-' :: magnitude else magnitude)

end Floating

end ObjectMapping
