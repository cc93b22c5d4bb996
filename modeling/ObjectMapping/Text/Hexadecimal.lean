/-!
# Hexadecimal digits

Numbers and bytes by their hexadecimal digits, two for each byte. Digits are
written in lower case and read in either case.
-/

namespace ObjectMapping.Text

/-- The last `width` hexadecimal digits of a number, in lower case. -/
def hexDigits : Nat → Nat → List Char
  | 0, _ => []
  | width + 1, n => hexDigits width (n / 16) ++ [Nat.digitChar (n % 16)]

/-- The character is a hexadecimal digit. -/
def isHexDigit (c : Char) : Bool :=
  c.isDigit || ('a' ≤ c.toLower && c.toLower ≤ 'f')

/-- The number that a hexadecimal digit stands for. -/
def hexValue (c : Char) : Nat :=
  if c.isDigit then c.toNat - '0'.toNat else 10 + (c.toLower.toNat - 'a'.toNat)

/-- The number that hexadecimal digits write. -/
def numberOfHex (digits : List Char) : Nat :=
  digits.foldl (fun n c => 16 * n + hexValue c) 0

/-- The characters whose numbers are the bytes that hexadecimal digits write. -/
def bytesOfHex : List Char → List Char
  | high :: low :: rest => Char.ofNat (16 * hexValue high + hexValue low) :: bytesOfHex rest
  | _ => []

end ObjectMapping.Text
