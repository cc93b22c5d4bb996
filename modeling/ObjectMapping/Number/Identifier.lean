import ObjectMapping.Number.Numeral
import ObjectMapping.Text.Digit
import ObjectMapping.Text.Hexadecimal

/-!
# Unique identifiers

Numbers of 128 bits, written in 32 hexadecimal digits in five groups. The bits
hold a time, a clock sequence and a node; the highest bits of the clock sequence
tell the variant of the layout, and in the usual variant the highest bits of the
time tell its version.
-/

namespace ObjectMapping.Identifier

/-- The number that some bits of a number hold, counted from a position on. -/
def bits (n position count : Nat) : Nat :=
  n / Nat.pow 2 position % Nat.pow 2 count

/-- The hexadecimal digits of an identifier. -/
def digits (n : Nat) : List Char :=
  Text.hexDigits 32 n

/-- The groups of digits of an identifier, with dashes between them. -/
def written (n : Nat) : String :=
  let group (start count : Nat) : String :=
    String.ofList (((digits n).drop start).take count)
  "-".intercalate [group 0 8, group 8 4, group 12 4, group 16 4, group 20 12]

/-- Marks that may stand in front of an identifier. -/
def marks : List String := ["urn:", "uuid:"]

/-- The braces that may stand around an identifier. -/
def isBrace (c : Char) : Bool :=
  c == '\x7b' || c == '\x7d'

/-- Characters without the braces around them. -/
def withoutBraces (chars : List Char) : List Char :=
  ((chars.dropWhile isBrace).reverse.dropWhile isBrace).reverse

/-- The identifier that a text writes, with or without marks, braces and dashes:
what is left of it is a numeral of 32 characters. -/
def parse? (text : String) : Option Nat :=
  let bare := marks.foldl (fun (found : String) mark => found.replace mark "") text
  let core := (withoutBraces bare.toList).filter (· != '-')
  if core.length == 32 then
    ((wholeNumberInBase? 16 (Text.withPlainDigits (String.ofList core))).filter (0 ≤ ·)).map
      Int.toNat
  else none

/-- The identifier of 32 digits. -/
def ofDigits? (chars : List Char) : Option Nat :=
  if chars.length == 32 && chars.all Text.isHexDigit then some (Text.numberOfHex chars) else none

/-- The identifier of five groups of digits. -/
def ofGroups? (chars : List Char) : Option Nat :=
  let groups := (String.ofList chars).splitOn "-"
  if groups.map (·.length) == [8, 4, 4, 4, 12] then ofDigits? (chars.filter (· != '-')) else none

/-- The identifier that a text writes in one of its four usual forms: digits
alone, or groups of digits, which may stand in braces or behind both marks. -/
def ofForm? (text : String) : Option Nat :=
  let mark := "urn:uuid:".toList
  match text.toList with
  | '\x7b' :: rest => if rest.getLast? == some '\x7d' then ofGroups? rest.dropLast else none
  | chars =>
      if mark.isPrefixOf chars then ofGroups? (chars.drop mark.length)
      else (ofDigits? chars).or (ofGroups? chars)

/-- The lowest bits of the time. -/
def lowTime (n : Nat) : Nat := bits n 96 32

/-- The middle bits of the time. -/
def middleTime (n : Nat) : Nat := bits n 80 16

/-- The highest bits of the time, with the version in front. -/
def highTime (n : Nat) : Nat := bits n 64 16

/-- The highest bits of the clock sequence, with the variant in front. -/
def highClock (n : Nat) : Nat := bits n 56 8

/-- The lowest bits of the clock sequence. -/
def lowClock (n : Nat) : Nat := bits n 48 8

/-- The node. -/
def node (n : Nat) : Nat := bits n 0 48

/-- The time. -/
def time (n : Nat) : Nat :=
  Nat.pow 2 48 * (highTime n % Nat.pow 2 12) + Nat.pow 2 32 * middleTime n + lowTime n

/-- The clock sequence. -/
def clock (n : Nat) : Nat :=
  Nat.pow 2 8 * (highClock n % Nat.pow 2 6) + lowClock n

/-- The variant of the usual layout. -/
def usualVariant : String := "specified in RFC 4122"

/-- The variant of the layout. -/
def variant (n : Nat) : String :=
  match bits n 61 3 with
  | 0 | 1 | 2 | 3 => "reserved for NCS compatibility"
  | 4 | 5 => usualVariant
  | 6 => "reserved for Microsoft compatibility"
  | _ => "reserved for future definition"

/-- The version, which only the usual variant has. -/
def version? (n : Nat) : Option Nat :=
  if variant n == usualVariant then some (bits n 76 4) else none

/-- All fields, in order. -/
def fields (n : Nat) : List Nat :=
  [lowTime n, middleTime n, highTime n, highClock n, lowClock n, node n]

/-- The digits with those of the three parts of the time from the lowest byte on. -/
def reversedDigits (n : Nat) : List Char :=
  let part (start count : Nat) : List Char :=
    let bytes := (List.range count).map fun index => ((digits n).drop (start + 2 * index)).take 2
    bytes.reverse.flatten
  part 0 4 ++ part 8 2 ++ part 12 2 ++ (digits n).drop 16

end ObjectMapping.Identifier
