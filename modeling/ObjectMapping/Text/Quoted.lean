import ObjectMapping.Text.Hexadecimal
import ObjectMapping.Text.Printable

/-!
# Quoted text

The written form of a text inside a type or a list: between quotes, on one
line, with every character that has no printable form escaped by its number.
Single quotes are preferred; a text that holds a single quote and no double
quote is written between double quotes, so that nothing needs escaping.
-/

namespace ObjectMapping.Text

/-- The numeric escape of a character: two, four or eight digits, the fewest
that hold its code point. -/
def numericEscape (c : Char) : List Char :=
  if c.toNat < 0x100 then
    ['\\', 'x'] ++ hexDigits 2 c.toNat
  else if c.toNat < 0x10000 then
    ['\\', 'u'] ++ hexDigits 4 c.toNat
  else
    ['\\', 'U'] ++ hexDigits 8 c.toNat

/-- The written form of one character between the given quotes. -/
def quotedChar (quote c : Char) : List Char :=
  if c = quote || c = '\\' then ['\\', c]
  else if c = '\n' then ['\\', 'n']
  else if c = '\r' then ['\\', 'r']
  else if c = '\t' then ['\\', 't']
  else if isPrintable c then [c]
  else numericEscape c

/-- The quote that a text is written between. -/
def preferredQuote (text : List Char) : Char :=
  if text.contains '\'' && !text.contains '"' then '"' else '\''

/-- A text written between its preferred quotes. -/
def quoted (text : String) : String :=
  let chars := text.toList
  let quote := preferredQuote chars
  String.ofList (quote :: chars.flatMap (quotedChar quote) ++ [quote])

/-- A list of texts, each quoted, between square brackets. -/
def quotedList (texts : List String) : String :=
  "[" ++ ", ".intercalate (texts.map quoted) ++ "]"

end ObjectMapping.Text
