import Machine6502.Text.Digits
import Machine6502.Text.Printable

/-!
# Quoted text

A text in quotes, as it is shown in messages.  The quotes are single ones unless the text
holds a single quote and no double quote.  The backslash and the enclosing quote get a
backslash in front; line feed, carriage return and tabulator are shown as letters, and any
other character that is not printable as its code point, in the shortest of two, four or
eight hexadecimal digits that holds it.
-/

namespace Machine6502

namespace Text

/-- The quote that encloses a text. -/
def enclosingQuote (text : List Char) : Char :=
  if text.contains '\'' && !text.contains '"' then '"' else '\''

/-- The lower-case hexadecimal digits of a code point, in a fixed number of places. -/
def codeDigits (places code : Nat) : List Char :=
  ((Digits.ofNat .hexadecimal code).map Char.toLower).leftpad places '0'

/-- A character as it stands inside quotes. -/
def quotedChar (quote c : Char) : List Char :=
  if c = '\\' ∨ c = quote then ['\\', c]
  else if c = '\n' then ['\\', 'n']
  else if c = '\r' then ['\\', 'r']
  else if c = '\t' then ['\\', 't']
  else if isPrintable c then [c]
  else if c.toNat < 0x100 then '\\' :: 'x' :: codeDigits 2 c.toNat
  else if c.toNat < 0x10000 then '\\' :: 'u' :: codeDigits 4 c.toNat
  else '\\' :: 'U' :: codeDigits 8 c.toNat

/-- The text in quotes. -/
def quoted (text : String) : String :=
  let quote := enclosingQuote text.toList
  String.ofList (quote :: text.toList.flatMap (quotedChar quote) ++ [quote])

end Text

end Machine6502
