import ActionFlow.Text.Printable

/-!
# Quoted text

Text between quotation marks, as messages show names and nested strings. Single marks are
used unless the text holds one and no double mark. The mark in use, the backslash and
unprintable characters are escaped, the latter by the shortest of three hexadecimal forms
that fits.
-/

namespace ActionFlow.Text

/-- The hexadecimal digits of a code, filled up with zeros to a width. -/
def hexPadded (width code : Nat) : List Char :=
  let digits := Nat.toDigits 16 code
  List.replicate (width - digits.length) '0' ++ digits

/-- The mark that quotes a text. -/
def quotationMark (text : List Char) : Char :=
  if text.contains '\'' && !text.contains '"' then '"' else '\''

/-- One character between quotation marks. -/
def quoteChar (mark c : Char) : List Char :=
  if c == mark || c == '\\' then ['\\', c]
  else if c == '\n' then ['\\', 'n']
  else if c == '\r' then ['\\', 'r']
  else if c == '\t' then ['\\', 't']
  else if isPrintable c then [c]
  else if c.toNat < 0x100 then '\\' :: 'x' :: hexPadded 2 c.toNat
  else if c.toNat < 0x10000 then '\\' :: 'u' :: hexPadded 4 c.toNat
  else '\\' :: 'U' :: hexPadded 8 c.toNat

/-- A text between quotation marks. -/
def quoteChars (text : List Char) : List Char :=
  let mark := quotationMark text
  mark :: (text.flatMap (quoteChar mark) ++ [mark])

/-- A text between quotation marks. -/
def quote (text : String) : String := String.ofList (quoteChars text.toList)

end ActionFlow.Text
