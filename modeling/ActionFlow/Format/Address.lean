import ActionFlow.Text.Numeral

/-!
# Account addresses

An account address is `0x` and forty hexadecimal digits, written in either case. One line
break may end the text.
-/

namespace ActionFlow.Format

/-- A text without the line break at its end, if it has one. -/
def dropFinalBreak (text : List Char) : List Char :=
  match text.getLast? with
  | some '\n' => text.dropLast
  | _ => text

/-- Whether a text is an account address and nothing else. -/
def isPlainAddress : List Char → Bool
  | '0' :: 'x' :: digits => digits.length == 40 && digits.all Text.isHexDigit
  | _ => false

/-- Whether a text is an account address, perhaps with a line break after it. -/
def isAddress (text : String) : Bool := isPlainAddress (dropFinalBreak text.toList)

end ActionFlow.Format
