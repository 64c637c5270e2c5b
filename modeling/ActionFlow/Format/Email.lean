import ActionFlow.Format.Address
import ActionFlow.Text.Word

/-!
# Email addresses

An email address is a local part of word characters, dots and the signs plus and minus,
an at sign, and a domain of at least two labels divided by dots. Labels are made of word
characters and minus signs, and the last one has two characters or more. One line break
may end the text.
-/

namespace ActionFlow.Format

/-- The pieces of a text between the places where a character stands. -/
def splitAtChar (divider : Char) : List Char → List (List Char)
  | [] => [[]]
  | c :: rest =>
    if c = divider then [] :: splitAtChar divider rest
    else
      match splitAtChar divider rest with
      | [] => [[c]]
      | first :: others => (c :: first) :: others

/-- Whether a character may stand before the at sign. -/
def isLocalChar (c : Char) : Bool := Text.isWord c || c == '.' || c == '+' || c == '-'

/-- Whether a character may stand in a label of the domain. -/
def isLabelChar (c : Char) : Bool := Text.isWord c || c == '-'

/-- Whether a text is a label. -/
def isLabel (label : List Char) : Bool := !label.isEmpty && label.all isLabelChar

/-- Whether a text is a domain. -/
def isDomain (text : List Char) : Bool :=
  let labels := splitAtChar '.' text
  labels.all isLabel && 2 ≤ labels.length && 2 ≤ (labels.getLastD []).length

/-- Whether a text is an email address and nothing else. -/
def isPlainEmail (text : List Char) : Bool :=
  match splitAtChar '@' text with
  | [name, domain] => !name.isEmpty && name.all isLocalChar && isDomain domain
  | _ => false

/-- Whether a text is an email address, perhaps with a line break after it. -/
def isEmail (text : String) : Bool := isPlainEmail (dropFinalBreak text.toList)

end ActionFlow.Format
