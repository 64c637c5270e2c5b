import ActionFlow.Text.Letter
import ActionFlow.Text.Numeral

/-!
# Word characters

A word character is a letter, a numeral or the low line. Combining marks are none.
-/

namespace ActionFlow.Text

/-- Whether a character may stand in a word. -/
def isWord (c : Char) : Bool := c == '_' || isLetter c || isNumeral c

end ActionFlow.Text
