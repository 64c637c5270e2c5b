import ActionFlow.Text.CodeRanges

/-!
# Blank characters and trimming

Two sets of blank characters are in use. Paths and placeholders are trimmed of every
space character together with the four information separators; numbers in documents and
in patterns are trimmed of the space characters alone. Zero-width spaces and the byte
order mark are not blank.
-/

namespace ActionFlow.Text

/-- Boundaries of the characters that Unicode counts as white space. -/
def blankBoundaries : List Nat := [
  9, 14, 32, 33, 133, 134, 160, 161, 5760, 5761, 8192, 8203, 8232, 8234, 8239, 8240, 8287, 8288,
  12288, 12289]

/-- White space as Unicode defines it. -/
def isBlank (c : Char) : Bool := inRanges blankBoundaries c.toNat

/-- White space or one of the information separators U+001C to U+001F. -/
def isMargin (c : Char) : Bool := isBlank c || (0x1C ≤ c.toNat && c.toNat ≤ 0x1F)

/-- Text without the characters of a class at its two ends. -/
def trim (drop : Char → Bool) (text : List Char) : List Char :=
  ((text.dropWhile drop).reverse.dropWhile drop).reverse

end ActionFlow.Text
