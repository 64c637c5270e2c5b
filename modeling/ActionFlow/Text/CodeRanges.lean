/-!
# Sets of characters by code ranges

A set of characters is given by the sorted codes at which membership changes: the first
code begins the set, the second ends its first range, and so on. Membership is then a
walk that stops at the first boundary above the character.
-/

namespace ActionFlow.Text

/-- Whether a code lies in the set that the sorted boundaries describe. -/
def inRanges : List Nat → Nat → Bool
  | [], _ => false
  | boundary :: rest, code => if code < boundary then false else !(inRanges rest code)

end ActionFlow.Text
