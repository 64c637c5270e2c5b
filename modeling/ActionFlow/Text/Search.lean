/-!
# Finding text in text
-/

namespace ActionFlow.Text

/-- Whether a text occurs in another one without a gap. -/
def occursIn (needle : List Char) : List Char → Bool
  | [] => needle.isEmpty
  | c :: rest => needle.isPrefixOf (c :: rest) || occursIn needle rest

end ActionFlow.Text
