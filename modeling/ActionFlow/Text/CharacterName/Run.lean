/-!
# Runs of character names

Characters that follow one another often have names that begin alike. A run keeps the
common beginning once, and after it the endings of the names.
-/

namespace ActionFlow.Text

/-- The names of characters that follow one another. -/
structure NameRun where
  /-- The code of the first character. -/
  first : Nat
  /-- What all names begin with. -/
  opening : String
  /-- What the names end with, one after the other. -/
  endings : List String

/-- The text after a beginning, if a text has that beginning. -/
def afterOpening? : List Char → List Char → Option (List Char)
  | [], rest => some rest
  | c :: opening, d :: rest => if c = d then afterOpening? opening rest else none
  | _ :: _, [] => none

/-- The code of the character of a run that a name names. -/
def NameRun.codeOf? (run : NameRun) (name : List Char) : Option Nat := do
  let ending ← afterOpening? run.opening.toList name
  let place ← run.endings.findIdx? (· == String.ofList ending)
  pure (run.first + place)

end ActionFlow.Text
