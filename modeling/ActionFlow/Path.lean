import ActionFlow.Value
import ActionFlow.Text.Blank
import ActionFlow.Text.Numeral
import ActionFlow.Text.Quoted

/-!
# Paths into a context

A path is text in which dots divide the steps, such as `a.b.0`. A step takes the field of
that name from an object, or the item at that index from a list; any other value has
nothing below it, and null has nothing either. A path that leads nowhere is no failure.
What fails is a step into a list that is made of digits but is no decimal number, or that
is too long to be read as one.
-/

namespace ActionFlow

/-- Why a step into a list could not be read as an index. -/
inductive IndexFault where
  /-- Some of the digits are not decimal ones. -/
  | notDecimal (part : String)
  /-- The step has more digits than are taken. -/
  | tooLong (count : Nat)
deriving DecidableEq, Repr

/-- The largest number of digits of an index. -/
def IndexFault.digitLimit : Nat := 4300

/-- The wording of a fault. The quoted step is cut to two hundred characters. -/
def IndexFault.message : IndexFault → String
  | .notDecimal part =>
    "invalid literal for int() with base 10: " ++
      String.ofList ((Text.quoteChars part.toList).take 200)
  | .tooLong count =>
    "Exceeds the limit (4300 digits) for integer string conversion: value has " ++
      toString count ++ " digits; use sys.set_int_max_str_digits() to increase the limit"

/-- What a lookup gives: a value, nothing, or a fault. -/
abbrev Lookup : Type := Except IndexFault (Option Value)

/-- The number that a run of decimal digits of any script stands for. -/
def decimalIndex (digits : List Char) : Nat :=
  digits.foldl (fun value c => 10 * value + (Text.decimalDigit? c).getD 0) 0

/-- The index that a step of digits stands for. The decimal digits up to the first other
one are counted against the limit before that other digit is refused. -/
def readIndex (part : List Char) : Except IndexFault Nat :=
  let decimals := part.takeWhile fun c => (Text.decimalDigit? c).isSome
  if IndexFault.digitLimit < decimals.length then .error (.tooLong decimals.length)
  else if decimals.length < part.length then .error (.notDecimal (String.ofList part))
  else .ok (decimalIndex part)

namespace Value

/-- One step down. -/
def step (value : Value) (part : List Char) : Lookup :=
  match value with
  | .object fields => .ok (Keyed.get? fields (String.ofList part))
  | .list items =>
    if part ≠ [] ∧ part.all Text.isDigit then
      match readIndex part with
      | .ok index => .ok items[index]?
      | .error fault => .error fault
    else .ok none
  | _ => .ok none

/-- The value that the steps lead to, if they lead to any. -/
def follow (value : Value) : List (List Char) → Lookup
  | [] => .ok (some value)
  | part :: rest =>
    match value.step part with
    | .ok (some next) => next.follow rest
    | .ok none => .ok none
    | .error fault => .error fault

end Value

/-- The steps of a path: the pieces between the dots, of which there is at least one. -/
def splitAtDots : List Char → List (List Char)
  | [] => [[]]
  | c :: rest =>
    if c = '.' then [] :: splitAtDots rest
    else
      match splitAtDots rest with
      | [] => [[c]]
      | first :: others => (c :: first) :: others

/-- The steps of a path text, which may have margins around it. -/
def pathSteps (path : List Char) : List (List Char) := splitAtDots (Text.trim Text.isMargin path)

/-- The value that a path leads to in a context. -/
def resolvePath (path : List Char) (context : Value) : Lookup := context.follow (pathSteps path)

end ActionFlow
