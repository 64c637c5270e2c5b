import ActionFlow.Value
import ActionFlow.Number.Decimal
import ActionFlow.Text.Quoted

/-!
# Values in messages

The text that stands for a value in messages: a text on its own is itself, everything
else has one fixed spelling, with nested texts quoted. Numbers show their exact decimal
form, floating-point ones the shortest that reads back.
-/

namespace ActionFlow.Value

/-- The words for numbers without digits in messages. -/
def messageWords : NumberWords := ⟨"nan", "inf"⟩

mutual

/-- A value as part of a larger one. -/
def quoted : Value → String
  | .null => "None"
  | .bool b => if b then "True" else "False"
  | .int n => toString n
  | .float x => x.render messageWords
  | .text s => Text.quote s
  | .list items => "[" ++ ", ".intercalate (quotedItems items) ++ "]"
  | .object fields => "\x7b" ++ ", ".intercalate (quotedFields fields) ++ "\x7d"

/-- The items of a list. -/
def quotedItems : List Value → List String
  | [] => []
  | v :: rest => quoted v :: quotedItems rest

/-- The fields of an object, key and value divided by a colon. -/
def quotedFields : List (String × Value) → List String
  | [] => []
  | (key, v) :: rest => (Text.quote key ++ ": " ++ quoted v) :: quotedFields rest

end

/-- A value on its own. -/
def display : Value → String
  | .text s => s
  | v => quoted v

/-- The word for the kind of a value in messages. -/
def kindWord : Value → String
  | .null => "NoneType"
  | .bool _ => "bool"
  | .int _ => "int"
  | .float _ => "float"
  | .text _ => "str"
  | .list _ => "list"
  | .object _ => "dict"

end ActionFlow.Value
