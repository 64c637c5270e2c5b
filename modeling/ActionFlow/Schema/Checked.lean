import ActionFlow.Value
import ActionFlow.Value.Text

/-!
# Checking a document against a schema

A check gives a result or all issues found, each with its place in the document. Checks
of the parts of a record are joined so that no issue hides another and the issues come in
the order of the parts. A record field may have a second accepted name; the first counts
when both are present. Issues of a field name it as the document does, and an absent
field by its first name.
-/

namespace ActionFlow.Schema

/-- One step of a place in a document. -/
inductive Locator where
  /-- The field of an object, or the member of a choice of types. -/
  | key (name : String)
  /-- The item of a list. -/
  | index (position : Nat)
deriving DecidableEq, Repr

/-- What is wrong at a place. -/
inductive Problem where
  /-- A required field is absent. -/
  | missing
  /-- A text should stand here. -/
  | notText
  /-- A truth value should stand here. -/
  | notBool
  /-- The text or number here is no truth value. -/
  | unreadableBool
  /-- A whole number should stand here. -/
  | notInt
  /-- The number here has a fraction. -/
  | fractional
  /-- The number here is not finite. -/
  | notFinite
  /-- The text here is no whole number. -/
  | unreadableInt
  /-- The whole number here is too large. -/
  | tooLarge
  /-- A number should stand here. -/
  | notNumber
  /-- The text here is no number. -/
  | unreadableNumber
  /-- A list should stand here. -/
  | notList
  /-- An object should stand here. -/
  | notObject
  /-- An object that describes a record should stand here. -/
  | notRecord (record : String)
  /-- One of some words should stand here. -/
  | notLiteral (words : List String)
  /-- One of the words of an enumeration should stand here. -/
  | notMember (words : List String)
  /-- An object whose tag selects its kind should stand here. -/
  | notTagged
  /-- The tag is absent. -/
  | tagMissing (tag : String)
  /-- The tag is none of the known ones. -/
  | tagUnknown (found : String) (tag : String) (words : List String)
deriving DecidableEq, Repr

/-- The name of a problem. -/
def Problem.name : Problem → String
  | .missing => "missing"
  | .notText => "string_type"
  | .notBool => "bool_type"
  | .unreadableBool => "bool_parsing"
  | .notInt => "int_type"
  | .fractional => "int_from_float"
  | .notFinite => "finite_number"
  | .unreadableInt => "int_parsing"
  | .tooLarge => "int_parsing_size"
  | .notNumber => "float_type"
  | .unreadableNumber => "float_parsing"
  | .notList => "list_type"
  | .notObject => "dict_type"
  | .notRecord _ => "model_type"
  | .notLiteral _ => "literal_error"
  | .notMember _ => "enum"
  | .notTagged => "model_attributes_type"
  | .tagMissing _ => "union_tag_not_found"
  | .tagUnknown _ _ _ => "union_tag_invalid"

/-- A word between single marks. -/
def marked (word : String) : String := "'" ++ word ++ "'"

/-- Words between single marks, the last one set off by `or`. -/
def alternatives (words : List String) : String :=
  match words.reverse with
  | [] => ""
  | [word] => marked word
  | last :: others =>
    ", ".intercalate (others.reverse.map marked) ++ " or " ++ marked last

/-- The wording of a problem. -/
def Problem.message : Problem → String
  | .missing => "Field required"
  | .notText => "Input should be a valid string"
  | .notBool => "Input should be a valid boolean"
  | .unreadableBool => "Input should be a valid boolean, unable to interpret input"
  | .notInt => "Input should be a valid integer"
  | .fractional => "Input should be a valid integer, got a number with a fractional part"
  | .notFinite => "Input should be a finite number"
  | .unreadableInt => "Input should be a valid integer, unable to parse string as an integer"
  | .tooLarge => "Unable to parse input string as an integer, exceeded maximum size"
  | .notNumber => "Input should be a valid number"
  | .unreadableNumber => "Input should be a valid number, unable to parse string as a number"
  | .notList => "Input should be a valid list"
  | .notObject => "Input should be a valid dictionary"
  | .notRecord record => "Input should be a valid dictionary or instance of " ++ record
  | .notLiteral words => "Input should be " ++ alternatives words
  | .notMember words => "Input should be " ++ alternatives words
  | .notTagged => "Input should be a valid dictionary or object to extract fields from"
  | .tagMissing tag => "Unable to extract tag using discriminator " ++ marked tag
  | .tagUnknown found tag words =>
    "Input tag " ++ marked found ++ " found using " ++ marked tag ++
      " does not match any of the expected tags: " ++ ", ".intercalate (words.map marked)

/-- A problem and its place. -/
structure Issue where
  /-- The steps from the whole document to the place. -/
  location : List Locator
  /-- What is wrong there. -/
  problem : Problem
deriving DecidableEq, Repr

/-- The outcome of a check: a result, or the issues found. -/
inductive Checked (α : Type) where
  /-- Nothing was wrong. -/
  | accepted (result : α)
  /-- Something was wrong. -/
  | refused (issues : List Issue)

namespace Checked

/-- A result changed, issues kept. -/
def map {α β : Type} (f : α → β) : Checked α → Checked β
  | .accepted a => .accepted (f a)
  | .refused issues => .refused issues

/-- Two checks joined, with the issues of both in order. -/
def both {α β : Type} : Checked (α → β) → Checked α → Checked β
  | .accepted f, .accepted a => .accepted (f a)
  | .accepted _, .refused issues => .refused issues
  | .refused issues, .accepted _ => .refused issues
  | .refused first, .refused second => .refused (first ++ second)

instance : Applicative Checked where
  pure := .accepted
  seq f a := both f (a ())
  map := map

/-- A check that fails with one problem at its own place. -/
def problem {α : Type} (p : Problem) : Checked α := .refused [⟨[], p⟩]

/-- A check whose issues lie one step further inside. -/
def under {α : Type} (step : Locator) : Checked α → Checked α
  | .accepted a => .accepted a
  | .refused issues => .refused (issues.map fun i => { i with location := step :: i.location })

/-- The result of a check, if it has one. -/
def toOption {α : Type} : Checked α → Option α
  | .accepted a => some a
  | .refused _ => none

end Checked

/-- A reader of a value: the check that turns it into what the schema says. -/
abbrev Reader (α : Type) : Type := Value → Checked α

/-- A reader that also takes null, as the absence of what it reads. -/
def orNull {α : Type} (reader : Reader α) : Reader (Option α)
  | .null => .accepted none
  | v => (reader v).map some

/-- The items of a list from a position on, each under its index. -/
def readItems {α : Type} (reader : Reader α) : Nat → List Value → Checked (List α)
  | _, [] => .accepted []
  | position, v :: rest =>
    Checked.both (((reader v).under (.index position)).map List.cons)
      (readItems reader (position + 1) rest)

/-- A list of what a reader reads. -/
def listOf {α : Type} (reader : Reader α) : Reader (List α)
  | .list items => readItems reader 0 items
  | _ => .problem .notList

/-- The fields of an object, each value under its key. -/
def readFields {α : Type} (reader : Reader α) : Fields → Checked (List (String × α))
  | [] => .accepted []
  | (key, v) :: rest =>
    Checked.both (((reader v).under (.key key)).map fun a => List.cons (key, a))
      (readFields reader rest)

/-- An object whose values a reader reads. -/
def objectOf {α : Type} (reader : Reader α) : Reader (List (String × α))
  | .object fields => readFields reader fields
  | _ => .problem .notObject

/-- A reader that takes every value as it is. -/
def anything : Reader Value := .accepted

/-- A record: the check of the fields of an object. -/
def record {α : Type} (name : String) (check : Fields → Checked α) : Reader α
  | .object fields => check fields
  | _ => .problem (.notRecord name)

/-- The value of a field under its name or, failing that, under a second name, and the
name under which it stands. -/
def lookup (fields : Fields) (name second : String) : Option (String × Value) :=
  match Keyed.get? fields name with
  | some v => some (name, v)
  | none => (Keyed.get? fields second).map (second, ·)

/-- A field that must be present. -/
def requiredField {α : Type} (fields : Fields) (name second : String) (reader : Reader α) :
    Checked α :=
  match lookup fields name second with
  | some (found, v) => (reader v).under (.key found)
  | none => (Checked.problem .missing).under (.key name)

/-- A field that stands for a fixed value when it is absent. -/
def optionalField {α : Type} (fields : Fields) (name second : String) (absent : α)
    (reader : Reader α) : Checked α :=
  match lookup fields name second with
  | some (found, v) => (reader v).under (.key found)
  | none => .accepted absent

/-- A refusal of a whole document: the record it was read as and what is wrong. -/
structure Refusal where
  /-- The name of the record. -/
  record : String
  /-- The issues, in document order. -/
  issues : List Issue
deriving DecidableEq, Repr

/-- The wording of a refusal. -/
def Refusal.message (r : Refusal) : String :=
  let count := r.issues.length
  toString count ++ (if count = 1 then " validation error for " else " validation errors for ") ++
    r.record

/-- A document read as a record. -/
def Checked.toExcept {α : Type} (record : String) : Checked α → Except Refusal α
  | .accepted a => .ok a
  | .refused issues => .error ⟨record, issues⟩

end ActionFlow.Schema
