import ActionFlow.Keyed
import ActionFlow.Number.Binary64

/-!
# Data values

The data that flows carry: JSON values in which whole numbers of any size and binary
floating-point numbers stay apart, and in which an object remembers the order of its
keys.
-/

namespace ActionFlow

/-- A JSON value. -/
inductive Value where
  /-- The absent value. -/
  | null
  /-- A truth value. -/
  | bool (b : Bool)
  /-- A whole number. -/
  | int (n : Int)
  /-- A floating-point number. -/
  | float (x : Binary64)
  /-- A text. -/
  | text (s : String)
  /-- A list of values. -/
  | list (items : List Value)
  /-- An object, its keys in order of insertion. -/
  | object (fields : List (String × Value))
deriving Inhabited

/-- The fields of an object. -/
abbrev Fields : Type := Keyed Value

namespace Value

/-- Whether a value counts as present where an empty one counts as absent: null, false,
zero and everything empty do not. -/
def isTruthy : Value → Bool
  | .null => false
  | .bool b => b
  | .int n => n != 0
  | .float x => !x.isZero
  | .text s => s != ""
  | .list items => !items.isEmpty
  | .object fields => !fields.isEmpty

/-- Whether a value is null. -/
def isNull : Value → Bool
  | .null => true
  | _ => false

/-- A value unless it is null, which stands for none. -/
def present? : Value → Option Value
  | .null => none
  | v => some v

/-- A value is present unless it is null. -/
theorem present?_eq_some_iff {v w : Value} : v.present? = some w ↔ v = w ∧ w ≠ .null := by
  cases v with
  | null =>
    simp only [present?, reduceCtorEq, false_iff, not_and, Classical.not_not]
    exact Eq.symm
  | _ =>
    simp only [present?, Option.some.injEq]
    exact ⟨fun h => ⟨h, h ▸ by simp⟩, And.left⟩

/-- Only null is absent. -/
theorem present?_eq_none_iff {v : Value} : v.present? = none ↔ v = .null := by
  cases v <;> simp [present?]

/-- The fields of an object; any other value has none. -/
def fields : Value → Fields
  | .object fields => fields
  | _ => []

/-- The value under a key of an object. -/
def get? (value : Value) (key : String) : Option Value := Keyed.get? value.fields key

/-- The text that an optional text stands for, null when there is none. -/
def ofText? : Option String → Value
  | some s => .text s
  | none => .null

end Value

end ActionFlow
