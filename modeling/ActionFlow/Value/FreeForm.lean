import ActionFlow.Value

/-!
# Free-form values in documents

A document holds values of any form beside its fields of known types. Such a value is
written with null in place of each number that is not finite, which leaves its levels as
they are, and it is written only if its levels are not too many.
-/

namespace ActionFlow.Value

mutual

/-- The number of levels of a value: its own and those of its deepest part. -/
def levels : Value → Nat
  | .list items => levelsOfItems items + 1
  | .object fields => levelsOfFields fields + 1
  | _ => 1

/-- The number of levels of the deepest item. -/
def levelsOfItems : List Value → Nat
  | [] => 0
  | v :: rest => max (levels v) (levelsOfItems rest)

/-- The number of levels of the deepest field. -/
def levelsOfFields : List (String × Value) → Nat
  | [] => 0
  | (_, v) :: rest => max (levels v) (levelsOfFields rest)

end

mutual

/-- A value with null in place of each number that is not finite. -/
def finitePart : Value → Value
  | .float x => if x.isFinite then .float x else .null
  | .list items => .list (finiteItems items)
  | .object fields => .object (finiteFields fields)
  | v => v

/-- Items with null in place of each number that is not finite. -/
def finiteItems : List Value → List Value
  | [] => []
  | v :: rest => finitePart v :: finiteItems rest

/-- Fields with null in place of each number that is not finite. -/
def finiteFields : List (String × Value) → List (String × Value)
  | [] => []
  | (key, v) :: rest => (key, finitePart v) :: finiteFields rest

end

mutual

/-- Leaving out numbers that are not finite keeps the levels. -/
theorem levels_finitePart : (v : Value) → levels (finitePart v) = levels v
  | .null => rfl
  | .bool _ => rfl
  | .int _ => rfl
  | .float x => by cases h : x.isFinite <;> simp [finitePart, levels, h]
  | .text _ => rfl
  | .list items => by simp [finitePart, levels, levelsOfItems_finiteItems items]
  | .object fields => by simp [finitePart, levels, levelsOfFields_finiteFields fields]

/-- Leaving out numbers that are not finite keeps the levels of items. -/
theorem levelsOfItems_finiteItems :
    (items : List Value) → levelsOfItems (finiteItems items) = levelsOfItems items
  | [] => rfl
  | v :: rest => by
    simp [finiteItems, levelsOfItems, levels_finitePart v, levelsOfItems_finiteItems rest]

/-- Leaving out numbers that are not finite keeps the levels of fields. -/
theorem levelsOfFields_finiteFields :
    (fields : List (String × Value)) → levelsOfFields (finiteFields fields) = levelsOfFields fields
  | [] => rfl
  | (_, v) :: rest => by
    simp [finiteFields, levelsOfFields, levels_finitePart v, levelsOfFields_finiteFields rest]

end

end ActionFlow.Value
