import ActionFlow.Flow.Document
import ActionFlow.Template
import ActionFlow.Text.Search
import ActionFlow.Value.Equality

/-!
# Conditions

A condition looks up its field, resolves its value as a template and compares the two. A
field that leads nowhere fails the condition, whatever the comparison. Conditions that
stand together all have to hold, and the first one that does not settles the matter.
-/

namespace ActionFlow

/-- Whether a list holds an equal item, or a text another one. -/
def Value.holds (container item : Value) : Bool :=
  match container with
  | .text s =>
    match item with
    | .text part => Text.occursIn part.toList s.toList
    | _ => false
  | .list items => items.any (·.matchesValue item)
  | _ => false

/-- Whether two values compare as an operator says. -/
def Operator.compare (op : Operator) (left right : Value) : Bool :=
  match op with
  | .equal => left.matchesValue right
  | .different => !left.matchesValue right
  | .greater => right.isBefore left
  | .less => left.isBefore right
  | .greaterOrEqual => right.isBeforeOrAt left
  | .lessOrEqual => left.isBeforeOrAt right
  | .contains => left.holds right

/-- Whether a condition holds in a context. -/
def Condition.evaluate (condition : Condition) (context : Value) : Resolved Bool :=
  match resolvePath condition.field.toList context with
  | .error fault => .error fault
  | .ok none => .ok false
  | .ok (some found) =>
    match condition.value.toValue.resolve context with
    | .error fault => .error fault
    | .ok expected => .ok (condition.operator.compare found expected)

/-- Whether all conditions hold in a context. -/
def evaluateAll (context : Value) : List Condition → Resolved Bool
  | [] => .ok true
  | condition :: rest =>
    match condition.evaluate context with
    | .error fault => .error fault
    | .ok false => .ok false
    | .ok true => evaluateAll context rest

end ActionFlow
