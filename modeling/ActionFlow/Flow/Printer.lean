import ActionFlow.Flow.Document
import ActionFlow.Value.FreeForm

/-!
# Writing flow documents

The document of a flow: every field under its first name, absent ones left out, and what
stands for an absent field written out. A single action can also be shown in full, with
null for what is absent. Free-form values have null in place of numbers that are not
finite, and there is no document of a flow with a free-form value of too many levels.
-/

namespace ActionFlow

/-- How absent fields are written. -/
inductive AbsentFields where
  /-- They are left out. -/
  | omitted
  /-- They are written as null. -/
  | shown
deriving DecidableEq, Repr

/-- Fields of which some may be absent, without the absent ones. -/
def presentFields (fields : List (String × Option Value)) : Fields :=
  fields.filterMap fun (key, value?) => value?.map (key, ·)

/-- Fields of which some may be absent, as they are written. -/
def AbsentFields.write (absent : AbsentFields) (fields : List (String × Option Value)) : Fields :=
  match absent with
  | .omitted => presentFields fields
  | .shown => fields.map fun (key, value?) => (key, value?.getD .null)

/-- The document of a condition. -/
def Condition.toValue (c : Condition) : Value :=
  .object [("field", .text c.field), ("operator", .text c.operator.word),
    ("value", c.value.toValue)]

/-- The document of an edge. -/
def Edge.toValue (e : Edge) : Value :=
  .object [("actionId", .text e.target), ("conditions", .list (e.conditions.map (·.toValue)))]

/-- The document of an option of a decision. -/
def Choice.toValue (c : Choice) : Value :=
  .object [("label", .text c.label), ("value", .text c.value), ("nextActionId", .text c.target)]

/-- The document of the chains of an action. -/
def Chains.toValue (absent : AbsentFields) (c : Chains) : Value :=
  .object (absent.write [("source", some (.text c.source)),
    ("destination", c.destination.map .text)])

/-- The document of an option of a form parameter. -/
def SelectOption.toValue (o : SelectOption) : Value :=
  .object [("label", .text o.label), ("value", o.value.toValue)]

/-- The document of a form parameter. -/
def Parameter.toValue (absent : AbsentFields) (p : Parameter) : Value :=
  .object (absent.write [("name", some (.text p.name)), ("label", some (.text p.label)),
    ("type", some (.text p.type)), ("required", some (.bool p.required)),
    ("description", p.description.map .text), ("placeholder", p.placeholder.map .text),
    ("defaultValue", p.defaultValue.present?.map (·.finitePart)),
    ("options", some (.list (p.options.map (·.toValue)))), ("pattern", p.pattern.map .text),
    ("minLength", p.minLength.map .int), ("maxLength", p.maxLength.map .int),
    ("min", p.minValue.map .float), ("max", p.maxValue.map .float)])

/-- The fields that are special to a task. -/
def Task.fields (absent : AbsentFields) : Task → List (String × Option Value)
  | .contractCall c => [("address", some (.text c.address)),
    ("abi", some (.list (c.abi.map fun entry => .object (Value.finiteFields entry)))),
    ("functionName", some (.text c.functionName)), ("chains", some (c.chains.toValue absent)),
    ("amount", c.amount.map (·.toValue)),
    ("params", some (.list (Value.finiteItems c.params)))]
  | .transfer t => [("to", t.receiver.map .text), ("amount", t.amount.map .float),
    ("chains", some (t.chains.toValue absent))]
  | .http h => [("endpoint", some (.text h.endpoint)), ("method", some (.text h.method)),
    ("params", some (.list (h.params.map (·.toValue absent)))),
    ("body", some (.object (Value.finiteFields h.body))),
    ("headers", some (.object (h.headers.map fun (key, s) => (key, .text s))))]
  | .decision d => [("title", some (.text d.title)), ("description", d.description.map .text),
    ("options", some (.list (d.options.map (·.toValue))))]
  | .completion c => [("message", some (.text c.message)), ("status", some (.text c.status))]

/-- The fields of an action, the absent ones marked. -/
def Action.allFields (absent : AbsentFields) (a : Action) : List (String × Option Value) :=
  [("id", some (.text a.id)), ("label", some (.text a.label)),
    ("nextActions", some (.list (a.edges.map (·.toValue)))),
    ("type", some (.text a.kind.word))] ++ a.task.fields absent

/-- The number of levels of the deepest free-form value of a task. -/
def Task.freeLevels : Task → Nat
  | .contractCall c =>
    max (Value.levelsOfItems c.params) ((c.abi.map Value.levelsOfFields).foldl max 0)
  | .http h =>
    max (Value.levelsOfFields h.body)
      (Value.levelsOfItems (h.params.filterMap (·.defaultValue.present?)))
  | _ => 0

/-- The most levels that a free-form value of a document has. -/
def deepestFreeForm : Nat := 255

/-- Why something has no document. -/
inductive DocumentFault where
  /-- A free-form value has too many levels. -/
  | tooDeep
deriving DecidableEq, Repr

/-- The wording of a fault. -/
def DocumentFault.message : DocumentFault → String
  | .tooDeep => "Maximum serialization depth exceeded"

/-- What a document says of an action. -/
def Action.toValue (absent : AbsentFields) (a : Action) : Value :=
  .object (absent.write (a.allFields absent))

/-- The document of an action. -/
def Action.document (absent : AbsentFields) (a : Action) : Except DocumentFault Value :=
  if a.task.freeLevels ≤ deepestFreeForm then .ok (a.toValue absent) else .error .tooDeep

/-- What a document says of a flow. -/
def Flow.toValue (f : Flow) : Value :=
  .object [("type", .text "flow"), ("label", .text f.label), ("initialActionId", .text f.initial),
    ("actions", .list (f.actions.map (·.toValue .omitted)))]

/-- The document of a flow. -/
def Flow.document (f : Flow) : Except DocumentFault Value :=
  if f.actions.all fun a => a.task.freeLevels ≤ deepestFreeForm then .ok f.toValue
  else .error .tooDeep

end ActionFlow
