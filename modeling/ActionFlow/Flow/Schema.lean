import ActionFlow.Schema.Scalars
import ActionFlow.Flow.Document

/-!
# Reading flow documents

The schema of flow documents: which fields each record has, under which names, and what
stands for an absent one. Unknown fields are ignored. All issues of a document are
reported, in the order of the fields.
-/

namespace ActionFlow

open Schema

/-- Reads a condition. -/
def Condition.reader : Reader Condition := record "Condition" fun fields =>
  Condition.mk <$> requiredField fields "field" "field" readText
    <*> requiredField fields "operator" "operator"
      (readWord .notLiteral (Operator.all.map fun op => (op.word, op)))
    <*> requiredField fields "value" "value" readScalar

/-- Reads an edge. -/
def Edge.reader : Reader Edge := record "Edge" fun fields =>
  Edge.mk <$> requiredField fields "actionId" "target_node_id" readText
    <*> optionalField fields "conditions" "conditions" [] (listOf Condition.reader)

/-- Reads an option of a decision. -/
def Choice.reader : Reader Choice := record "DecisionOption" fun fields =>
  Choice.mk <$> requiredField fields "label" "label" readText
    <*> requiredField fields "value" "value" readText
    <*> requiredField fields "nextActionId" "target_node_id" readText

/-- Reads the chains of an action. -/
def Chains.reader : Reader Chains := record "ChainContext" fun fields =>
  Chains.mk <$> requiredField fields "source" "source" readText
    <*> optionalField fields "destination" "destination" none (orNull readText)

/-- Reads an option of a form parameter. -/
def SelectOption.reader : Reader SelectOption := record "SelectOption" fun fields =>
  SelectOption.mk <$> requiredField fields "label" "label" readText
    <*> requiredField fields "value" "value" readScalar

/-- Reads a form parameter. -/
def Parameter.reader : Reader Parameter := record "HttpParameter" fun fields =>
  Parameter.mk <$> requiredField fields "name" "name" readText
    <*> requiredField fields "label" "label" readText
    <*> optionalField fields "type" "type" "text" readText
    <*> optionalField fields "required" "required" false readBool
    <*> optionalField fields "description" "description" none (orNull readText)
    <*> optionalField fields "placeholder" "placeholder" none (orNull readText)
    <*> optionalField fields "defaultValue" "default_value" .null anything
    <*> optionalField fields "options" "options" [] (listOf SelectOption.reader)
    <*> optionalField fields "pattern" "pattern" none (orNull readText)
    <*> optionalField fields "minLength" "min_length" none (orNull readInt)
    <*> optionalField fields "maxLength" "max_length" none (orNull readInt)
    <*> optionalField fields "min" "min_value" none (orNull readFloat)
    <*> optionalField fields "max" "max_value" none (orNull readFloat)

/-- Reads what is special to a contract call. -/
def ContractCall.ofFields (fields : Fields) : Checked ContractCall :=
  ContractCall.mk <$> requiredField fields "address" "address" readText
    <*> optionalField fields "abi" "abi" [] (listOf (objectOf anything))
    <*> requiredField fields "functionName" "function_name" readText
    <*> requiredField fields "chains" "chains" Chains.reader
    <*> optionalField fields "amount" "amount" none (orNull readCallAmount)
    <*> optionalField fields "params" "params" [] (listOf anything)

/-- Reads what is special to a transfer. -/
def Transfer.ofFields (fields : Fields) : Checked Transfer :=
  Transfer.mk <$> optionalField fields "to" "to" none (orNull readText)
    <*> optionalField fields "amount" "amount" none (orNull readFloat)
    <*> requiredField fields "chains" "chains" Chains.reader

/-- Reads what is special to a request. -/
def HttpCall.ofFields (fields : Fields) : Checked HttpCall :=
  HttpCall.mk <$> requiredField fields "endpoint" "endpoint" readText
    <*> optionalField fields "method" "method" "POST" readText
    <*> optionalField fields "params" "params" [] (listOf Parameter.reader)
    <*> optionalField fields "body" "body" [] (objectOf anything)
    <*> optionalField fields "headers" "headers" [] (objectOf readText)

/-- Reads what is special to a decision. -/
def Decision.ofFields (fields : Fields) : Checked Decision :=
  Decision.mk <$> optionalField fields "title" "title" "" readText
    <*> optionalField fields "description" "description" none (orNull readText)
    <*> optionalField fields "options" "options" [] (listOf Choice.reader)

/-- Reads what is special to a completion. -/
def Completion.ofFields (fields : Fields) : Checked Completion :=
  Completion.mk <$> optionalField fields "message" "message" "" readText
    <*> optionalField fields "status" "status" "success" readText

/-- Reads the task of an action of a known kind. -/
def Task.ofFields (kind : TaskKind) (fields : Fields) : Checked Task :=
  match kind with
  | .contractCall => .contractCall <$> ContractCall.ofFields fields
  | .transfer => .transfer <$> Transfer.ofFields fields
  | .http => .http <$> HttpCall.ofFields fields
  | .decision => .decision <$> Decision.ofFields fields
  | .completion => .completion <$> Completion.ofFields fields

/-- Reads an action of a known kind. -/
def Action.ofFields (kind : TaskKind) (fields : Fields) : Checked Action :=
  Action.mk <$> requiredField fields "id" "id" readText
    <*> optionalField fields "label" "label" "" readText
    <*> optionalField fields "nextActions" "edges" [] (listOf Edge.reader)
    <*> Task.ofFields kind fields

/-- Reads an action, whose kind its type field tells. Issues below that lie under the
word for the kind. -/
def Action.reader : Reader Action
  | .object fields =>
    match Keyed.get? fields "type" with
    | none => .problem (.tagMissing "type")
    | some tag =>
      let unknown := Problem.tagUnknown tag.display "type" (TaskKind.all.map TaskKind.word)
      match tag with
      | .text word =>
        match TaskKind.ofWord? word with
        | some kind => (Action.ofFields kind fields).under (.key kind.word)
        | none => .problem unknown
      | _ => .problem unknown
  | _ => .problem .notTagged

/-- Reads a flow. -/
def Flow.reader : Reader Flow := record "Flow" fun fields =>
  (fun _ label initial actions => Flow.mk label initial actions)
    <$> optionalField fields "type" "type" () (readWord .notLiteral [("flow", ())])
    <*> optionalField fields "label" "label" "" readText
    <*> optionalField fields "initialActionId" "initial_node_id" "" readText
    <*> optionalField fields "actions" "nodes" [] (listOf Action.reader)

end ActionFlow
