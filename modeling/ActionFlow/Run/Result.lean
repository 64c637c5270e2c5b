import ActionFlow.Flow.Printer
import ActionFlow.Schema.Scalars

/-!
# Results of steps

Every step of a run answers with a result: which action it was about, how it went, and
what came of it. Results are written to documents and read back; a field without a value
is left out, while nulls inside the data of a result stay.
-/

namespace ActionFlow

/-- How a step went. -/
inductive Status where
  /-- The action was carried out. -/
  | success
  /-- The action failed. -/
  | error
  /-- The action needs input from the user. -/
  | waiting
  /-- The action was passed over. -/
  | skipped
deriving DecidableEq, Repr

/-- The word for a status in documents. -/
def Status.word : Status → String
  | .success => "success"
  | .error => "error"
  | .waiting => "waiting"
  | .skipped => "skipped"

/-- All statuses, in the order in which messages list them. -/
def Status.all : List Status := [.success, .error, .waiting, .skipped]

/-- What a step answers. -/
structure StepResult where
  /-- The id of the action. -/
  actionId : String
  /-- How the step went. -/
  status : Status
  /-- What came of it, null when there is nothing to tell. -/
  data : Value
  /-- Why it failed. -/
  error : Option String
  /-- The id of the action that comes next. -/
  next : Option String

namespace StepResult

open Schema

/-- The name under which refusals mention a result. -/
def recordName : String := "ExecutionResult"

/-- Reads a result. -/
def reader : Reader StepResult := record recordName fun fields =>
  StepResult.mk <$> requiredField fields "nodeId" "node_id" readText
    <*> requiredField fields "status" "status"
      (readWord .notMember (Status.all.map fun status => (status.word, status)))
    <*> optionalField fields "data" "data" .null anything
    <*> optionalField fields "error" "error" none (orNull readText)
    <*> optionalField fields "nextNodeId" "next_node_id" none (orNull readText)

/-- The document of a result. -/
def toValue (r : StepResult) : Value :=
  .object (presentFields [("nodeId", some (.text r.actionId)),
    ("status", some (.text r.status.word)), ("data", r.data.present?), ("error", r.error.map .text),
    ("nextNodeId", r.next.map .text)])

/-- The result of an action that was carried out, with what came of it. -/
def succeeded (actionId : String) (data : Fields) : StepResult :=
  ⟨actionId, .success, .object data, none, none⟩

/-- The result of an action that failed for a stated reason. -/
def failed (actionId reason : String) : StepResult :=
  ⟨actionId, .error, .null, some reason, none⟩

/-- The result of an action that waits for the user, with what the user is asked. -/
def waits (actionId : String) (question : Fields) : StepResult :=
  ⟨actionId, .waiting, .object question, none, none⟩

end StepResult

end ActionFlow
