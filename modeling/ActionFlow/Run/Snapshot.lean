import ActionFlow.Flow.Schema
import ActionFlow.Run.Basic
import ActionFlow.Value.Text

/-!
# Snapshots of runs

A run is written to a document that holds all of it, and taken up again from such a
document. What can be left out has a usual value: the context and the history are empty,
the phase is running, the id is a fresh one. Nothing is asked of the context and the
position of a document; its flow, its results and its phase are checked in this order.
-/

namespace ActionFlow

/-- Why no run can be taken up from a document. -/
inductive SnapshotFault where
  /-- The document is no object. -/
  | notAnObject (document : Value)
  /-- The document has no field of that name. -/
  | missing (key : String)
  /-- A part of the document does not follow the schema. -/
  | offSchema (refusal : Schema.Refusal)
  /-- The history has no members to go through. -/
  | historyNotList (history : Value)
  /-- The phase is none of the known ones. -/
  | unknownPhase (phase : Value)

/-- The wording of a fault. -/
def SnapshotFault.message : SnapshotFault → String
  | .notAnObject (.list _) => "list indices must be integers or slices, not str"
  | .notAnObject (.text _) => "string indices must be integers, not 'str'"
  | .notAnObject document => "'" ++ document.kindWord ++ "' object is not subscriptable"
  | .missing key => Text.quote key
  | .offSchema refusal => refusal.message
  | .historyNotList history => "'" ++ history.kindWord ++ "' object is not iterable"
  | .unknownPhase phase => phase.quoted ++ " is not a valid ExecutionState"

/-- The members that a value is gone through by: the items of a list, the keys of an
object, the characters of a text. -/
def Value.members? : Value → Option (List Value)
  | .list items => some items
  | .object fields => some (fields.map fun (key, _) => .text key)
  | .text s => some (s.toList.map fun c => .text (String.singleton c))
  | _ => none

/-- Reads results up to the first that does not follow the schema. -/
def readHistory : List Value → Except SnapshotFault (List StepResult)
  | [] => .ok []
  | v :: rest =>
    match (StepResult.reader v).toExcept StepResult.recordName with
    | .error refusal => .error (.offSchema refusal)
    | .ok result =>
      match readHistory rest with
      | .error fault => .error fault
      | .ok others => .ok (result :: others)

/-- Reads a history. -/
def historyOf (history : Value) : Except SnapshotFault (List StepResult) :=
  match history.members? with
  | none => .error (.historyNotList history)
  | some members => readHistory members

/-- Reads a phase. -/
def phaseOf (phase : Value) : Except SnapshotFault Phase :=
  match phase with
  | .text word =>
    match Phase.ofWord? word with
    | some phase => .ok phase
    | none => .error (.unknownPhase (.text word))
  | v => .error (.unknownPhase v)

/-- Reads the flow of a snapshot. -/
def flowOf (fields : Fields) : Except SnapshotFault Flow :=
  match Keyed.get? fields "flow" with
  | none => .error (.missing "flow")
  | some document =>
    match (Flow.reader document).toExcept "Flow" with
    | .error refusal => .error (.offSchema refusal)
    | .ok flow => .ok flow

namespace Run

/-- The document of a run whose flow has a document. -/
def snapshotOf (run : Run) (flow : Value) : Value :=
  .object [("runId", run.id), ("flow", flow), ("state", .text run.phase.word),
    ("currentNodeId", run.current), ("context", run.context),
    ("history", .list (run.history.map StepResult.toValue))]

/-- The document of a run. -/
def snapshot (run : Run) : Except DocumentFault Value := run.flow.document.map run.snapshotOf

/-- The run of a document whose flow and id are known. -/
def restoreParts (flow : Flow) (id : Value) (fields : Fields) : Except SnapshotFault Run :=
  match historyOf ((Keyed.get? fields "history").getD (.list [])) with
  | .error fault => .error fault
  | .ok history =>
    match phaseOf ((Keyed.get? fields "state").getD (.text Phase.running.word)) with
    | .error fault => .error fault
    | .ok phase =>
      .ok ⟨flow, id, (Keyed.get? fields "context").getD (.object []), history,
        (Keyed.get? fields "currentNodeId").getD .null, phase⟩

/-- Takes up a run from its document. -/
def restore (document : Value) (s : Services) : Except SnapshotFault Run × Services :=
  match document with
  | .object fields =>
    match flowOf fields with
    | .error fault => (.error fault, s)
    | .ok flow =>
      let (id, s) := chooseId ((Keyed.get? fields "runId").getD .null) s
      (restoreParts flow id fields, s)
  | document => (.error (.notAnObject document), s)

end Run

end ActionFlow
