import ActionFlow.Flow.Condition
import ActionFlow.Run.Basic
import ActionFlow.Run.Dispatch

/-!
# Steps of a run

A step merges the input into the context, carries out the current action and settles what
follows from its outcome. A failure is recorded and leaves the run where it is, so that
the step can be tried again. A success moves the run to the option that was chosen or
along the first edge whose conditions hold, and a run that no edge leads on comes to a
halt. What the last action answered stands in the context for those after it.
-/

namespace ActionFlow

/-- Why a step ends without a result. -/
inductive Escape where
  /-- A condition of an edge could not be evaluated. -/
  | condition (fault : IndexFault)
  /-- The context is no object, and takes no input. -/
  | contextNotObject (context : Value)
  /-- The position is a list or an object, and stands for no action. -/
  | positionNotScalar (position : Value)
  /-- The position is no text, and a result cannot name it. -/
  | positionNotText (refusal : Schema.Refusal)

/-- The wording of an escape. -/
def Escape.message : Escape → String
  | .condition fault => fault.message
  | .contextNotObject context =>
    "'" ++ context.kindWord ++ "' object has no attribute 'update'"
  | .positionNotScalar position => "unhashable type: '" ++ position.kindWord ++ "'"
  | .positionNotText refusal => refusal.message

/-- What an outcome does to a run. -/
structure Settled where
  /-- What the step answers. -/
  answer : Except Escape StepResult
  /-- The run after the step. -/
  run : Run
  /-- What the log is told. -/
  notes : List Note

/-- A step that has been made. -/
structure Stepped where
  /-- What it answers. -/
  answer : Except Escape StepResult
  /-- The run after it. -/
  run : Run
  /-- The services after it. -/
  services : Services

/-- The key of the context for what the last action answered. -/
def lastResultKey : String := "lastResult"

/-- The key of the context for the id of the last action. -/
def lastActionKey : String := "lastActionId"

/-- The key of the context for what the last failure said. -/
def lastErrorKey : String := "lastError"

/-- The context with the result of an action remembered. -/
def remember (id : String) (result : StepResult) (context : Fields) : Fields :=
  Keyed.set lastActionKey (.text id) (Keyed.set lastResultKey result.toValue context)

/-- The context with the reason of a failure remembered. -/
def rememberError (reason : Option String) (context : Fields) : Fields :=
  Keyed.set lastErrorKey (.ofText? reason) context

/-- The first edge whose conditions hold in a context. -/
def firstOpenEdge (context : Value) : List Edge → Resolved (Option Edge)
  | [] => .ok none
  | edge :: rest =>
    match evaluateAll context edge.conditions with
    | .error fault => .error fault
    | .ok true => .ok (some edge)
    | .ok false => firstOpenEdge context rest

/-- The id of the action that follows a success: that of the chosen option, or the target
of the first open edge. -/
def Action.following (a : Action) (context : Value) (result : StepResult) :
    Resolved (Option String) :=
  match a.task with
  | .decision _ => .ok result.next
  | _ => (firstOpenEdge context a.edges).map fun edge => edge.map (·.target)

/-- The result of a failed action, with the report of the service if there is one. -/
def Failure.result (id : String) (failure : Failure) : StepResult :=
  match failure with
  | .reported report => { StepResult.failed id report.message with data := report.toValue }
  | failure => .failed id failure.message

namespace Run

/-- The fields that notes about an action carry, and further ones. -/
def noteFields (run : Run) (a : Action) (more : Fields) : Fields :=
  [("run_id", run.id), ("node_id", .text a.id)] ++ more

/-- The run with a result added to its history. -/
def record (run : Run) (result : StepResult) : Run :=
  { run with history := run.history ++ [result] }

/-- The run after a failure, which is told in the context and the history. -/
def fail (run : Run) (a : Action) (context : Fields) (failure : Failure) : Settled :=
  let result := failure.result a.id
  let context := rememberError result.error (remember a.id result context)
  { answer := .ok result
    run := { run with context := .object context, phase := .running }.record result
    notes := [⟨Log.Level.error, "Action failed", run.noteFields a
      [("node_type", .text a.kind.word), ("error", .ofText? result.error)]⟩] }

/-- The run after a result that says that the action failed. -/
def refuse (run : Run) (a : Action) (context : Fields) (result : StepResult) : Settled :=
  let context := rememberError result.error (remember a.id result context)
  { answer := .ok result
    run := { run with context := .object context, phase := .running }.record result
    notes := [⟨Log.Level.warning, "Action returned an error",
      run.noteFields a [("error", .ofText? result.error)]⟩] }

/-- The run after a result that waits for the user. -/
def await (run : Run) (a : Action) (context : Fields) (result : StepResult) : Settled :=
  { answer := .ok result
    run := { run with
      context := .object (remember a.id result context), phase := .waitingForInput }.record result
    notes := [⟨Log.Level.info, "Waiting for user input", run.noteFields a []⟩] }

/-- The run after a completion. -/
def complete (run : Run) (a : Action) (context : Fields) (result : StepResult) : Settled :=
  { answer := .ok result
    run := { run with
      context := .object (remember a.id result context), phase := .completed
      current := .null }.record result
    notes := [⟨Log.Level.info, "Flow completed", run.noteFields a []⟩] }

/-- The run after a success from which nothing leads on. -/
def halt (run : Run) (a : Action) (context : Fields) (result : StepResult) : Settled :=
  { answer := .ok result
    run := { run with
      context := .object (remember a.id result context), phase := .halted
      current := .null }.record result
    notes := [⟨Log.Level.info, "Flow ended without completion", run.noteFields a []⟩] }

/-- The run after a success that leads on to an action. -/
def moveTo (run : Run) (a : Action) (context : Fields) (result : StepResult) (next : String) :
    Settled :=
  let result := { result with next := some next }
  { answer := .ok result
    run := { run with
      context := .object (remember a.id result context), phase := .running
      current := .text next }.record result
    notes := [⟨Log.Level.info, "Advanced to next action",
      run.noteFields a [("next_node_id", .text next)]⟩] }

/-- The run after a success: on to the action that follows, if one does. -/
def advance (run : Run) (a : Action) (context : Fields) (result : StepResult) : Settled :=
  let remembered := Value.object (remember a.id result context)
  match a.following remembered result with
  | .error fault => ⟨.error (.condition fault), { run with context := remembered }, []⟩
  | .ok none => run.halt a context result
  | .ok (some next) =>
    if next = "" then run.halt a context result else run.moveTo a context result next

/-- The run after a result of any status. -/
def settleResult (run : Run) (a : Action) (context : Fields) (result : StepResult) : Settled :=
  match result.status with
  | .error => run.refuse a context result
  | .waiting => run.await a context result
  | .success => if a.kind = .completion then run.complete a context result
    else run.advance a context result
  | .skipped => ⟨.ok result,
      { run with context := .object (remember a.id result context) }.record result, []⟩

/-- The run after an action was carried out in a context. -/
def settle (run : Run) (a : Action) (context : Fields) : Except Failure StepResult → Settled
  | .error failure => run.fail a context failure
  | .ok result => run.settleResult a context result

/-- Carries out an action as the next step of a run. -/
def stepAction (run : Run) (a : Action) (context input : Fields) (s : Services) : Stepped :=
  let merged := Keyed.merge context input
  let announced := s.write ⟨Log.Level.info, "Dispatching action",
    run.noteFields a [("node_type", .text a.kind.word)]⟩
  let (outcome, s) := announced.carryOut a merged input
  let settled := run.settle a merged outcome
  ⟨settled.answer, settled.run, settled.notes.foldl (fun s note => s.write note) s⟩

/-- What a step answers when there is nothing to do. -/
def nothingToDo : StepResult :=
  .failed "none" "No current action or flow already completed"

/-- What a step answers when the current action is not there. -/
def actionNotFound (id : String) : StepResult := .failed id ("Action '" ++ id ++ "' not found")

/-- The current action, if there is one. A position that is no scalar stands for no
action and cannot be looked up. -/
def currentAction (run : Run) : Except Escape (Option Action) :=
  if !run.current.isTruthy then .ok none
  else
    match run.current with
    | .text id => .ok (run.flow.action? id)
    | .list items => .error (.positionNotScalar (.list items))
    | .object fields => .error (.positionNotScalar (.object fields))
    | _ => .ok none

/-- What a step answers when the position stands for no action; a result can only name a
text. -/
def lost (run : Run) : Except Escape StepResult :=
  match run.current with
  | .text id => .ok (actionNotFound id)
  | _ => .error (.positionNotText ⟨StepResult.recordName, [⟨[.key "node_id"], .notText⟩]⟩)

/-- A step within the scope of a correlation id. -/
def stepInScope (run : Run) (input : Fields) (s : Services) : Stepped :=
  if run.isFinished || !run.current.isTruthy then ⟨.ok nothingToDo, run, s⟩
  else
    match run.currentAction with
    | .error escape => ⟨.error escape, run, s⟩
    | .ok none => ⟨run.lost, run, s⟩
    | .ok (some a) =>
      match run.context with
      | .object context => run.stepAction a context input s
      | context => ⟨.error (.contextNotObject context), run, s⟩

/-- A step of a run. Its id is the correlation id of the step unless another is bound. -/
def step (run : Run) (input : Fields) (s : Services) : Stepped :=
  let stepped := run.stepInScope input { s with correlation := s.correlation.enter run.id }
  { stepped with services := { stepped.services with
      correlation := stepped.services.correlation.leave } }

end Run

end ActionFlow
