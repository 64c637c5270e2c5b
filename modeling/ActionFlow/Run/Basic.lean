import ActionFlow.Flow.Graph
import ActionFlow.Run.Services
import ActionFlow.Run.Result

/-!
# Runs

A run goes through a flow action by action. It has an id, the context that its actions
share, the history of what they answered, the action that comes next, and a phase. A run
that was taken up from a document may have anything for its id, its context and its
position; a run that was begun here has texts for the first and the last, and an object
for its context.
-/

namespace ActionFlow

/-- Where a run stands. -/
inductive Phase where
  /-- An action is to be carried out. -/
  | running
  /-- The user has to choose. -/
  | waitingForInput
  /-- The run has come to a completion. -/
  | completed
  /-- No link led on from the last action. -/
  | halted
deriving DecidableEq, Repr

/-- The word for a phase in documents. -/
def Phase.word : Phase → String
  | .running => "running"
  | .waitingForInput => "waiting_for_input"
  | .completed => "completed"
  | .halted => "halted"

/-- All phases. -/
def Phase.all : List Phase := [.running, .waitingForInput, .completed, .halted]

/-- The phase that a word names. -/
def Phase.ofWord? (word : String) : Option Phase := all.find? (·.word == word)

/-- A run of a flow. -/
structure Run where
  /-- The flow. -/
  flow : Flow
  /-- The id of the run. -/
  id : Value
  /-- What the actions share. -/
  context : Value
  /-- What the actions answered, in order. -/
  history : List StepResult
  /-- The id of the action that comes next, null when there is none. -/
  current : Value
  /-- Where the run stands. -/
  phase : Phase

namespace Run

/-- The id that is asked for, or a fresh one when none is. -/
def chooseId (asked : Value) (s : Services) : Value × Services :=
  if asked.isTruthy then (asked, s)
  else
    let (id, s) := s.freshId
    (.text id, s)

/-- A run that begins at the initial action of a flow. -/
def start (flow : Flow) (context : Fields) (id : Value) : Run :=
  ⟨flow, id, .object context, [], .text flow.initial, .running⟩

/-- Begins a run under the id that is asked for, if any. -/
def begin (flow : Flow) (context : Fields) (asked : Value) (s : Services) : Run × Services :=
  let (id, s) := chooseId asked s
  (start flow context id, s)

/-- Whether the run has come to its end. -/
def isFinished (run : Run) : Bool := run.phase == .completed || run.phase == .halted

end Run

end ActionFlow
