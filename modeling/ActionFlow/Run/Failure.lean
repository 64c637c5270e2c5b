import ActionFlow.Json.Reader
import ActionFlow.Path
import ActionFlow.Run.FailureReport
import ActionFlow.Text.Quoted
import ActionFlow.Value.Text

/-!
# Why an action fails

An action fails for one of a few causes: a service reports a failure, the request lacks
something, a lookup in the context faults, or something behind a service goes wrong in a
way of its own. The result of the step tells the message of the cause.
-/

namespace ActionFlow

/-- Why an action was not carried out. -/
inductive Failure where
  /-- A service reported a failure. -/
  | reported (report : FailureReport)
  /-- A required parameter of a form has no value. -/
  | missingParameter (name : String)
  /-- A chain answered without a handle for the transaction. -/
  | noHandle
  /-- There is no action of that kind. -/
  | unknownKind (word : String)
  /-- A path or a header has digits that are no number. -/
  | unreadableIndex (fault : IndexFault)
  /-- A server's answer has a number that is too long. -/
  | unreadableAnswer (fault : Json.ReadError)
  /-- The arguments of a call cannot be counted. -/
  | uncountable (arguments : Value)
  /-- Something behind a service misses a key. -/
  | missingKey (key : String)
  /-- Something else went wrong behind a service. -/
  | other (kind message : String)

/-- The wording of a failure. -/
def Failure.message : Failure → String
  | .reported report => report.message
  | .missingParameter name => "Missing required parameter: " ++ name
  | .noHandle => "Chain client returned no transaction handle"
  | .unknownKind word => "Unknown action type: " ++ word
  | .unreadableIndex fault => fault.message
  | .unreadableAnswer fault => fault.message
  | .uncountable arguments => "object of type '" ++ arguments.kindWord ++ "' has no len()"
  | .missingKey key => Text.quote key
  | .other _ message => message

end ActionFlow
