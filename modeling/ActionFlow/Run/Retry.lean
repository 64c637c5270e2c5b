import ActionFlow.Log.Record
import ActionFlow.Run.FailureReport
import ActionFlow.Run.Result

/-!
# Advice on retrying

A step that failed may be tried again if its result carries a report that says so and not
too many attempts have been made. The delay is the one that the server asked for or, when
it asked for none, doubles from one second with each attempt; it never exceeds a minute.
Before the first attempt the doubling is undone in floating-point numbers, which a count of
attempts may lie beyond.
-/

namespace ActionFlow

/-- A number of seconds to wait. -/
inductive Delay where
  /-- A whole number. -/
  | whole (seconds : Int)
  /-- A fraction. -/
  | fraction (seconds : Binary64)
deriving DecidableEq

/-- A delay as a value. -/
def Delay.toValue : Delay → Value
  | .whole seconds => .int seconds
  | .fraction seconds => .float seconds

namespace Retry

/-- The number of attempts made when no other number is asked for. -/
def usualAttempts : Int := 3

/-- The longest delay. -/
def longestDelay : Int := 60

/-- Why no delay can be told. -/
inductive Fault where
  /-- The negative number of attempts lies beyond every floating-point number. -/
  | beyondNumbers
deriving DecidableEq, Repr

/-- The wording of a fault. -/
def Fault.message : Fault → String
  | .beyondNumbers => "int too large to convert to float"

/-- The delay after a number of attempts when the server asked for none. -/
def backoff (attempt : Int) : Except Fault Delay :=
  match attempt with
  | .ofNat count => .ok (.whole (if count < 6 then Nat.pow 2 count else longestDelay))
  | .negSucc count =>
    if (Binary64.ofInt attempt).isFinite then .ok (.fraction (.twoToMinus (count + 1)))
    else .error .beyondNumbers

/-- The delay after a number of attempts. -/
def delay (report : FailureReport) (attempt : Int) : Except Fault Delay :=
  match report.retryAfter with
  | some seconds =>
    if seconds = 0 then backoff attempt else .ok (.whole (min seconds longestDelay))
  | none => backoff attempt

/-- The report that a result carries. -/
def reportOf? (result : StepResult) : Option FailureReport :=
  match result.data with
  | .object fields =>
    if Keyed.has fields "error_type" then (FailureReport.reader (.object fields)).toOption
    else none
  | _ => none

/-- What is advised on the result of a step. -/
inductive Advice where
  /-- The step did not fail. -/
  | noFailure
  /-- Trying again cannot help. -/
  | notRetryable
  /-- Too many attempts have been made. -/
  | exhausted
  /-- The step should be tried again after a delay. -/
  | retry (delay : Delay)

/-- The advice on a result after a number of attempts. -/
def advise (maxAttempts : Int) (result : StepResult) (attempt : Int) : Except Fault Advice :=
  if result.status ≠ .error then .ok .noFailure
  else
    match reportOf? result with
    | none => .ok .notRetryable
    | some report =>
      if !report.retryable then .ok .notRetryable
      else if maxAttempts ≤ attempt then .ok .exhausted
      else (delay report attempt).map .retry

/-- The delay after which to try again, if that is advised. -/
def Advice.delay? : Advice → Option Delay
  | .retry delay => some delay
  | _ => none

/-- The log records that go with the advice. -/
def Advice.records (advice : Advice) (correlation : Value) (maxAttempts : Int)
    (result : StepResult) (attempt : Int) : List Log.Record :=
  match advice with
  | .noFailure => []
  | .notRetryable => [⟨Log.Level.info, "Step error is not retryable", correlation,
      [("node_id", .text result.actionId), ("error", .ofText? result.error)]⟩]
  | .exhausted => [⟨Log.Level.warning, "Maximum retry attempts reached", correlation,
      [("node_id", .text result.actionId), ("retry_count", .int attempt),
        ("max_attempts", .int maxAttempts)]⟩]
  | .retry delay => [⟨Log.Level.info, "Step will be retried", correlation,
      [("node_id", .text result.actionId), ("retry_attempt", .int (attempt + 1)),
        ("delay_seconds", delay.toValue)]⟩]

end Retry

end ActionFlow
