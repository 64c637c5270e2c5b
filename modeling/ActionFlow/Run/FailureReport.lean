import ActionFlow.Flow.Printer
import ActionFlow.Schema.Scalars

/-!
# Reports of failed services

A service that fails can say what went wrong in a structured report. The report travels
as the data of an error result, from which advice on retrying reads it back.
-/

namespace ActionFlow

/-- What a service reports of its failure. -/
structure FailureReport where
  /-- The class of the failure. -/
  kind : String
  /-- What went wrong. -/
  message : String
  /-- The status that an HTTP server answered with. -/
  httpStatus : Option Int
  /-- The number of seconds that the server asks to wait. -/
  retryAfter : Option Int
  /-- Whether trying again can help. -/
  retryable : Bool
  /-- Circumstances of the failure. -/
  context : Fields

namespace FailureReport

open Schema

/-- The name under which refusals mention a report. -/
def recordName : String := "StepError"

/-- Reads a report. -/
def reader : Reader FailureReport := record recordName fun fields =>
  FailureReport.mk <$> requiredField fields "error_type" "error_type" readText
    <*> requiredField fields "error_message" "error_message" readText
    <*> optionalField fields "http_status_code" "http_status_code" none (orNull readInt)
    <*> optionalField fields "retry_after_seconds" "retry_after_seconds" none (orNull readInt)
    <*> optionalField fields "is_retryable" "is_retryable" false readBool
    <*> optionalField fields "context" "context" [] (objectOf anything)

/-- The fields of the document of a report. -/
def fields (r : FailureReport) : Fields :=
  presentFields [("error_type", some (.text r.kind)), ("error_message", some (.text r.message)),
    ("http_status_code", r.httpStatus.map .int), ("retry_after_seconds", r.retryAfter.map .int),
    ("is_retryable", some (.bool r.retryable)), ("context", some (.object r.context))]

/-- The document of a report. -/
def toValue (r : FailureReport) : Value := .object r.fields

end FailureReport

end ActionFlow
