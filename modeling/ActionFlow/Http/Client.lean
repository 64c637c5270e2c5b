import ActionFlow.Http.Response
import ActionFlow.Run.Failure
import ActionFlow.Text.Uppercase

/-!
# Sending requests over HTTP

A request gets the usual headers, its method in upper case, and its body as query for
`GET` and as JSON for every other method. How it ends is judged in this order: a status
that may go away reports a failure worth retrying, any other status from 400 to 599 one
that is not, and every other response stands for its content. Network trouble is worth
retrying as well. Trouble that has nothing to do with requests is passed on.
-/

namespace ActionFlow.Http

/-- A request as an action asks for it. -/
structure Request where
  /-- The address. -/
  url : String
  /-- The method, in any case. -/
  method : String
  /-- The body. -/
  body : Fields
  /-- The headers. -/
  headers : Fields

/-- A request as it is sent. -/
structure Sent where
  /-- The method. -/
  method : String
  /-- The address. -/
  url : String
  /-- The headers. -/
  headers : Fields
  /-- What is sent as query. -/
  query : Option Fields
  /-- What is sent as JSON. -/
  json : Option Fields
  /-- The number of seconds to wait for an answer. -/
  timeout : Value

/-- The number of seconds to wait when no other number is asked for. -/
def usualTimeout : Value := .int 30

/-- The header that carries the correlation id. -/
def correlationHeader : String := "X-Correlation-ID"

/-- The headers of a request: those asked for override the type of the content, and the
correlation id is added when there is one and no such header is asked for. -/
def requestHeaders (asked : Fields) (correlation : Value) : Fields :=
  let headers := Keyed.merge [("Content-Type", .text "application/json")] asked
  if correlation.isTruthy ∧ !Keyed.has headers correlationHeader then
    Keyed.set correlationHeader correlation headers
  else headers

/-- The request as it is sent. -/
def Request.sent (request : Request) (correlation timeout : Value) : Sent :=
  let method := Text.uppercase request.method
  let isQuery := method = "GET"
  { method, url := request.url
    headers := requestHeaders request.headers correlation
    query := if isQuery then some request.body else none
    json := if isQuery then none else some request.body
    timeout }

/-- The statuses that may go away. -/
def retryableStatuses : List Int := [408, 429, 500, 502, 503, 504]

/-- The number of seconds that a server asks to wait; only a status for too many requests
says so, and only in digits. -/
def waitAsked (response : Response) : Except IndexFault (Option Int) :=
  if response.status = 429 then
    match response.header? "retry-after" with
    | some text =>
      if text ≠ "" ∧ text.toList.all Text.isDigit then
        match readIndex text.toList with
        | .ok seconds => .ok (some (seconds : Int))
        | .error fault => .error fault
      else .ok none
    | none => .ok none
  else .ok none

/-- The failure that a request is reported with when nothing is gained by retrying. -/
def requestFailure (url message : String) (status : Option Int) : Failure :=
  .reported ⟨"REQUEST_ERROR", "Request failed: " ++ message, status, none, false,
    [("url", .text url)]⟩

/-- The side that a status blames. -/
def blamedSide? (status : Int) : Option String :=
  if 400 ≤ status ∧ status < 500 then some "Client"
  else if 500 ≤ status ∧ status < 600 then some "Server"
  else none

/-- What a response to a request comes to. -/
def judgeResponse (sent : Sent) (response : Response) : Except Failure Value :=
  if retryableStatuses.contains response.status then
    match waitAsked response with
    | .error fault => .error (.unreadableIndex fault)
    | .ok wait =>
      .error (.reported ⟨"HTTP_ERROR",
        "HTTP " ++ toString response.status ++ ": " ++ response.reason, some response.status,
        wait, true, [("url", .text sent.url), ("method", .text sent.method)]⟩)
  else
    match blamedSide? response.status with
    | some side =>
      .error (requestFailure sent.url (toString response.status ++ " " ++ side ++ " Error: " ++
        response.reason ++ " for url: " ++ sent.url) (some response.status))
    | none =>
      match response.content with
      | .ok content => .ok content
      | .error fault =>
        if fault.isSyntax then .error (requestFailure sent.url fault.message none)
        else .error (.unreadableAnswer fault)

/-- What the end of a request comes to. -/
def judge (sent : Sent) : Outcome → Except Failure Value
  | .answered response => judgeResponse sent response
  | .troubled (.network kind message) =>
    .error (.reported ⟨"NETWORK_ERROR", "Network error: " ++ message, none, none, true,
      [("url", .text sent.url), ("error_class", .text kind)]⟩)
  | .troubled (.request message status) => .error (requestFailure sent.url message status)
  | .troubled (.missingKey key) => .error (.missingKey key)
  | .troubled (.other kind message) => .error (.other kind message)

end ActionFlow.Http
