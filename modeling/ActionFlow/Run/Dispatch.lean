import ActionFlow.Run.Plan
import ActionFlow.Run.Services

/-!
# Carrying out an action

An action that sends a request succeeds with what comes back: a chain must give a handle
for the transaction, and an answer over HTTP gets an id and the time.
-/

namespace ActionFlow

/-- The handle that a receipt gives: its field of that name, or the receipt itself. -/
def transactionHandle (receipt : Value) : Except Failure String :=
  let handle := match receipt with
    | .object fields => (Keyed.get? fields "txHandle").getD .null
    | v => v
  if handle.isTruthy then .ok handle.display else .error .noHandle

/-- An answer over HTTP as the data of a result. -/
def answerFields (answer : Value) : Fields :=
  match answer with
  | .object fields => fields
  | v => [("response", v)]

namespace Services

/-- What comes of a request for which a value came back. -/
def conclude (id : String) (request : Request) (reply : Value) (s : Services) :
    Except Failure StepResult × Services :=
  match request with
  | .contractCall call =>
    ((transactionHandle reply).map fun handle =>
      .succeeded id [("txHandle", .text handle), ("params", call.arguments)], s)
  | .transfer transfer =>
    ((transactionHandle reply).map fun handle =>
      .succeeded id [("txHandle", .text handle), ("to", transfer.receiver),
        ("amount", transfer.amount)], s)
  | .http _ =>
    let (answerId, s) := s.freshId
    (.ok (.succeeded id (Keyed.set "timestamp" (.text s.now)
      (Keyed.set "responseId" (.text answerId) (answerFields reply)))), s)

/-- Carries out an action. -/
def carryOut (a : Action) (context input : Fields) (s : Services) :
    Except Failure StepResult × Services :=
  match a.plan context input with
  | .error failure => (.error failure, s)
  | .ok (.answer result) => (.ok result, s)
  | .ok (.send request) =>
    match s.send request with
    | (.error failure, s) => (.error failure, s)
    | (.ok reply, s) => s.conclude a.id request reply

end Services

/-- The kind of action that a word names, or the failure that there is none. -/
def TaskKind.ofWord (word : String) : Except Failure TaskKind :=
  match TaskKind.ofWord? word with
  | some kind => .ok kind
  | none => .error (.unknownKind word)

end ActionFlow
