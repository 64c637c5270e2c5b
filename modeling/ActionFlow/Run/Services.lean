import ActionFlow.Log.Correlation
import ActionFlow.Log.Record
import ActionFlow.Run.Request
import ActionFlow.Text.Quoted

/-!
# Services

What a run works with besides its own state: a chain and an HTTP service, fresh ids, the
time, the correlation id that is bound, and the log. A scripted service gives its replies
one after the other, and keeps what it was sent. A simulated chain invents a handle for
every transaction. A session sends requests over HTTP, whose ends are given one after the
other.
-/

namespace ActionFlow

/-- What comes back from a service. -/
abbrev Reply : Type := Except Failure Value

/-- A chain. -/
inductive ChainService where
  /-- It gives replies in order. -/
  | scripted (replies : List Reply)
  /-- It invents handles, and has invented a number of them. -/
  | simulated (issued : Nat)

/-- A service over HTTP. -/
inductive HttpService where
  /-- It gives replies in order. -/
  | scripted (replies : List Reply)
  /-- It sends requests, waits for a number of seconds, and they end in order. -/
  | session (timeout : Value) (outcomes : List Http.Outcome)

/-- What a service was sent. -/
inductive Exchange where
  /-- A request as an action asks for it. -/
  | request (request : Request)
  /-- A request as it goes over HTTP. -/
  | session (sent : Http.Sent)

/-- The two kinds of service. -/
inductive ServiceKind where
  /-- A chain. -/
  | chain
  /-- A service over HTTP. -/
  | http
deriving DecidableEq, Repr

/-- Whether runs that bring no service of a kind use one together. Requests over HTTP gain
from connections that are already open; a chain has nothing to share. -/
def ServiceKind.isShared : ServiceKind → Bool
  | .chain => false
  | .http => true

/-- The services of a run and what they have seen. -/
structure Services where
  /-- The chain. -/
  chain : ChainService
  /-- The service over HTTP. -/
  http : HttpService
  /-- The number of ids that were issued. -/
  issued : Nat
  /-- The time, as it is written into results. -/
  now : String
  /-- The correlation id that is bound. -/
  correlation : Log.Correlation
  /-- What was sent, in order. -/
  exchanges : List Exchange
  /-- The log, in order. -/
  log : List Log.Record

/-- Something to be put into the log. -/
structure Note where
  /-- Its weight. -/
  level : Log.Level
  /-- What happened. -/
  message : String
  /-- Further fields. -/
  extra : Fields

/-- The number of members of a value that has members. -/
def Value.count? : Value → Option Nat
  | .text s => some s.length
  | .list items => some items.length
  | .object fields => some fields.length
  | _ => none

/-- The first of some replies, or a usual one when there are none, and the others. -/
def takeFirst {α : Type} (usual : α) : List α → α × List α
  | [] => (usual, [])
  | first :: others => (first, others)

/-- What a scripted chain replies when its script is used up. -/
def usualReceipt : Reply := .ok (.object [("txHandle", .text "0xfeed")])

/-- What a scripted service over HTTP replies when its script is used up. -/
def usualAnswer : Reply := .ok (.object [("ok", .bool true)])

/-- The receipt of a simulated chain for one of its transactions. -/
def simulatedReceipt (number : Nat) : Value :=
  .object [("txHandle", .text (String.ofList ('0' :: 'x' :: Text.hexPadded 8 number)))]

namespace Services

/-- Puts a note into the log, under the correlation id that is bound. -/
def write (note : Note) (s : Services) : Services :=
  { s with log := s.log ++ [⟨note.level, note.message, s.correlation.bound, note.extra⟩] }

/-- Keeps what a service was sent. -/
def keep (exchange : Exchange) (s : Services) : Services :=
  { s with exchanges := s.exchanges ++ [exchange] }

/-- A fresh id. -/
def freshId (s : Services) : String × Services :=
  (String.ofList (Text.hexPadded 32 (s.issued + 1)), { s with issued := s.issued + 1 })

/-- The next reply of a scripted chain. -/
def scriptedChain (replies : List Reply) (request : Request) (s : Services) : Reply × Services :=
  let (reply, others) := takeFirst usualReceipt replies
  (reply, { s.keep (.request request) with chain := .scripted others })

/-- The receipt of a simulated chain, which first tells the log. -/
def simulate (issued : Nat) (note : Note) (s : Services) : Reply × Services :=
  (.ok (simulatedReceipt (issued + 1)), { s.write note with chain := .simulated (issued + 1) })

/-- Sends a contract call. -/
def sendContractCall (request : ContractRequest) (s : Services) : Reply × Services :=
  match s.chain with
  | .scripted replies => s.scriptedChain replies (.contractCall request)
  | .simulated issued =>
    match request.arguments.count? with
    | none => (.error (.uncountable request.arguments), s)
    | some count =>
      s.simulate issued ⟨Log.Level.info, "Simulating contract call",
        [("address", .text request.address), ("function_name", .text request.functionName),
          ("chain", .text request.chains.source), ("param_count", .int count)]⟩

/-- Sends a transfer. -/
def sendTransfer (request : TransferRequest) (s : Services) : Reply × Services :=
  match s.chain with
  | .scripted replies => s.scriptedChain replies (.transfer request)
  | .simulated issued =>
    s.simulate issued ⟨Log.Level.info, "Simulating transfer",
      [("to", request.receiver), ("amount", request.amount),
        ("chain", .text request.chains.source)]⟩

/-- Sends a request over HTTP. -/
def sendHttp (request : Http.Request) (s : Services) : Reply × Services :=
  match s.http with
  | .scripted replies =>
    let (reply, others) := takeFirst usualAnswer replies
    (reply, { s.keep (.request (.http request)) with http := .scripted others })
  | .session timeout outcomes =>
    let sent := request.sent s.correlation.bound timeout
    let (outcome, others) := takeFirst (.answered .empty) outcomes
    (Http.judge sent outcome, { s.keep (.session sent) with http := .session timeout others })

/-- Sends a request to its service. -/
def send (request : Request) (s : Services) : Reply × Services :=
  match request with
  | .contractCall request => s.sendContractCall request
  | .transfer request => s.sendTransfer request
  | .http request => s.sendHttp request

end Services

end ActionFlow
