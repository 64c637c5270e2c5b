import ActionFlow.Run.Request
import ActionFlow.Run.Result
import ActionFlow.Template

/-!
# What an action is about to do

Before anything is sent, the templates of an action are filled from the context, and what
is to be sent, or the answer of an action that sends nothing, is settled. Only the
context and the input of the step matter for this; decisions look at nothing but the
input, so that an earlier choice never answers a later question.
-/

namespace ActionFlow

/-- What an action does once its templates are filled. -/
inductive Plan where
  /-- It answers without the help of a service. -/
  | answer (result : StepResult)
  /-- It sends a request. -/
  | send (request : Request)

/-- The key of the input under which the choice of the user stands. -/
def choiceKey : String := "userChoice"

/-- A lookup whose fault makes the action fail. -/
def orFail {α : Type} : Resolved α → Except Failure α
  | .ok a => .ok a
  | .error fault => .error (.unreadableIndex fault)

/-- The arguments of a contract call: its own, resolved, or those of the input when it
has none. -/
def ContractCall.arguments (call : ContractCall) (context input : Fields) : Resolved Value :=
  if call.params.isEmpty then .ok ((Keyed.get? input "params").getD (.list []))
  else (Value.list call.params).resolveAll (.object context)

/-- The amount of a contract call, null when there is none. -/
def ContractCall.amountValue (call : ContractCall) : Value :=
  match call.amount with
  | some amount => amount.toValue
  | none => .null

/-- The request of a contract call. -/
def ContractCall.request (call : ContractCall) (context input : Fields) : Except Failure Request :=
  match orFail (call.arguments context input) with
  | .error failure => .error failure
  | .ok arguments =>
    .ok (.contractCall ⟨call.address, call.functionName, arguments, call.chains,
      call.amountValue⟩)

/-- The receiver of a transfer, null when none is named. -/
def Transfer.filledReceiver (t : Transfer) (context : Fields) : Resolved Value :=
  match t.receiver with
  | none => .ok .null
  | some receiver =>
    if receiver = "" then .ok .null
    else (Value.text receiver).substitute (.object context)

/-- The amount of a transfer, null when there is none. -/
def Transfer.amountValue (t : Transfer) : Value :=
  match t.amount with
  | some amount => .float amount
  | none => .null

/-- The request of a transfer. -/
def Transfer.request (t : Transfer) (context : Fields) : Except Failure Request :=
  match orFail (t.filledReceiver context) with
  | .error failure => .error failure
  | .ok receiver => .ok (.transfer ⟨receiver, t.amountValue, t.chains⟩)

/-- Fields with the placeholders of every text in them replaced. -/
def substituteFields (context fields : Fields) : Resolved Fields :=
  Value.mapTextsFields (fun s => (substituteText (.object context) s).map .text) fields

/-- The value of a form parameter: that of the context or, when it has none, the default
one. Null is no value. -/
def Parameter.value? (p : Parameter) (context : Fields) : Option Value :=
  ((Keyed.get? context p.name).bind Value.present?).or p.defaultValue.present?

/-- A body with the values of form parameters put in, one after the other. -/
def fillForm (context : Fields) : List Parameter → Fields → Except Failure Fields
  | [], body => .ok body
  | p :: rest, body =>
    match p.value? context with
    | some value => fillForm context rest (Keyed.set p.name value body)
    | none =>
      if p.required then .error (.missingParameter p.name) else fillForm context rest body

/-- The headers of a request as fields. -/
def HttpCall.headerFields (h : HttpCall) : Fields := h.headers.map fun (key, s) => (key, .text s)

/-- The request of an HTTP call. -/
def HttpCall.request (h : HttpCall) (context : Fields) : Except Failure Request := do
  let url ← orFail (substituteText (.object context) h.endpoint)
  let headers ← orFail (substituteFields context h.headerFields)
  let fixed ← orFail (substituteFields context h.body)
  let body ← fillForm context h.params fixed
  pure (.http ⟨url, h.method, body, headers⟩)

/-- The choice that an input makes; null and the empty text are none. -/
def choiceOf? (input : Fields) : Option Value :=
  (Keyed.get? input choiceKey).filter fun v =>
    match v with
    | .null => false
    | .text s => s != ""
    | _ => true

/-- Whether an option has the value that was chosen. -/
def Choice.isChosen (choice : Value) (option : Choice) : Bool :=
  match choice with
  | .text s => option.value == s
  | _ => false

/-- The question that a decision puts. -/
def Decision.question (d : Decision) : Fields :=
  [("title", .text d.title),
    ("options", .list (d.options.map fun option =>
      .object [("label", .text option.label), ("value", .text option.value)]))]

/-- The answer of a decision to an input. -/
def Decision.answer (id : String) (d : Decision) (input : Fields) : StepResult :=
  match choiceOf? input with
  | none => .waits id d.question
  | some choice =>
    match d.options.find? (Choice.isChosen choice) with
    | none => .failed id ("Invalid choice: " ++ choice.display)
    | some option =>
      { StepResult.succeeded id [("choice", choice), ("selectedOption", .text option.label)] with
        next := some option.target }

/-- The answer of a completion. -/
def Completion.answer (id : String) (c : Completion) : StepResult :=
  .succeeded id [("message", .text c.message), ("status", .text c.status)]

/-- What an action does in a context, with an input that is already part of it. -/
def Action.plan (a : Action) (context input : Fields) : Except Failure Plan :=
  match a.task with
  | .contractCall call => (call.request context input).map .send
  | .transfer t => (t.request context).map .send
  | .http h => (h.request context).map .send
  | .decision d => .ok (.answer (d.answer a.id input))
  | .completion c => .ok (.answer (c.answer a.id))

end ActionFlow
