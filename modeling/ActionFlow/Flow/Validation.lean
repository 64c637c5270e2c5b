import ActionFlow.Flow.Graph
import ActionFlow.Flow.Schema
import ActionFlow.Format.Address
import ActionFlow.Format.DateTime
import ActionFlow.Format.Email
import ActionFlow.Format.Url
import ActionFlow.Pattern.Reader
import ActionFlow.Template
import ActionFlow.Value.Equality
import ActionFlow.Value.Text

/-!
# Validation of flows

A flow is valid when it can be run safely: it has actions and an initial one, every id is
there and its own, every link leads to an action, every action can be reached, and every
action is complete for its kind. The most fundamental problem is the one reported, and
among equals the first in the order of the document. Checks of addresses and patterns can
also fail in ways that are not counted as problems of the flow.
-/

namespace ActionFlow

/-- The largest number of actions of a flow. -/
def maxActions : Nat := 1000

/-- The chains that actions may use. -/
def supportedChains : List String := ["fuji", "avalanche", "alfajores", "celo", "monad-testnet"]

/-- The words for how a flow can end. -/
def completionStatuses : List String := ["error", "info", "success"]

/-- The kinds of input of a form parameter. -/
def parameterTypes : List String :=
  ["text", "number", "boolean", "email", "url", "datetime", "textarea", "select", "radio"]

/-- The kinds of input that select from options. -/
def choiceTypes : List String := ["select", "radio"]

/-- What is wrong with a form parameter. -/
inductive ParameterProblem where
  /-- It has no name. -/
  | noName
  /-- An earlier one has the same name. -/
  | duplicate
  /-- It has no label. -/
  | noLabel
  /-- Its kind of input is not known. -/
  | unknownType (type : String)
  /-- It selects from no options. -/
  | noOptions
  /-- One of its options has no label. -/
  | optionWithoutLabel
  /-- None of its options has the default value. -/
  | defaultNotOffered
  /-- Its default value does not have the form that its kind of input asks for. -/
  | badDefault (type : String) (value : Value)
  /-- Its pattern is malformed. -/
  | badPattern (description : String)

/-- What is wrong with an action. -/
inductive ActionProblem where
  /-- It has no label. -/
  | noLabel
  /-- A condition on the edge to a target has no field. -/
  | conditionWithoutField (target : String)
  /-- A decision has no options. -/
  | noOptions
  /-- A decision has no title. -/
  | noTitle
  /-- An option of a decision has no label. -/
  | optionWithoutLabel
  /-- Two options of a decision have the same value. -/
  | duplicateOption (value : String)
  /-- A completion has edges. -/
  | edgesAfterCompletion
  /-- A completion has no message. -/
  | noMessage
  /-- The status of a completion is not known. -/
  | badStatus
  /-- The address of a contract is none. -/
  | badContractAddress (address : String)
  /-- A contract call names no function. -/
  | noFunction
  /-- A contract call has no description of its functions. -/
  | noAbi
  /-- The receiver of a transfer is no address. -/
  | badReceiver (address : String)
  /-- The amount of a transfer is not positive. -/
  | noPositiveAmount
  /-- A chain is not supported. -/
  | unsupportedChain (chain : String)
  /-- The endpoint of a request is no web address. -/
  | badEndpoint (endpoint : String)
  /-- A form parameter has a problem. -/
  | parameter (name : String) (problem : ParameterProblem)

/-- What is wrong with a flow. -/
inductive FlowProblem where
  /-- The document is no object. -/
  | notAnObject
  /-- The document does not follow the schema. -/
  | offSchema (refusal : Schema.Refusal)
  /-- There are no actions. -/
  | noActions
  /-- There are too many actions. -/
  | tooManyActions (count : Nat)
  /-- No initial action is named. -/
  | noInitial
  /-- The initial action is not there. -/
  | initialUnknown (id : String)
  /-- An action has no id. -/
  | actionWithoutId
  /-- Two actions have the same id. -/
  | duplicateId (id : String)
  /-- An action names one that is not there. -/
  | unknownTarget (id target : String)
  /-- Some actions cannot be reached. -/
  | unreachable (ids : List String)
  /-- The flow has no label. -/
  | noLabel
  /-- An action has a problem. -/
  | action (id : String) (problem : ActionProblem)

/-- Why validation ends without a flow. -/
inductive ValidationFailure where
  /-- The flow has a problem. -/
  | invalid (problem : FlowProblem)
  /-- A web address could not be read at all. -/
  | unreadableUrl (fault : Format.UrlFault)
  /-- A pattern is beyond a limit. -/
  | beyondPattern (limit : Pattern.Limit)

/-- The wording of a problem of a form parameter of an action. -/
def ParameterProblem.message (id name : String) (problem : ParameterProblem) : String :=
  let subject := "HTTP action '" ++ id ++ "' parameter '" ++ name ++ "' "
  match problem with
  | .noName => "HTTP action '" ++ id ++ "' has a parameter without a name"
  | .duplicate => "HTTP action '" ++ id ++ "' has duplicate parameter: " ++ name
  | .noLabel => subject ++ "must have a label"
  | .unknownType type => subject ++ "has invalid type: " ++ type
  | .noOptions => subject ++ "must have options"
  | .optionWithoutLabel => subject ++ "has an option without a label"
  | .defaultNotOffered => subject ++ "has invalid default value"
  | .badDefault type value =>
    subject ++ "has invalid " ++ type ++ " default value: " ++ value.display
  | .badPattern description => subject ++ "has invalid pattern: " ++ description

/-- The wording of a problem of an action. -/
def ActionProblem.message (id : String) : ActionProblem → String
  | .noLabel => "Action '" ++ id ++ "' must have a label"
  | .conditionWithoutField target =>
    "Condition in nextAction '" ++ target ++ "' from action '" ++ id ++ "' must have a field"
  | .noOptions => "Decision action '" ++ id ++ "' must have at least one option"
  | .noTitle => "Decision action '" ++ id ++ "' must have a title"
  | .optionWithoutLabel => "Option in decision action '" ++ id ++ "' must have a label"
  | .duplicateOption value =>
    "Decision action '" ++ id ++ "' has duplicate option value: " ++ value
  | .edgesAfterCompletion => "Completion action '" ++ id ++ "' must not have outgoing edges"
  | .noMessage => "Completion action '" ++ id ++ "' must have a message"
  | .badStatus =>
    "Completion action '" ++ id ++ "' must have a valid status (" ++
      ", ".intercalate completionStatuses ++ ")"
  | .badContractAddress address =>
    "Blockchain action '" ++ id ++ "' has invalid address: " ++ address
  | .noFunction => "Blockchain action '" ++ id ++ "' must have a functionName"
  | .noAbi => "Blockchain action '" ++ id ++ "' must have a valid ABI"
  | .badReceiver address => "Transfer action '" ++ id ++ "' has invalid address: " ++ address
  | .noPositiveAmount => "Transfer action '" ++ id ++ "' must have a positive amount"
  | .unsupportedChain chain =>
    "Action '" ++ id ++ "' uses unsupported chain '" ++ chain ++ "'. Allowed chains: " ++
      ", ".intercalate supportedChains
  | .badEndpoint endpoint => "HTTP action '" ++ id ++ "' has invalid endpoint URL: " ++ endpoint
  | .parameter name problem => problem.message id name

/-- The wording of a problem of a flow. -/
def FlowProblem.message : FlowProblem → String
  | .notAnObject => "Flow definition must be an object"
  | .offSchema refusal => "Invalid flow definition: " ++ refusal.message
  | .noActions => "Flow must have at least one action"
  | .tooManyActions count =>
    "Flow exceeds maximum action limit: " ++ toString count ++ " > " ++ toString maxActions
  | .noInitial => "Flow must have an initialActionId"
  | .initialUnknown id => "initialActionId '" ++ id ++ "' does not match any action"
  | .actionWithoutId => "All actions must have an 'id' field"
  | .duplicateId id => "Duplicate action ID: " ++ id
  | .unknownTarget id target =>
    "Action '" ++ id ++ "' references non-existent action '" ++ target ++ "'"
  | .unreachable ids => "The following actions are unreachable: " ++ ", ".intercalate ids
  | .noLabel => "Flow must have a label"
  | .action id problem => problem.message id

/-- The id of the action that a problem is about; empty when it is about none. -/
def FlowProblem.actionId : FlowProblem → String
  | .initialUnknown id => id
  | .duplicateId id => id
  | .unknownTarget id _ => id
  | .action id _ => id
  | _ => ""

/-- A check that passes or ends validation. -/
abbrev Check : Type := Except ValidationFailure Unit

/-- A check that a problem of the flow is absent. -/
def refuseIf (bad : Bool) (problem : FlowProblem) : Check :=
  if bad then .error (.invalid problem) else .ok ()

/-- Checks of all members of a list, in order. -/
def checkEach {α : Type} (check : α → Check) : List α → Check
  | [] => .ok ()
  | a :: rest => do
    check a
    checkEach check rest

/-- Checks the members of a list together with the keys of those before them. -/
def checkWithSeen {α : Type} (check : List String → α → Check) (key : α → String) :
    List String → List α → Check
  | _, [] => .ok ()
  | seen, a :: rest => do
    check seen a
    checkWithSeen check key (key a :: seen) rest

/-- Whether a value is a text of a certain form. -/
def Value.isTextWith (form : String → Bool) : Value → Bool
  | .text s => form s
  | _ => false

/-- Whether a value is a web address; only a text can be. -/
def Value.isUrl : Value → Except ValidationFailure Bool
  | .text s =>
    match Format.readUrl s with
    | .ok b => .ok b
    | .error fault => .error (.unreadableUrl fault)
  | _ => .ok false

/-- Whether a default value has the form that a kind of input asks for. -/
def hasDefaultForm (type : String) (value : Value) : Except ValidationFailure Bool :=
  match type with
  | "email" => .ok (value.isTextWith Format.isEmail)
  | "url" => value.isUrl
  | "datetime" => .ok (value.isTextWith Format.isDateTime)
  | _ => .ok true

/-- The chains of an action are supported. -/
def Chains.check (id : String) (chains : Chains) : Check :=
  checkEach (fun chain => refuseIf (!supportedChains.contains chain)
    (.action id (.unsupportedChain chain))) (chains.source :: chains.destination.toList)

/-- A parameter that selects has labelled options, and a default value among them. -/
def Parameter.checkChoice (refuse : Bool → ParameterProblem → Check) (p : Parameter) : Check := do
  refuse p.options.isEmpty .noOptions
  checkEach (fun option => refuse (option.label == "") .optionWithoutLabel) p.options
  match p.defaultValue.present? with
  | none => .ok ()
  | some value =>
    refuse (!p.options.any fun option => option.value.toValue.equals value) .defaultNotOffered

/-- A pattern can be read. -/
def checkPattern (refuse : Bool → ParameterProblem → Check) (pattern : String) : Check :=
  match Pattern.refusal? pattern.toList with
  | none => .ok ()
  | some (.malformed fault position) =>
    refuse true (.badPattern (Pattern.describe pattern.toList fault position))
  | some (.beyond limit) => .error (.beyondPattern limit)

/-- A parameter that takes input has a default value of its form, and a sound pattern. -/
def Parameter.checkInput (refuse : Bool → ParameterProblem → Check) (p : Parameter) : Check := do
  match p.defaultValue.present? with
  | none => pure ()
  | some value => refuse (!(← hasDefaultForm p.type value)) (.badDefault p.type value)
  match p.pattern with
  | none => .ok ()
  | some pattern => if pattern = "" then .ok () else checkPattern refuse pattern

/-- A parameter is complete, and no earlier one has its name. -/
def Parameter.check (id : String) (seen : List String) (p : Parameter) : Check := do
  let refuse := fun bad problem => refuseIf bad (.action id (.parameter p.name problem))
  refuse (p.name == "") .noName
  refuse (seen.contains p.name) .duplicate
  refuse (p.label == "") .noLabel
  refuse (!parameterTypes.contains p.type) (.unknownType p.type)
  if choiceTypes.contains p.type then p.checkChoice refuse else p.checkInput refuse

/-- Whether the amount of a transfer is missing or not above zero. -/
def lacksAmount : Option Binary64 → Bool
  | none => true
  | some amount =>
    match amount.extent? with
    | some extent => extent.le (.at 0)
    | none => false

/-- What is special to the task of an action is complete. -/
def Action.checkTask (a : Action) : Check :=
  let refuse := fun bad problem => refuseIf bad (.action a.id problem)
  match a.task with
  | .decision d => do
    refuse d.options.isEmpty .noOptions
    refuse (d.title == "") .noTitle
    checkWithSeen (fun seen option => do
      refuse (option.label == "") .optionWithoutLabel
      refuse (seen.contains option.value) (.duplicateOption option.value))
      (·.value) [] d.options
  | .completion c => do
    refuse (!a.edges.isEmpty) .edgesAfterCompletion
    refuse (c.message == "") .noMessage
    refuse (!completionStatuses.contains c.status) .badStatus
  | .contractCall c => do
    refuse (!Format.isAddress c.address) (.badContractAddress c.address)
    refuse (c.functionName == "") .noFunction
    refuse c.abi.isEmpty .noAbi
    c.chains.check a.id
  | .transfer t => do
    match t.receiver with
    | none => pure ()
    | some receiver =>
      refuse (receiver != "" && !textHasPlaceholder receiver && !Format.isAddress receiver)
        (.badReceiver receiver)
    refuse (lacksAmount t.amount) .noPositiveAmount
    t.chains.check a.id
  | .http h => do
    unless textHasPlaceholder h.endpoint do
      refuse (!(← (Value.text h.endpoint).isUrl)) (.badEndpoint h.endpoint)
    checkWithSeen (Parameter.check a.id) (·.name) [] h.params

/-- An action is complete for its kind. -/
def Action.check (a : Action) : Check := do
  refuseIf (a.label == "") (.action a.id .noLabel)
  checkEach (fun edge => checkEach (fun condition => refuseIf (condition.field == "")
    (.action a.id (.conditionWithoutField edge.target))) edge.conditions) a.edges
  a.checkTask

/-- Every action has an id, and no two have the same. -/
def checkIds (actions : List Action) : Check :=
  checkWithSeen (fun seen a => do
    refuseIf (a.id == "") .actionWithoutId
    refuseIf (seen.contains a.id) (.duplicateId a.id)) (·.id) [] actions

/-- Every link leads to an action. -/
def checkTargets (actions : List Action) : Check :=
  checkEach (fun a => checkEach (fun target =>
    refuseIf (!(actions.map (·.id)).contains target) (.unknownTarget a.id target)) a.referenced)
    actions

/-- The ids of the actions that cannot be reached, in order. -/
def Flow.unreachableIds (f : Flow) : List String :=
  let reached := f.reachable
  (f.actions.map (·.id)).filter fun id => !reached.contains id

/-- A flow is valid. -/
def Flow.check (f : Flow) : Check := do
  refuseIf f.actions.isEmpty .noActions
  refuseIf (maxActions < f.actions.length) (.tooManyActions f.actions.length)
  refuseIf (f.initial == "") .noInitial
  refuseIf (!f.actions.any (·.id == f.initial)) (.initialUnknown f.initial)
  checkIds f.actions
  checkTargets f.actions
  refuseIf (!f.unreachableIds.isEmpty) (.unreachable f.unreachableIds)
  refuseIf (f.label == "") .noLabel
  checkEach Action.check f.actions

/-- The flow of a document that follows the schema. -/
def Flow.parse (document : Value) : Except FlowProblem Flow :=
  match document with
  | .object _ =>
    match (Flow.reader document).toExcept "Flow" with
    | .ok f => .ok f
    | .error refusal => .error (.offSchema refusal)
  | _ => .error .notAnObject

/-- A flow as it is, if it is valid. -/
def Flow.validated (f : Flow) : Except ValidationFailure Flow :=
  match f.check with
  | .ok () => .ok f
  | .error failure => .error failure

/-- The flow of a document that is valid. -/
def Flow.validate (document : Value) : Except ValidationFailure Flow :=
  match Flow.parse document with
  | .error problem => .error (.invalid problem)
  | .ok f => f.validated

end ActionFlow
