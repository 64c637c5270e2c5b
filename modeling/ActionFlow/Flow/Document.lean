import ActionFlow.Value

/-!
# Flows

A flow is a list of actions, one of which it starts with. Each action does one of five
things, and names the actions that may come next: by edges with conditions or, for a
decision, by the options that a user can choose. The types hold what a flow document can
say and no more; whether the flow makes sense as a whole is a matter of validation.
-/

namespace ActionFlow

/-- How a condition compares. -/
inductive Operator where
  /-- The values are equal. -/
  | equal
  /-- The values are not equal. -/
  | different
  /-- The field lies after the value. -/
  | greater
  /-- The field lies before the value. -/
  | less
  /-- The field does not lie before the value. -/
  | greaterOrEqual
  /-- The field does not lie after the value. -/
  | lessOrEqual
  /-- The field, a list or a text, holds the value. -/
  | contains
deriving DecidableEq, Repr

/-- The word for an operator in documents. -/
def Operator.word : Operator → String
  | .equal => "eq"
  | .different => "ne"
  | .greater => "gt"
  | .less => "lt"
  | .greaterOrEqual => "gte"
  | .lessOrEqual => "lte"
  | .contains => "contains"

/-- All operators, in the order in which messages list them. -/
def Operator.all : List Operator :=
  [.equal, .different, .greater, .less, .greaterOrEqual, .lessOrEqual, .contains]

/-- A value that is neither null nor made of others. -/
inductive Scalar where
  /-- A truth value. -/
  | bool (b : Bool)
  /-- A whole number. -/
  | int (n : Int)
  /-- A floating-point number. -/
  | float (x : Binary64)
  /-- A text. -/
  | text (s : String)
deriving DecidableEq

/-- A scalar as a value. -/
def Scalar.toValue : Scalar → Value
  | .bool b => .bool b
  | .int n => .int n
  | .float x => .float x
  | .text s => .text s

/-- One comparison of a field of the context with a value. -/
structure Condition where
  /-- The path of the field. -/
  field : String
  /-- How the two are compared. -/
  operator : Operator
  /-- What the field is compared with; a text may be a template. -/
  value : Scalar
deriving DecidableEq

/-- A link to an action that may come next. -/
structure Edge where
  /-- The id of that action. -/
  target : String
  /-- What must hold for the edge to be taken. -/
  conditions : List Condition
deriving DecidableEq

/-- An option of a decision. -/
structure Choice where
  /-- What the user reads. -/
  label : String
  /-- What the user's choice is compared with. -/
  value : String
  /-- The id of the action that comes next. -/
  target : String
deriving DecidableEq

/-- The chains that an action works on. -/
structure Chains where
  /-- The chain that it acts on. -/
  source : String
  /-- The chain that it leads to, if it is another one. -/
  destination : Option String
deriving DecidableEq

/-- An option of a form parameter. -/
structure SelectOption where
  /-- What the user reads. -/
  label : String
  /-- What is sent. -/
  value : Scalar
deriving DecidableEq

/-- A parameter of a form. -/
structure Parameter where
  /-- The name, under which the context and the request body hold it. -/
  name : String
  /-- What the user reads. -/
  label : String
  /-- The kind of input. -/
  type : String
  /-- Whether a request needs it. -/
  required : Bool
  /-- A longer text for the user. -/
  description : Option String
  /-- A text shown while the input is empty. -/
  placeholder : Option String
  /-- The value taken when the context has none, null when there is none either. -/
  defaultValue : Value
  /-- The options to select from. -/
  options : List SelectOption
  /-- A regular expression for the input. -/
  pattern : Option String
  /-- The smallest length of the input. -/
  minLength : Option Int
  /-- The largest length of the input. -/
  maxLength : Option Int
  /-- The smallest number. -/
  minValue : Option Binary64
  /-- The largest number. -/
  maxValue : Option Binary64

/-- The amount that goes with a contract call. -/
inductive CallAmount where
  /-- A whole number. -/
  | int (n : Int)
  /-- A floating-point number. -/
  | float (x : Binary64)
  /-- A text, passed on as it is. -/
  | text (s : String)
deriving DecidableEq

/-- An amount as a value. -/
def CallAmount.toValue : CallAmount → Value
  | .int n => .int n
  | .float x => .float x
  | .text s => .text s

/-- A call of a contract on a chain. -/
structure ContractCall where
  /-- The address of the contract. -/
  address : String
  /-- The description of the contract's functions. -/
  abi : List Fields
  /-- The function to call. -/
  functionName : String
  /-- The chains it works on. -/
  chains : Chains
  /-- The amount sent along. -/
  amount : Option CallAmount
  /-- The arguments; texts in them are templates. -/
  params : List Value

/-- A transfer on a chain. -/
structure Transfer where
  /-- The receiver, a template. -/
  receiver : Option String
  /-- The amount. -/
  amount : Option Binary64
  /-- The chains it works on. -/
  chains : Chains

/-- A request over HTTP whose body is a form. -/
structure HttpCall where
  /-- The address, a template. -/
  endpoint : String
  /-- The method. -/
  method : String
  /-- The parameters of the form. -/
  params : List Parameter
  /-- The fixed part of the body; texts in it are templates. -/
  body : Fields
  /-- The headers; their values are templates. -/
  headers : List (String × String)

/-- A question to the user. -/
structure Decision where
  /-- The question. -/
  title : String
  /-- A longer text for the user. -/
  description : Option String
  /-- The answers that can be chosen. -/
  options : List Choice

/-- The end of a flow. -/
structure Completion where
  /-- What the user reads. -/
  message : String
  /-- How the flow ended. -/
  status : String

/-- What an action does. -/
inductive Task where
  /-- Calls a contract. -/
  | contractCall (call : ContractCall)
  /-- Transfers an amount. -/
  | transfer (transfer : Transfer)
  /-- Sends a request. -/
  | http (call : HttpCall)
  /-- Asks the user. -/
  | decision (decision : Decision)
  /-- Ends the flow. -/
  | completion (completion : Completion)

/-- The five kinds of action. -/
inductive TaskKind where
  /-- A contract call. -/
  | contractCall
  /-- A transfer. -/
  | transfer
  /-- A request. -/
  | http
  /-- A decision. -/
  | decision
  /-- A completion. -/
  | completion
deriving DecidableEq, Repr

/-- The word for a kind in documents. -/
def TaskKind.word : TaskKind → String
  | .contractCall => "blockchain"
  | .transfer => "transfer"
  | .http => "http"
  | .decision => "decision"
  | .completion => "completion"

/-- All kinds, in the order in which messages list them. -/
def TaskKind.all : List TaskKind := [.contractCall, .transfer, .http, .decision, .completion]

/-- The kind that a word names. -/
def TaskKind.ofWord? (word : String) : Option TaskKind := all.find? (·.word == word)

/-- The kind of a task. -/
def Task.kind : Task → TaskKind
  | .contractCall _ => .contractCall
  | .transfer _ => .transfer
  | .http _ => .http
  | .decision _ => .decision
  | .completion _ => .completion

/-- An action of a flow. -/
structure Action where
  /-- The id that edges and options name. -/
  id : String
  /-- What the user reads. -/
  label : String
  /-- The links to actions that may come next. -/
  edges : List Edge
  /-- What the action does. -/
  task : Task

/-- The kind of an action. -/
def Action.kind (action : Action) : TaskKind := action.task.kind

/-- A flow. -/
structure Flow where
  /-- What the user reads. -/
  label : String
  /-- The id of the action that the flow starts with. -/
  initial : String
  /-- The actions. -/
  actions : List Action

end ActionFlow
