import ActionFlow.Flow.Document
import ActionFlow.Http.Client

/-!
# What actions ask of services

An action that does its work through a service sends it one request, for a contract call
or a transfer on a chain or for an answer over HTTP.
-/

namespace ActionFlow

/-- A call of a contract as a chain is asked for it. -/
structure ContractRequest where
  /-- The address of the contract. -/
  address : String
  /-- The function to call. -/
  functionName : String
  /-- The arguments, in general a list. -/
  arguments : Value
  /-- The chains it works on. -/
  chains : Chains
  /-- The amount sent along, null when there is none. -/
  amount : Value

/-- A transfer as a chain is asked for it. -/
structure TransferRequest where
  /-- The receiver, null when there is none. -/
  receiver : Value
  /-- The amount, null when there is none. -/
  amount : Value
  /-- The chains it works on. -/
  chains : Chains

/-- What a service is asked for. -/
inductive Request where
  /-- A call of a contract. -/
  | contractCall (request : ContractRequest)
  /-- A transfer. -/
  | transfer (request : TransferRequest)
  /-- An answer over HTTP. -/
  | http (request : Http.Request)

end ActionFlow
