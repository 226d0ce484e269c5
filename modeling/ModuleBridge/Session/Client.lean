import ModuleBridge.Session.Message
import ModuleBridge.Session.Network
import ModuleBridge.Session.Url

/-!
# Clients of a session

A client registers a module with a session and runs scripts in it. Each operation posts one request,
or none if the endpoint makes no address, and is never repeated.
-/

namespace ModuleBridge.Session

open Wire (Shape)

/-- A client for one module. Reference: `PythonApiClient`. -/
structure Client where
  endpoint : SessionEndpoint
  moduleName : ModuleName
  source : String
  contract : WireContract := {}
  deriving DecidableEq, Repr

/-- An operation of a session. Reference: `REGISTER_MODULE` and `EXECUTE`. -/
inductive Operation
  | register
  | execute
  deriving DecidableEq, Repr

/-- The name of an operation, which ends the path of its requests. -/
def Operation.name : Operation → String
  | .register => "registermodule"
  | .execute => "execute"

/-- Is the status one of those that report an error? -/
def isErrorStatus (status : Nat) : Bool :=
  400 ≤ status && status < 600

/-- The words for a status that reports an error. -/
def statusMessage (reply : Reply) (url : String) : String :=
  let side := if reply.status < 500 then "client" else "server"
  s!"HTTP status {side} error ({reply.status} {reply.reason}) for url ({url})"

/-- The statuses whose replies have no body. -/
def bodiless : List Nat := [204, 304]

/-- The value that a reply carries, or the texts of what is wrong with it. -/
def readReply (shape : Shape α) (url : String) (reply : Reply) : Except (List String) α :=
  if isErrorStatus reply.status then .error [statusMessage reply url]
  else
    match shape.parse (if bodiless.contains reply.status then [] else reply.body) with
    | .ok x => .ok x
    | .error e => .error ["error decoding response body", e.message]

/-- The value that the outcome of a request carries, or the texts of what is wrong with it. -/
def readOutcome (shape : Shape α) (url : String) : Outcome → Except (List String) α
  | .unanswered reasons => .error (s!"error sending request for url ({url})" :: reasons)
  | .replied reply => readReply shape url reply

namespace Client

/-- The error of an operation for the reasons given. Reference: `transport_error`. -/
def transportError (client : Client) (operation : Operation) (reasons : List String) : Error :=
  .transport operation.name client.endpoint.text (.plain reasons)

/-- Posts a body and reads the reply. Reference: `PythonApiClient::post`. -/
def post (client : Client) (operation : Operation) (body : Json) (shape : Shape α) : Traffic α :=
  fun network =>
    match requestUrl client.endpoint operation.name with
    | .error fault =>
      (.error (client.transportError operation fault.reasons), network)
    | .ok url =>
      let (outcome, network) := network.post ⟨url, "application/json", body.compact⟩
      match readOutcome shape url outcome with
      | .ok x => (.ok x, network)
      | .error reasons => (.error (client.transportError operation reasons), network)

/-- Registers the module. Reference: `PythonApiClient::register`. -/
def register (client : Client) : Traffic RegisterResponse :=
  client.post .register (registerBody client.contract client.moduleName client.source)
    RegisterResponse.shape

/-- Runs a script in the session. Reference: `execute_script`. -/
def execute (client : Client) (script : String) : Traffic ExecuteResponse :=
  client.post .execute (executeBody client.moduleName script) ExecuteResponse.shape

end Client

end ModuleBridge.Session
