import ModuleBridge.Session.Client
import ModuleBridge.Session.Script
import ModuleBridge.Signature

/-!
# Remote modules

A remote module is a client that knows the functions of its module. It begins to register as soon as
it is connected, in the background, and hands the registration out once. Calls do not wait for it:
they check the name of the function and the number of arguments, and are posted then.
-/

namespace ModuleBridge.Session

/-- How far a registration is. -/
inductive Registration
  /-- The request has not been posted yet. -/
  | pending
  /-- The request was posted, with the result given. -/
  | ended (result : Except Error RegisterResponse)

/-- A module that registers itself with a session. Reference: `RemoteModule`. -/
structure RemoteModule where
  client : Client
  functions : List FunctionSignature
  registration : Registration := .pending
  /-- Can the registration still be handed out? -/
  isHeld : Bool := true

namespace RemoteModule

/-- Connects a module, which needs something that runs its registration in the background.
Reference: `connect_with_contract`. -/
def connect (hasBackground : Bool) (client : Client) (functions : List FunctionSignature) :
    Except Error RemoteModule :=
  if hasBackground then .ok { client, functions }
  else
    .error (.config ("RemoteModule requires a Tokio runtime: there is no reactor running, " ++
      "must be called from the context of a Tokio 1.x runtime"))

/-- Lets the registration end, if it is still pending. -/
def settle (m : RemoteModule) (network : Network) : RemoteModule × Network :=
  match m.registration with
  | .ended _ => (m, network)
  | .pending =>
    let (result, network) := m.client.register network
    ({ m with registration := .ended result }, network)

/-- The result of a registration that has ended. -/
def result? (m : RemoteModule) : Option (Except Error RegisterResponse) :=
  match m.registration with
  | .pending => none
  | .ended result => some result

/-- Hands the registration out, if that has not been done, and waits for its end. Reference:
`take_registration`. -/
def takeRegistration (m : RemoteModule) (network : Network) :
    Option (Except Error RegisterResponse) × RemoteModule × Network :=
  if m.isHeld then
    let (m, network) := m.settle network
    (m.result?, { m with isHeld := false }, network)
  else (none, m, network)

/-- Waits for the end of the registration, unless it has been handed out. Reference:
`wait_registered`. -/
def waitRegistered (m : RemoteModule) (network : Network) :
    Except Error RegisterResponse × RemoteModule × Network :=
  match m.takeRegistration network with
  | (some result, m, network) => (result, m, network)
  | (none, m, network) =>
    (.error (.invalidArgument
      s!"registration of '{m.client.moduleName.text}' was already awaited"), m, network)

/-- The first function with a name. Reference: `RemoteModule::function`. -/
def find? (m : RemoteModule) (name : String) : Option FunctionSignature :=
  m.functions.find? (·.name = name)

/-- The script for a call, if the module has the function and takes the arguments. -/
def scriptFor (m : RemoteModule) (name : String) (arguments : List Json) : Except Error String :=
  match m.find? name with
  | none => .error (.unknownFunction m.client.moduleName.text name)
  | some f => callScript f.name f.parameters arguments

/-- Calls a function. Reference: `RemoteModule::call`. -/
def call (m : RemoteModule) (name : String) (arguments : List Json) : Traffic ExecuteResponse :=
  fun network =>
    match m.scriptFor name arguments with
    | .error e => (.error e, network)
    | .ok script => m.client.execute script network

end RemoteModule

end ModuleBridge.Session
