import ModuleBridge.ModuleName
import ModuleBridge.Options
import ModuleBridge.Wire.Shape

/-!
# Messages of a session

What a client posts to a session and what the session replies.
-/

namespace ModuleBridge.Session

open Wire (Shape Fields)

/-- How a session says that it went. Reference: `Status`. -/
structure Status where
  code : Int := 0
  message : String := ""
  details : List Json := []
  deriving Repr

/-- How a status is written. -/
def Status.shape : Shape Status :=
  .record "Status"
    (.cons { name := "code", absent := some (0 : Int), beyond := some (0 : Int) } .integer
      (.cons { name := "message", absent := some "", beyond := some "" } .text
        (.cons { name := "details", absent := some [], beyond := some [] } (.list .free) .nil)))
    (fun (code, message, details, ()) => ⟨code, message, details⟩)
    (fun s => (s.code, s.message, s.details, ()))

/-- The reply to the registration of a module. Reference: `RegisterResponse`. -/
structure RegisterResponse where
  status : Status
  deriving Repr

/-- How the reply to a registration is written. -/
def RegisterResponse.shape : Shape RegisterResponse :=
  .record "RegisterResponse" (.cons { name := "status" } Status.shape .nil)
    (fun (status, ()) => ⟨status⟩) (fun r => (r.status, ()))

/-- The reply to a script. Reference: `ExecuteResponse`. -/
structure ExecuteResponse where
  status : Status
  d3Log : String
  pythonLog : String
  returnValue : String
  deriving Repr

/-- How the reply to a script is written. -/
def ExecuteResponse.shape : Shape ExecuteResponse :=
  .record "ExecuteResponse"
    (.cons { name := "status" } Status.shape
      (.cons { name := "d3Log", absent := some "", beyond := some "" } .text
        (.cons { name := "pythonLog", absent := some "", beyond := some "" } .text
          (.cons { name := "returnValue", absent := some "", beyond := some "" } .text .nil))))
    (fun (status, d3Log, pythonLog, returnValue, ()) => ⟨status, d3Log, pythonLog, returnValue⟩)
    (fun r => (r.status, r.d3Log, r.pythonLog, r.returnValue, ()))

/-- What is posted to register a module. -/
def registerBody (contract : WireContract) (moduleName : ModuleName) (source : String) : Json :=
  .ofMembers [("moduleName", .string moduleName.text), (contract.sourceField.name, .string source)]

/-- What is posted to run a script. -/
def executeBody (moduleName : ModuleName) (script : String) : Json :=
  .object [("moduleName", .string moduleName.text), ("script", .string script)]

end ModuleBridge.Session
