import ModuleBridge.Error
import ModuleBridge.Wire.Shape

/-!
# Function signatures

What introspection finds in a module: the functions it exports, each with the names of its
positional parameters, or an error.
-/

namespace ModuleBridge

open Wire (Shape Fields)

/-- An exported function. Reference: `FunctionSignature`. -/
structure FunctionSignature where
  name : String
  parameters : List String
  deriving DecidableEq, Repr

namespace FunctionSignature

/-- The number of arguments that a call takes. Reference: `FunctionSignature::arity`. -/
def arity (f : FunctionSignature) : Nat :=
  f.parameters.length

/-- How a signature is written. -/
def shape : Shape FunctionSignature :=
  .record "FunctionSignature"
    (.cons { name := "name" } .text
      (.cons { name := "parameters", absent := some [], beyond := some [] } (.list .text) .nil))
    (fun (name, parameters, ()) => ⟨name, parameters⟩)
    (fun f => (f.name, f.parameters, ()))

end FunctionSignature

/-- What introspection answers. Reference: `ParsedModule`. -/
structure ParsedModule where
  functions : List FunctionSignature
  error : Option String
  deriving DecidableEq, Repr

namespace ParsedModule

/-- How an answer is written. -/
def shape : Shape ParsedModule :=
  .record "ParsedModule"
    (.cons { name := "functions", absent := some [], beyond := some [] }
        (.list FunctionSignature.shape)
      (.cons { name := "error", absent := some none, beyond := some none, omitted := Option.isNone }
        (.optional .text) .nil))
    (fun (functions, error, ()) => ⟨functions, error⟩)
    (fun m => (m.functions, m.error, ()))

/-- The first function with a name. Reference: `ParsedModule::function`. -/
def find? (m : ParsedModule) (name : String) : Option FunctionSignature :=
  m.functions.find? (·.name = name)

/-- The module, or the error that the answer carries. Reference: `ParsedModule::into_result`. -/
def toExcept (m : ParsedModule) : Except Error ParsedModule :=
  match m.error with
  | some message => .error (.introspection message)
  | none => .ok m

end ParsedModule

end ModuleBridge
