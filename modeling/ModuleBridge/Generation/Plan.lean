import ModuleBridge.Generation.Identifier
import ModuleBridge.ModuleName
import ModuleBridge.Signature

/-!
# The names in generated code

Before anything is printed, every function gets the name that its wrapper is bound to. A function
keeps its own name unless that is reserved or taken by something the code needs itself.
-/

namespace ModuleBridge.Generation

/-- The members that every factory's result has besides the functions. Reference:
`CLIENT_MEMBERS`. -/
def clientMembers : List String := ["client", "registration"]

/-- The names that are bound where the wrappers are. Reference: `SCOPE_BINDINGS`. -/
def scopeBindings : List String := ["PythonApiClient", "directorEndpoint"]

/-- The names that generated code and declarations import. Reference: `IMPORTED_BINDINGS`. -/
def importedBindings : List String :=
  ["AxiosResponse", "ExecuteResponse", "PythonApiClient", "RegisterResponse"]

/-- A function and the name that its wrapper is bound to. Reference: `Wrapper`. -/
structure Wrapper where
  signature : FunctionSignature
  binding : String
  deriving DecidableEq, Repr

/-- The names in the code generated for a module. Reference: `ModulePlan`. -/
structure Plan where
  /-- The name of the factory. -/
  exportName : String
  wrappers : List Wrapper
  deriving DecidableEq, Repr

/-- The name of the factory of a module. -/
def exportName (moduleName : ModuleName) : String :=
  extend importedBindings (toIdentifier moduleName.text)

/-- Accepts a function whose names can be printed. -/
def checkSignature (f : FunctionSignature) : Except Error Unit := do
  requireIdentifier "function" f.name
  if clientMembers.contains f.name then
    throw (.validation "function" s!"'{f.name}' collides with a member of the generated module")
  f.parameters.forM (requireIdentifier "parameter")

/-- Does a wrapper need another name than its function's? -/
def needsRename (name : String) : Bool :=
  isReservedWord name || scopeBindings.contains name

/-- The wrappers of some functions. No binding chosen here is among the names taken or among those
chosen before. -/
def bindWrappers (taken : List String) : List String → List FunctionSignature →
    Except Error (List Wrapper)
  | _, [] => .ok []
  | chosen, f :: rest => do
    checkSignature f
    if needsRename f.name then
      let binding := freeName f.name (taken ++ chosen)
      return ⟨f, binding⟩ :: (← bindWrappers taken (binding :: chosen) rest)
    else return ⟨f, f.name⟩ :: (← bindWrappers taken chosen rest)

/-- The names in the code for a module with some functions. Reference: `plan_module`. -/
def plan (moduleName : ModuleName) (functions : List FunctionSignature) : Except Error Plan := do
  let wrappers ← bindWrappers (functions.map (·.name) ++ scopeBindings) [] functions
  return ⟨exportName moduleName, wrappers⟩

/-- The names of the parameters in a declaration. A reserved one gets underscores, so that no other
has its name. -/
def parameterNames (parameters : List String) : List String → List String → List String
  | _, [] => []
  | seen, p :: rest =>
    let name := if isReservedWord p then freeName p (parameters ++ seen) else p
    name :: parameterNames parameters (name :: seen) rest

/-- The parameters of a declaration with their types. Reference: `typed_parameters`. -/
def typedParameters (parameters : List String) : String :=
  Text.joinWith ", " ((parameterNames parameters [] parameters).map fun name => s!"{name}: any")

end ModuleBridge.Generation
