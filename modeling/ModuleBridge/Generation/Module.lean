import ModuleBridge.Generation.Plan
import ModuleBridge.Generation.Templates
import ModuleBridge.Text.Blank

/-!
# Generated modules

For a Python module the code of a JavaScript module is generated, which exports a factory of
sessions, and declarations for it. The factory gives an object with a client, a registration and one
wrapper for each function; a wrapper checks how many arguments it is given and runs a script that
calls the function on them.
-/

namespace ModuleBridge

open Wire (Shape Fields)

/-- What is generated for a module. Reference: `GeneratedModule`. -/
structure GeneratedModule where
  code : String
  typeDeclarations : Option String
  deriving DecidableEq, Repr

/-- How a generated module is written. -/
def GeneratedModule.shape : Shape GeneratedModule :=
  .record "GeneratedModule"
    (.cons { name := "code" } .text
      (.cons { name := "typeDeclarations", absent := some none, omitted := Option.isNone }
        (.optional .text) .nil))
    (fun (code, typeDeclarations, ()) => ⟨code, typeDeclarations⟩)
    (fun m => (m.code, m.typeDeclarations, ()))

namespace Generation

/-- The program named in the header of what is generated. Reference: `GENERATOR_NAME`. -/
def generatorName : String := "pyloader"

/-- The type of a registration. Reference: `REGISTRATION_TYPE`. -/
def registrationType : String := "Promise<AxiosResponse<RegisterResponse>>"

/-- The name of the type of a function. Reference: `type_name`. -/
def typeName (function : String) : String :=
  function ++ "Function"

/-- The holes of a template literal for the first `count` arguments. Reference:
`stringified_arguments`. -/
def stringifiedArguments (count : Nat) : String :=
  Text.joinWith ", " ((List.range count).map fun i => s!"$\x7bJSON.stringify(args[{i}])\x7d")

/-- Accepts a package that can stand between the quotes of an import. Reference:
`with_runtime_package`. -/
def checkRuntimePackage (package : String) : Except Error Unit :=
  if (Text.trimBlanks package.toList).isEmpty ||
      package.toList.any (fun c => ['\'', '"', '\\', '\n', '\r'].contains c) then
    .error (.validation "runtime_package" s!"'{package}' cannot be used as a module specifier")
  else .ok ()

/-- The text of a wrapper. -/
def wrapperText (w : Wrapper) : Except Error String :=
  shelf.render "js/function" (.object [
    ("name", .string w.signature.name), ("binding", .string w.binding),
    ("arity", .ofInt w.signature.arity),
    ("script_args", .string (stringifiedArguments w.signature.arity))])

/-- The texts of wrappers, with a blank line after each. -/
def wrapperTexts : List Wrapper → Except Error String
  | [] => .ok ""
  | w :: rest => do
    let front ← wrapperText w
    let back ← wrapperTexts rest
    return front ++ "\n" ++ back

/-- The member of the factory's object for a wrapper. Reference: `Wrapper::member`. -/
def member (w : Wrapper) : String :=
  if w.binding = w.signature.name then w.binding else s!"{w.signature.name}: {w.binding}"

/-- The code of a module. Reference: `generate_code`. -/
def code (runtimePackage : String) (moduleName : ModuleName) (source : String)
    (functions : List FunctionSignature) : Except Error String := do
  let plan ← plan moduleName functions
  let wrappers ← wrapperTexts plan.wrappers
  shelf.render "js/module" (.object [
    ("generator", .string generatorName), ("module_name", .string moduleName.text),
    ("export_name", .string plan.exportName), ("runtime_package", .string runtimePackage),
    ("module_literal", .string (Json.literal moduleName.text)),
    ("source_literal", .string (Json.literal source)), ("functions", .string wrappers),
    ("members",
      .string (Text.joinWith ",\n    " (clientMembers ++ plan.wrappers.map member)))])

/-- The alias for the type of a wrapper. -/
def aliasText (w : Wrapper) : Except Error String :=
  shelf.render "dts/function" (.object [
    ("type_name", .string (typeName w.signature.name)),
    ("parameters", .string (typedParameters w.signature.parameters))])

/-- The aliases for the types of wrappers. -/
def aliasTexts : List Wrapper → Except Error String
  | [] => .ok ""
  | w :: rest => do
    let front ← aliasText w
    let back ← aliasTexts rest
    return front ++ back

/-- The member of the factory's type for a wrapper. -/
def typedMember (w : Wrapper) : String :=
  s!"{w.signature.name}: {typeName w.signature.name}"

/-- The declarations of a module. Reference: `generate_declarations`. -/
def declarations (runtimePackage : String) (moduleName : ModuleName)
    (functions : List FunctionSignature) : Except Error String := do
  let plan ← plan moduleName functions
  let aliases ← aliasTexts plan.wrappers
  let members := ["client: PythonApiClient", s!"registration: {registrationType}"] ++
    plan.wrappers.map typedMember
  shelf.render "dts/module" (.object [
    ("generator", .string generatorName), ("module_name", .string moduleName.text),
    ("export_name", .string plan.exportName), ("runtime_package", .string runtimePackage),
    ("function_types", .string (if aliases.isEmpty then aliases else aliases ++ "\n")),
    ("members", .string (Text.joinWith ",\n  " members))])

/-- The code of a module and, if they are asked for, its declarations. Reference:
`ModuleGenerator::generate`. -/
def generate (runtimePackage : String) (moduleName : ModuleName) (source : String)
    (functions : List FunctionSignature) (withDeclarations : Bool) :
    Except Error GeneratedModule := do
  let text ← code runtimePackage moduleName source functions
  if withDeclarations then
    return ⟨text, some (← declarations runtimePackage moduleName functions)⟩
  else return ⟨text, none⟩

end Generation

end ModuleBridge
