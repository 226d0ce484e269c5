import ModuleBridge.Error
import ModuleBridge.Text.Blank
import ModuleBridge.Wire.Shape

/-!
# Options

What a transform writes, which package the generated code imports, which interpreter introspects,
and under which name a module's source is sent to a session. Every option has a default. Options are
read under names in lower case with underscores and also in camel case.
-/

namespace ModuleBridge

open Wire (Shape Fields)

/-- The name of the member that carries a module's source when it is registered. Reference:
`RegisterSourceField`. -/
inductive SourceField
  | contents
  | sourceCode
  deriving DecidableEq, Repr

namespace SourceField

/-- The name itself. -/
def name : SourceField → String
  | .contents => "contents"
  | .sourceCode => "sourceCode"

/-- How the choice of a name is written. -/
def shape : Shape SourceField :=
  .choice [("contents", .contents), ("sourceCode", .sourceCode), ("source_code", .sourceCode)] name

end SourceField

/-- How requests to a session are written. Reference: `WireContract`. -/
structure WireContract where
  sourceField : SourceField := .contents
  deriving DecidableEq, Repr

namespace WireContract

/-- The fields of a contract. -/
def fields : Fields (SourceField × Unit) (Option SourceField × Unit) :=
  .cons { name := "register_source_field", aliases := ["registerSourceField"],
          absent := some .contents, beyond := some .contents }
    SourceField.shape .nil

/-- How a contract is written. -/
def shape : Shape WireContract :=
  .record "WireContract" fields (fun (sourceField, ()) => ⟨sourceField⟩)
    (fun c => (c.sourceField, ()))

end WireContract

/-- The package that generated code imports unless another is given. Reference:
`DEFAULT_RUNTIME_PACKAGE`. -/
def defaultRuntimePackage : String := "@disguise-one/designer-pythonapi"

/-- The options of a transform. Reference: `LoaderOptions`. -/
structure LoaderOptions where
  /-- Is the generated code written next to the source? -/
  generateJavascript : Bool := false
  /-- Are the generated declarations written next to the source? -/
  generateTypeDefinitions : Bool := true
  /-- The package that generated code imports. -/
  runtimePackage : String := defaultRuntimePackage
  /-- The interpreter that introspects, if one is named. -/
  python : Option String := none
  /-- How requests to a session are written. -/
  wire : WireContract := {}
  deriving DecidableEq, Repr

namespace LoaderOptions

/-- The fields of options. -/
def fields : Fields (Bool × Bool × String × Option String × WireContract × Unit)
    (Option Bool × Option Bool × Option String × Option (Option String) × Option WireContract ×
      Unit) :=
  .cons { name := "generate_javascript", aliases := ["generateJavascript"],
          absent := some false, beyond := some false } .flag
    (.cons { name := "generate_type_definitions", aliases := ["generateTypeDefinitions"],
             absent := some true, beyond := some true } .flag
      (.cons { name := "runtime_package", aliases := ["runtimePackage"],
               absent := some defaultRuntimePackage, beyond := some defaultRuntimePackage } .text
        (.cons { name := "python", absent := some none, beyond := some none } (.optional .path)
          (.cons { name := "wire", absent := some {}, beyond := some {} } WireContract.shape
            .nil))))

/-- How options are written. -/
def shape : Shape LoaderOptions :=
  .record "LoaderOptions" fields
    (fun (generateJavascript, generateTypeDefinitions, runtimePackage, python, wire, ()) =>
      ⟨generateJavascript, generateTypeDefinitions, runtimePackage, python, wire⟩)
    (fun o =>
      (o.generateJavascript, o.generateTypeDefinitions, o.runtimePackage, o.python, o.wire, ()))

/-- Accepts options that can be used. Reference: `LoaderOptions::validate`. -/
def validate (options : LoaderOptions) : Except Error Unit :=
  if (Text.trimBlanks options.runtimePackage.toList).isEmpty then
    .error (.config "runtime_package cannot be empty")
  else if options.python = some "" then .error (.config "python interpreter path cannot be empty")
  else .ok ()

end LoaderOptions

end ModuleBridge
