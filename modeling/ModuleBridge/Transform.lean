import ModuleBridge.Files.Staging
import ModuleBridge.Generation.Module
import ModuleBridge.Interpreter
import ModuleBridge.Options

/-!
# Transforms

A loader turns Python files into generated modules and writes, as its options say, the generated
code and the declarations next to the source. Either all that is asked for is written or nothing.
-/

namespace ModuleBridge

open Wire (Shape Fields)
open Files (Effect FileSystem GivenPath siblingPath)

/-- What a transform gives. Reference: `TransformOutput`. -/
structure TransformOutput where
  code : String
  /-- A source map. None is ever made. -/
  map : Option String
  /-- Does importing the module do anything by itself? It never does. -/
  moduleSideEffects : Bool
  typeDefinitions : String
  deriving DecidableEq, Repr

namespace TransformOutput

/-- How the declarations are written, in a record of their own. -/
def metaShape : Shape String :=
  .record "TransformMeta" (.cons { name := "typeDefinitions" } .text .nil)
    (fun (typeDefinitions, ()) => typeDefinitions) (fun s => (s, ()))

/-- How the output of a transform is written. -/
def shape : Shape TransformOutput :=
  .record "TransformOutput"
    (.cons { name := "code" } .text
      (.cons { name := "map", absent := some none } (.optional .text)
        (.cons { name := "moduleSideEffects" } .flag
          (.cons { name := "meta" } metaShape .nil))))
    (fun (code, map, moduleSideEffects, typeDefinitions, ()) =>
      ⟨code, map, moduleSideEffects, typeDefinitions⟩)
    (fun o => (o.code, o.map, o.moduleSideEffects, o.typeDefinitions, ()))

end TransformOutput

/-- What transforms modules. Reference: `PythonLoader`. -/
structure Loader where
  options : LoaderOptions
  introspect : Introspector

namespace Loader

/-- A loader whose options can be used. Reference: `PythonLoader::with_parser`. -/
def make (options : LoaderOptions) (introspect : Introspector) : Except Error Loader := do
  options.validate
  Generation.checkRuntimePackage options.runtimePackage
  return ⟨options, introspect⟩

/-- The files written for a module, with their contents. -/
def outputs (options : LoaderOptions) (id : String) (code declarations : String) :
    List (String × String) :=
  (if options.generateJavascript then [(siblingPath id ".js", code)] else []) ++
    if options.generateTypeDefinitions then [(siblingPath id ".d.ts", declarations)] else []

/-- What is generated for a source. -/
def generate (loader : Loader) (source id : String) : Except Error GeneratedModule := do
  let parsed ← loader.introspect source
  let m ← parsed.toExcept
  Generation.generate loader.options.runtimePackage (.ofId id) source m.functions true

/-- Transforms a source. Nothing is done for what is no Python file. Reference:
`PythonLoader::transform`. -/
def transform (loader : Loader) (source id : String) : Effect (Option TransformOutput) :=
  if !isPythonFile id then .pure none
  else
    match loader.generate source id with
    | .error e => .fail e
    | .ok generated =>
      let declarations := generated.typeDeclarations.getD ""
      (Files.writeFiles (outputs loader.options id generated.code declarations)).andThen fun _ =>
        .pure (some ⟨generated.code, none, false, declarations⟩)

end Loader

/-- What is reported of a file that was transformed. Reference: `TransformReport`. -/
structure TransformReport where
  /-- The path as it was given. The paths that were written are made of its text. -/
  file : GivenPath
  module : String
  codeBytes : Nat
  declarationBytes : Nat
  written : List String
  deriving DecidableEq, Repr

namespace TransformReport

/-- A report as a value, with the path as it is shown. -/
def toJson (r : TransformReport) : Json :=
  .object [("file", .string r.file.shown), ("module", .string r.module),
    ("code_bytes", .ofInt r.codeBytes), ("declaration_bytes", .ofInt r.declarationBytes),
    ("written", .array (r.written.map .string))]

/-- A report as a value that can be printed. A path that is no text cannot be. -/
def serialize (r : TransformReport) : Except Failure Json :=
  match r.file with
  | .text _ => .ok r.toJson
  | .raw .. => .error (.plain ["path contains invalid UTF-8 characters"])

end TransformReport

/-- The source in a file. Reference: `read_source`. -/
def readSource (path : GivenPath) : Effect String := fun fs =>
  match fs.readPath path with
  | .ok source => (.ok source, fs)
  | .error failure => (.error (.file path.shown failure), fs)

/-- The source that transforming a file introspects, if it comes to that. -/
def introspectedSource? (fs : FileSystem) (path : GivenPath) : Option String :=
  if isPythonFile path.shown then (fs.readPath path).toOption else none

/-- Transforms the source in a file. Reference: `transform_file`. -/
def Loader.transformFile (loader : Loader) (path : GivenPath) : Effect TransformReport :=
  let id := path.shown
  if !isPythonFile id then .fail (.invalidArgument s!"{id} is not a Python module")
  else
    (readSource path).andThen fun source =>
      (loader.transform source id).andThen fun output =>
        match output with
        | none => .fail (.invalidArgument s!"{id} was not transformed")
        | some output => .pure {
            file := path
            module := (ModuleName.ofId id).text
            codeBytes := output.code.utf8ByteSize
            declarationBytes := output.typeDefinitions.utf8ByteSize
            written := (Loader.outputs loader.options id output.code output.typeDefinitions).map
              (·.1) }

end ModuleBridge
