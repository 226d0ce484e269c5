import ModuleBridge.Command.Command
import ModuleBridge.Report.Format
import ModuleBridge.Session.RemoteModule
import ModuleBridge.Toml.Options
import ModuleBridge.Transform

/-!
# Running commands

A command runs in a world: files, a network, and programs that can be started. It prints a report or
says why it failed, and ends with an exit code. `runLine` does the same for the words of a command
line.
-/

namespace ModuleBridge

open Files (FileSystem GivenPath)
open Session (Network Client RemoteModule)

/-- The texts for people who do not know a command yet, and the scripts that let a shell complete
commands. They are made from the description of the command line by the library that reads it. -/
structure Manual where
  /-- What is said of words that are no command line. -/
  usage : (words : List String) → String := fun _ => ""
  /-- What is said of words that ask for help. -/
  help : (words : List String) → String := fun _ => ""
  completions : Shell → String := fun _ => ""

/-- What a command works on. -/
structure World where
  files : FileSystem
  network : Network
  /-- Starts a program. -/
  launch : Launcher
  /-- Finds a program by its name. -/
  which : String → Option String
  /-- The programs that were to be started so far. -/
  launched : List Launch := []
  manual : Manual := {}

/-- What a run leaves behind. -/
structure Ending where
  exit : ExitCode
  output : String := ""
  errors : String := ""
  world : World

namespace Command

/-- What a command gives, and the world after it. -/
abbrev Run (α : Type) := World → Except Failure α × World

namespace Run

/-- A run that gives a value and changes nothing. -/
def pure (x : α) : Run α := fun w => (.ok x, w)

/-- A run that fails and changes nothing. -/
def fail (failure : Failure) : Run α := fun w => (.error failure, w)

/-- One run after another one. -/
def andThen (first : Run α) (second : α → Run β) : Run β := fun w =>
  match first w with
  | (.ok x, w) => second x w
  | (.error failure, w) => (.error failure, w)

/-- A run that is settled beforehand. -/
def ofExcept (result : Except Error α) : Run α := fun w => (result.mapError .error, w)

/-- An operation on the files. -/
def onFiles (effect : Files.Effect α) : Run α := fun w =>
  let (result, files) := effect w.files
  (result.mapError .error, { w with files := files })

/-- An operation on the network. -/
def onNetwork (traffic : Session.Traffic α) : Run α := fun w =>
  let (result, network) := traffic w.network
  (result.mapError .error, { w with network := network })

/-- The options in a file. -/
def options (config : Option String) : Run LoaderOptions := fun w =>
  (LoaderOptions.loadFrom w.files config, w)

/-- The interpreter that is asked for. -/
def interpreter (python : Option String) : Run Interpreter := fun w =>
  ((Interpreter.choose w.which python).mapError .error, w)

/-- The module that a source is. -/
def introspect (interpreter : Interpreter) (source : String) : Run ParsedModule := fun w =>
  let result := do (← interpreter.introspect w.launch source).toExcept
  (result.mapError .error, { w with launched := w.launched ++ [interpreter.launchFor source] })

end Run

/-- The options with what a transform's command line says about them. Reference:
`TransformArgs::apply`. -/
def applyOverrides (options : LoaderOptions) (generateJavascript noTypeDefinitions : Bool)
    (python : Option String) : LoaderOptions :=
  { options with
    generateJavascript := options.generateJavascript || generateJavascript
    generateTypeDefinitions := options.generateTypeDefinitions && !noTypeDefinitions
    python := python <|> options.python }

/-- The interpreter and the loader for a transform. -/
def loader (options : LoaderOptions) : Run (Interpreter × Loader) := fun w =>
  match Run.interpreter options.python w with
  | (.error failure, w) => (.error (.within setupContext failure), w)
  | (.ok interpreter, w) =>
    match Loader.make options (interpreter.introspect w.launch) with
    | .error e => (.error (.within setupContext (.error e)), w)
    | .ok loader => (.ok (interpreter, loader), w)
where
  /-- What is being done. -/
  setupContext : String := "failed to set up the Python loader"

/-- What transforming files leads to. -/
structure Transformed where
  reports : List TransformReport := []
  /-- What went wrong, with the file it went wrong for. -/
  failures : List (GivenPath × Error) := []
  /-- The sources that were introspected. -/
  sources : List String := []

/-- What transforming one file leads to. -/
def Transformed.ofFile (path : GivenPath) (source : Option String) :
    Except Error TransformReport → Transformed
  | .ok report => { reports := [report], sources := source.toList }
  | .error e => { failures := [(path, e)], sources := source.toList }

/-- What transforming some files and then others leads to. -/
def Transformed.append (first second : Transformed) : Transformed where
  reports := first.reports ++ second.reports
  failures := first.failures ++ second.failures
  sources := first.sources ++ second.sources

/-- Transforms files in their order. A failure does not keep the others from being transformed. -/
def transformFiles (loader : Loader) : List GivenPath → FileSystem → Transformed × FileSystem
  | [], fs => ({}, fs)
  | path :: rest, fs =>
    let source := introspectedSource? fs path
    let (result, fs) := loader.transformFile path fs
    let (after, fs) := transformFiles loader rest fs
    ((Transformed.ofFile path source result).append after, fs)

/-- The exit code for what went wrong: that of the first failure. -/
def Transformed.exitCode (t : Transformed) : ExitCode :=
  match t.failures with
  | [] => .success
  | (_, e) :: _ => e.exitCode

/-- Runs an introspection. Reference: `introspect::run`. -/
def runIntrospect (file : GivenPath) (config python : Option String) : Run ParsedModule :=
  (Run.options config).andThen fun options =>
    (Run.interpreter (python <|> options.python)).andThen fun interpreter =>
      (Run.onFiles (readSource file)).andThen fun source =>
        Run.introspect interpreter source

/-- Runs a registration. Reference: `register::run`. -/
def runRegister (endpoint : SessionEndpoint) (file : GivenPath) (module config : Option String) :
    Run Session.RegisterResponse :=
  (Run.options config).andThen fun options =>
    (Run.onFiles (readSource file)).andThen fun source =>
      let moduleName := (module.map ModuleName.mk).getD (.ofId file.shown)
      Run.onNetwork (Client.register ⟨endpoint, moduleName, source, options.wire⟩)

/-- Runs a script. Reference: `execute::run`. -/
def runExecute (endpoint : SessionEndpoint) (module script : String) :
    Run Session.ExecuteResponse :=
  Run.onNetwork (Client.execute { endpoint, moduleName := ⟨module⟩, source := "" } script)

/-- Waits for the registration of a module. -/
def awaitRegistration (m : RemoteModule) : Run RemoteModule := fun w =>
  let (result, m, network) := m.waitRegistered w.network
  match result with
  | .ok _ => (.ok m, { w with network := network })
  | .error e =>
    (.error (.within "module registration failed" (.error e)), { w with network := network })

/-- The function that is to be called, if the module has it and takes the arguments. -/
def checkCall (moduleName : ModuleName) (m : ParsedModule) (function : String)
    (values : List Json) : Except Error String :=
  match m.find? function with
  | none => .error (.unknownFunction moduleName.text function)
  | some f => Session.callScript f.name f.parameters values

/-- Runs a call. All that can be checked is checked before anything is posted. Reference:
`call::run`. -/
def runCall (endpoint : SessionEndpoint) (file : GivenPath) (function : String)
    (arguments : List String) (config python : Option String) : Run Session.ExecuteResponse :=
  (Run.options config).andThen fun options =>
    (Run.ofExcept (Session.parseArguments arguments)).andThen fun values =>
      (Run.onFiles (readSource file)).andThen fun source =>
        (Run.interpreter (python <|> options.python)).andThen fun interpreter =>
          (Run.introspect interpreter source).andThen fun m =>
            let moduleName := ModuleName.ofId file.shown
            (Run.ofExcept (checkCall moduleName m function values)).andThen fun _ =>
              (Run.ofExcept (RemoteModule.connect true
                ⟨endpoint, moduleName, source, options.wire⟩ m.functions)).andThen fun remote =>
                (awaitRegistration remote).andThen fun remote =>
                  .onNetwork (remote.call function values)

/-- How a run is shown. -/
structure Display where
  format : OutputFormat
  isColoured : Bool

namespace Display

/-- The report of a value. -/
def report (display : Display) (v : Json) : String :=
  display.format.print display.isColoured v ++ "\n"

/-- The line for something that went wrong. -/
def complaint (display : Display) (text : String) : String :=
  Report.paint display.isColoured .error "error:" ++ " " ++ text ++ "\n"

/-- The ending of a run that gives a value. -/
def finish (display : Display) (toJson : α → Json) (run : Run α) (w : World) : Ending :=
  match run w with
  | (.ok x, w) => { exit := .success, output := display.report (toJson x), world := w }
  | (.error failure, w) =>
    { exit := failure.exitCode, errors := display.complaint failure.message, world := w }

/-- What is printed for the reports of a transform, if all of them can be printed. -/
def reports (display : Display) (reports : List TransformReport) : Except Failure String := do
  let values ← reports.mapM TransformReport.serialize
  return display.report (.array values)

/-- The ending of a transform. If one of the reports cannot be printed, none is, and the run fails
with that. Reference: `transform::run`. -/
def finishTransform (display : Display) (files : List GivenPath)
    (loader : Run (Interpreter × Loader)) (w : World) : Ending :=
  match loader w with
  | (.error failure, w) =>
    { exit := failure.exitCode, errors := display.complaint failure.message, world := w }
  | (.ok (interpreter, loader), w) =>
    let (transformed, fs) := transformFiles loader files w.files
    let complaints := String.join (transformed.failures.map fun (path, e) =>
      display.complaint s!"{path.shown}: {Failure.message (.error e)}")
    let world := { w with
      files := fs
      launched := w.launched ++ transformed.sources.map interpreter.launchFor }
    match display.reports transformed.reports with
    | .ok output => { exit := transformed.exitCode, output, errors := complaints, world }
    | .error failure =>
      { exit := failure.exitCode, errors := complaints ++ display.complaint failure.message, world }

end Display

/-- Runs a command. Reference: `execute_command`. -/
def run (command : Command) (display : Display) (w : World) : Ending :=
  match command with
  | .transform files config generateJavascript noTypeDefinitions python =>
    let loader := (Run.options config).andThen fun options =>
      loader (applyOverrides options generateJavascript noTypeDefinitions python)
    display.finishTransform files loader w
  | .introspect file config python =>
    display.finish ParsedModule.shape.toJson (runIntrospect file config python) w
  | .register endpoint file module config =>
    display.finish Session.RegisterResponse.shape.toJson (runRegister endpoint file module config) w
  | .execute endpoint module script =>
    display.finish Session.ExecuteResponse.shape.toJson (runExecute endpoint module script) w
  | .call endpoint file function arguments config python =>
    display.finish Session.ExecuteResponse.shape.toJson
      (runCall endpoint file function arguments config python) w
  | .completions shell => { exit := .success, output := w.manual.completions shell, world := w }

/-- What is printed for the version. -/
def versionText : String := "pyloader 0.1.0\n"

/-- Are texts coloured in an environment? They are if that is forced, and otherwise only on a
terminal, which the output is not. -/
def isColoured (environment : Environment) : Bool :=
  match Json.find? "CLICOLOR_FORCE" environment with
  | some value => value ≠ "0"
  | none => false

/-- Runs a command line that is one, in a world. -/
def runInvocation (invocation : Invocation) (environment : Environment) (w : World) : Ending :=
  match OutputFormat.ofText invocation.format with
  | .error e => { exit := .failure, errors := s!"Error: {e.message}\n", world := w }
  | .ok format => invocation.command.run ⟨format, isColoured environment⟩ w

/-- Runs the words of a command line, in a world. Reference: `main`. -/
def runLine (environment : Environment) (words : List String) (w : World) : Ending :=
  match read environment words with
  | .ok invocation => runInvocation invocation environment w
  | .error .usage => { exit := .invalidInput, errors := w.manual.usage words, world := w }
  | .error .help => { exit := .success, output := w.manual.help words, world := w }
  | .error .version => { exit := .success, output := versionText, world := w }

end Command

end ModuleBridge
