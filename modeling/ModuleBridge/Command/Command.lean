import ModuleBridge.Command.Line
import ModuleBridge.Endpoint
import ModuleBridge.Files.Path

/-!
# Commands

What the program can be asked to do, and how that is read from a command line and the environment.
An option that is absent may be given by a variable of the environment.
-/

namespace ModuleBridge

open Files (GivenPath)

/-- A shell for which completions can be printed. -/
inductive Shell
  | bash
  | elvish
  | fish
  | powershell
  | zsh
  deriving DecidableEq, Repr

/-- The shells by their names. -/
def Shell.all : List (String × Shell) :=
  [("bash", .bash), ("elvish", .elvish), ("fish", .fish), ("powershell", .powershell),
    ("zsh", .zsh)]

/-- What the program is asked to do. Reference: `Commands`. -/
inductive Command
  | transform (files : List GivenPath) (config : Option String) (generateJavascript : Bool)
      (noTypeDefinitions : Bool) (python : Option String)
  | introspect (file : GivenPath) (config python : Option String)
  | register (endpoint : SessionEndpoint) (file : GivenPath) (module config : Option String)
  | execute (endpoint : SessionEndpoint) (module script : String)
  | call (endpoint : SessionEndpoint) (file : GivenPath) (function : String)
      (arguments : List String) (config python : Option String)
  | completions (shell : Shell)
  deriving DecidableEq, Repr

/-- A command with the options that all commands have. Reference: `Cli`. -/
structure Invocation where
  command : Command
  /-- The format of the report, as it was given. -/
  format : String
  isVerbose : Bool
  deriving DecidableEq, Repr

/-- Variables with their values. -/
abbrev Environment := List (String × String)

namespace Command

/-- The variable that names the interpreter. -/
def pythonVariable : String := "PYLOADER_PYTHON"

/-- The variable that names the endpoint. -/
def endpointVariable : String := "PYLOADER_ENDPOINT"

/-- The options of all commands. -/
def commonOptions : List OptionSpec := [
  { long := "verbose", short := some 'v', takesValue := false }, { long := "format" }, helpOption]

/-- The options in front of the name of a command. -/
def frontSpec : LineSpec := ⟨versionOption :: commonOptions, []⟩

/-- What may follow the name of a command. -/
def spec (options : List OptionSpec) (positionals : List PositionalSpec) : LineSpec :=
  ⟨options ++ commonOptions, positionals⟩

/-- A path, which cannot be empty. -/
def path (text : String) : Except Stop String :=
  if text.isEmpty then .error .usage else .ok text

/-- The value of an option, or else of a variable. -/
def given (line : Line) (environment : Environment) (name otherName : String) : Option String :=
  line.value? name <|> Json.find? otherName environment

/-- The path that an option gives. -/
def path? : Option String → Except Stop (Option String)
  | none => .ok none
  | some text => do return some (← path text)

/-- The interpreter that is asked for. -/
def python? (line : Line) (environment : Environment) : Except Stop (Option String) :=
  path? (given line environment "python" pythonVariable)

/-- The endpoint that is asked for. -/
def endpoint (line : Line) (environment : Environment) : Except Stop SessionEndpoint :=
  match given line environment "endpoint" endpointVariable with
  | none => .error .usage
  | some text =>
    match SessionEndpoint.ofText text with
    | .ok endpoint => .ok endpoint
    | .error _ => .error .usage

/-- How a command is read from the words after its name. -/
structure Reader where
  spec : LineSpec
  build : Line → Environment → Except Stop Command

/-- Reads a transform. -/
def transformReader : Reader where
  spec := spec
    [⟨"config", none, true⟩, ⟨"generate-javascript", none, false⟩,
      ⟨"no-type-definitions", none, false⟩, ⟨"python", none, true⟩]
    [{ repeats := true }]
  build line environment := do
    if line.positionals.isEmpty then throw .usage
    let files ← line.positionals.mapM path
    let config ← path? (line.value? "config")
    let python ← python? line environment
    return .transform (files.map .text) config (line.has "generate-javascript")
      (line.has "no-type-definitions") python

/-- Reads an introspection. -/
def introspectReader : Reader where
  spec := spec [⟨"config", none, true⟩, ⟨"python", none, true⟩] [{}]
  build line environment := do
    match line.positionals with
    | [file] =>
      let file ← path file
      let config ← path? (line.value? "config")
      let python ← python? line environment
      return .introspect file config python
    | _ => throw .usage

/-- Reads a registration. -/
def registerReader : Reader where
  spec := spec [⟨"endpoint", none, true⟩, ⟨"module", none, true⟩, ⟨"config", none, true⟩] [{}]
  build line environment := do
    match line.positionals with
    | [file] =>
      let endpoint ← endpoint line environment
      let file ← path file
      let config ← path? (line.value? "config")
      return .register endpoint file (line.value? "module") config
    | _ => throw .usage

/-- Reads the execution of a script. -/
def executeReader : Reader where
  spec := spec [⟨"endpoint", none, true⟩, ⟨"module", none, true⟩] [{}]
  build line environment := do
    match line.positionals, line.value? "module" with
    | [script], some module => return .execute (← endpoint line environment) module script
    | _, _ => throw .usage

/-- Reads a call. -/
def callReader : Reader where
  spec := spec [⟨"endpoint", none, true⟩, ⟨"config", none, true⟩, ⟨"python", none, true⟩]
    [{}, {}, { repeats := true, acceptsDashes := true }]
  build line environment := do
    match line.positionals with
    | file :: function :: arguments =>
      let endpoint ← endpoint line environment
      let file ← path file
      let config ← path? (line.value? "config")
      let python ← python? line environment
      return .call endpoint file function arguments config python
    | _ => throw .usage

/-- Reads a request for completions. -/
def completionsReader : Reader where
  spec := spec [] [{}]
  build line _ :=
    match line.positionals with
    | [name] =>
      match Json.find? name Shell.all with
      | some shell => .ok (.completions shell)
      | none => .error .usage
    | _ => .error .usage

/-- The commands by their names. -/
def readers : List (String × Reader) := [
  ("transform", transformReader), ("introspect", introspectReader), ("register", registerReader),
  ("execute", executeReader), ("call", callReader), ("completions", completionsReader)]

/-- The invocation that a command's words are, after those in front of its name. -/
def readAfter (reader : Reader) (environment : Environment) (front : Line) (words : List String) :
    Except Stop Invocation := do
  let line ← Line.takeAll reader.spec {} words
  let command ← reader.build line environment
  return {
    command
    format := (line.value? "format" <|> front.value? "format").getD "pretty"
    isVerbose := line.has "verbose" || front.has "verbose" }

/-- Are the words after `help` a topic that there is help on? One of the commands is, `help` among
them, and so is the whole program. -/
def isHelpTopic : List String → Bool
  | [] => true
  | [name] => name = "help" || (Json.find? name readers).isSome
  | _ => false

/-- The invocation that words are, some of which have been taken already. -/
def readFrom (environment : Environment) : Line → List String → Except Stop Invocation
  | _, [] => .error .usage
  | front, word :: words =>
    if front.pending.isNone && !front.isTrailing && word = "help" then
      .error (if isHelpTopic words then .help else .usage)
    else
      match front.pending.isNone && !front.isTrailing, Json.find? word readers with
      | true, some reader => readAfter reader environment front words
      | _, _ => do readFrom environment (← front.take frontSpec word) words

/-- The invocation that a command line is. -/
def read (environment : Environment) (words : List String) : Except Stop Invocation :=
  readFrom environment {} words

end Command

end ModuleBridge
