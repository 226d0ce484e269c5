import ModuleBridge.ExitCode
import ModuleBridge.Json.Fault

/-!
# Failures

An `Error` is a cause that the library itself reports. A `Failure` is what a command ends with: an
error, or a cause of another kind, with the contexts wrapped around it. Its chain is the list of all
texts, outermost first. The first error of a chain decides the exit code.
-/

namespace ModuleBridge

/-- A computation that succeeds has succeeded in its first step. -/
theorem exists_of_bind_ok {ε α β : Type} {x : Except ε α} {f : α → Except ε β} {y : β}
    (h : x >>= f = .ok y) : ∃ a, x = .ok a ∧ f a = .ok y := by
  cases x with
  | error e => cases h
  | ok a => exact ⟨a, rfl, h⟩

/-- Why the operating system refused something. -/
inductive SystemFailure
  | notFound
  | notADirectory
  | isADirectory
  /-- A file was to be written over a directory. -/
  | targetIsDirectory
  | alreadyExists
  | directoryNotEmpty
  | permissionDenied
  | nameTooLong
  /-- A path with the character U+0000 in it. -/
  | nulInPath
  /-- A file that was read as text is not UTF-8. -/
  | notText
  | brokenPipe
  /-- A path that ends in a dot or two names no file that could be replaced, and the root cannot be
  removed. -/
  | busy
  /-- A directory cannot be removed under the name of a dot. -/
  | invalid
  /-- A failure met at another path than the one asked for. -/
  | met (failure : SystemFailure) (path : String)
  | other (text : String)
  deriving DecidableEq, Repr

/-- The words for a refusal. -/
def SystemFailure.message : SystemFailure → String
  | .notFound => "No such file or directory (os error 2)"
  | .notADirectory => "Not a directory (os error 20)"
  | .isADirectory => "Is a directory (os error 21)"
  | .targetIsDirectory => "target is a directory"
  | .alreadyExists => "File exists (os error 17)"
  | .directoryNotEmpty => "Directory not empty (os error 39)"
  | .permissionDenied => "Permission denied (os error 13)"
  | .nameTooLong => "File name too long (os error 36)"
  | .nulInPath => "file name contained an unexpected NUL byte"
  | .notText => "stream did not contain valid UTF-8"
  | .brokenPipe => "Broken pipe (os error 32)"
  | .busy => "Device or resource busy (os error 16)"
  | .invalid => "Invalid argument (os error 22)"
  | .met failure path => s!"{failure.message} at path {Text.quoted path}"
  | .other text => text

/-- The words for a refusal and for what lies under it. -/
def SystemFailure.chain : SystemFailure → List String
  | .met failure path => (SystemFailure.met failure path).message :: failure.chain
  | failure => [failure.message]

mutual

/-- A cause that the library reports. Reference: `Error`. -/
inductive Error
  /-- The source is not a module that can be introspected. -/
  | introspection (message : String)
  /-- The interpreter that introspects did not do its work. -/
  | interpreter (message : String) (source : Option SystemFailure)
  /-- A function was called with a wrong number of arguments. -/
  | arityMismatch (function : String) (expected actual : Nat)
  /-- A function was called that the module does not export. -/
  | unknownFunction (moduleName function : String)
  /-- A request to a session was not answered as it should be. -/
  | transport (operation endpoint : String) (source : Failure)
  /-- A template could not be registered or rendered. -/
  | template (message : String)
  /-- A value is not one that its field admits. -/
  | validation (field reason : String)
  /-- The configuration is unusable. -/
  | config (message : String)
  /-- A file could not be read or written. -/
  | file (path : String) (source : SystemFailure)
  /-- A value could not be written as JSON. -/
  | serialization (message : String) (source : Option Json.Error)
  /-- A command was given an argument it cannot use. -/
  | invalidArgument (message : String)

/-- What a command fails with. -/
inductive Failure
  /-- A cause of another kind, with the texts of its own causes after its own. -/
  | plain (texts : List String)
  /-- A cause that the library reports. -/
  | error (e : Error)
  /-- A failure met while doing what the context says. -/
  | within (context : String) (inner : Failure)

end

/-- The words for an error, without those for its source. -/
def Error.message : Error → String
  | .introspection message => s!"Import error: {message}"
  | .interpreter message _ => s!"Python parser process failed: {message}"
  | .arityMismatch function expected actual =>
    s!"Expected {expected} arguments, but got {actual} (calling '{function}')"
  | .unknownFunction moduleName function =>
    s!"Module '{moduleName}' has no exported function '{function}'"
  | .transport operation endpoint _ => s!"Request '{operation}' to {endpoint} failed"
  | .template message => s!"Template error: {message}"
  | .validation field reason => s!"Validation error in {field}: {reason}"
  | .config message => s!"Configuration error: {message}"
  | .file path source => s!"I/O error at {path}: {source.message}"
  | .serialization message _ => s!"Serialization error: {message}"
  | .invalidArgument message => s!"Invalid argument: {message}"

mutual

/-- The texts of an error and of its sources, outermost first. -/
def Error.chain : Error → List String
  | .interpreter message (some source) =>
    (Error.interpreter message (some source)).message :: source.chain
  | .transport operation endpoint source =>
    s!"Request '{operation}' to {endpoint} failed" :: source.chain
  | .file path source => (Error.file path source).message :: source.chain
  | .serialization message (some source) =>
    [(Error.serialization message (some source)).message, source.message]
  | e => [e.message]

/-- The texts of a failure, outermost first. -/
def Failure.chain : Failure → List String
  | .plain texts => texts
  | .error e => e.chain
  | .within context inner => context :: inner.chain

end

/-- The texts of a failure in one line. -/
def Failure.message (failure : Failure) : String :=
  Text.joinWith ": " failure.chain

/-- The first error of a failure. -/
def Failure.error? : Failure → Option Error
  | .plain _ => none
  | .error e => some e
  | .within _ inner => inner.error?

/-- The exit code that stands for an error. -/
def Error.exitCode : Error → ExitCode
  | .introspection _ | .interpreter .. => .introspectionFailure
  | .transport .. => .serverFailure
  | .arityMismatch .. | .unknownFunction .. | .validation .. | .config _ | .invalidArgument _ =>
    .invalidInput
  | .template _ | .file .. | .serialization .. => .failure

/-- The exit code of a failure: that of its first error. Reference: `exit_code_for`. -/
def Failure.exitCode (failure : Failure) : ExitCode :=
  match failure.error? with
  | some e => e.exitCode
  | none => .failure

namespace Error

/-- Is the cause found while a source was introspected? Reference: `is_introspection_error`. -/
def isIntrospection : Error → Bool
  | .introspection _ | .interpreter .. => true
  | _ => false

/-- Is the cause a wrong number of arguments? Reference: `is_arity_error`. -/
def isArity : Error → Bool
  | .arityMismatch .. => true
  | _ => false

/-- Is the cause a request without a proper answer? Reference: `is_transport_error`. -/
def isTransport : Error → Bool
  | .transport .. => true
  | _ => false

/-- Is the cause the configuration? Reference: `is_config_error`. -/
def isConfig : Error → Bool
  | .config _ => true
  | _ => false

/-- Is the cause a value that its field does not admit? Reference: `is_validation_error`. -/
def isValidation : Error → Bool
  | .validation .. => true
  | _ => false

/-- Is the cause a template? Reference: `is_template_error`. -/
def isTemplate : Error → Bool
  | .template _ => true
  | _ => false

/-- Is the cause a function that is not exported? Reference: `is_unknown_function`. -/
def isUnknownFunction : Error → Bool
  | .unknownFunction .. => true
  | _ => false

end Error

end ModuleBridge
