import ModuleBridge.Signature
import ModuleBridge.Text.Blank
import ModuleBridge.Text.Utf8

/-!
# Introspection by an interpreter

A source is introspected by an interpreter that runs a helper: the source goes to its standard
input, and the answer comes from its standard output. How a program is started is given from
outside, as a function from the program with its arguments and its input to what becomes of it.
-/

namespace ModuleBridge

/-- How a process ended. -/
inductive ExitStatus
  | code (value : Nat)
  | signal (number : Nat)
  /-- It could not be waited for, so nothing is known of its end or of what it has written. -/
  | lost (failure : SystemFailure)
  deriving DecidableEq, Repr

namespace ExitStatus

/-- The names of the signals, from the first. -/
def signalNames : List String := [
  "SIGHUP", "SIGINT", "SIGQUIT", "SIGILL", "SIGTRAP", "SIGABRT", "SIGBUS", "SIGFPE", "SIGKILL",
  "SIGUSR1", "SIGSEGV", "SIGUSR2", "SIGPIPE", "SIGALRM", "SIGTERM", "SIGSTKFLT", "SIGCHLD",
  "SIGCONT", "SIGSTOP", "SIGTSTP", "SIGTTIN", "SIGTTOU", "SIGURG", "SIGXCPU", "SIGXFSZ",
  "SIGVTALRM", "SIGPROF", "SIGWINCH", "SIGIO", "SIGPWR", "SIGSYS"]

/-- Did the process end well? -/
def isSuccess (status : ExitStatus) : Bool :=
  status = .code 0

/-- The words for a status. -/
def describe : ExitStatus → String
  | .code value => s!"exit status: {value}"
  | .signal number =>
    match number with
    | 0 => "signal: 0"
    | index + 1 =>
      match signalNames[index]? with
      | some name => s!"signal: {number} ({name})"
      | none => s!"signal: {number}"
  | .lost failure => failure.message

end ExitStatus

/-- What became of a process that was started. -/
structure Completed where
  /-- Whether its input could be written. -/
  written : Except SystemFailure Unit := .ok ()
  status : ExitStatus
  output : List UInt8
  errors : List UInt8

/-- A program that is to be started, with its arguments and its input. -/
structure Launch where
  program : String
  arguments : List String
  input : List UInt8
  deriving DecidableEq, Repr

/-- Starts a program. -/
abbrev Launcher := Launch → Except SystemFailure Completed

/-- Introspects a source. Reference: `PythonParser`. -/
abbrev Introspector := (source : String) → Except Error ParsedModule

/-- The helper that an interpreter runs. Reference: `PARSE_SCRIPT`. -/
def helperScript : String :=
  Text.joinWith "\n" [
    "\"\"\"Report the exported top-level functions of a Python module as JSON.",
    "",
    "Reads source from stdin (or the file named by the first argument) and prints",
    "either \x7b\"functions\": [\x7b\"name\": ..., \"parameters\": [...]\x7d]\x7d or \x7b\"error\": ...\x7d.",
    "\"\"\"",
    "",
    "import ast",
    "import json",
    "import sys",
    "",
    "",
    "def literal_names(node):",
    "    if isinstance(node, (ast.List, ast.Tuple)):",
    "        return \x7b",
    "            elt.value",
    "            for elt in node.elts",
    "            if isinstance(elt, ast.Constant) and isinstance(elt.value, str)",
    "        \x7d",
    "    if isinstance(node, ast.BinOp) and isinstance(node.op, ast.Add):",
    "        return literal_names(node.left) | literal_names(node.right)",
    "    return set()",
    "",
    "",
    "def is_all(target):",
    "    return isinstance(target, ast.Name) and target.id == \"__all__\"",
    "",
    "",
    "def declared_exports(tree):",
    "    # The last binding of __all__ wins. Entries that are not string literals",
    "    # cannot be resolved statically and export nothing.",
    "    exports = None",
    "    for node in tree.body:",
    "        if isinstance(node, ast.Assign) and any(is_all(t) for t in node.targets):",
    "            exports = literal_names(node.value)",
    "        elif isinstance(node, ast.AnnAssign) and is_all(node.target) and node.value is not None:",
    "            exports = literal_names(node.value)",
    "        elif isinstance(node, ast.AugAssign) and is_all(node.target):",
    "            exports = (exports or set()) | literal_names(node.value)",
    "    return exports",
    "",
    "",
    "def positional_parameters(node):",
    "    return [arg.arg for arg in list(node.args.posonlyargs) + list(node.args.args)]",
    "",
    "",
    "def exported_functions(tree):",
    "    exports = declared_exports(tree)",
    "    found = \x7b\x7d",
    "    for node in tree.body:",
    "        if not isinstance(node, ast.FunctionDef):",
    "            continue",
    "        if exports is None:",
    "            if node.name.startswith(\"_\"):",
    "                continue",
    "        elif node.name not in exports:",
    "            continue",
    "        found[node.name] = positional_parameters(node)",
    "    return [\x7b\"name\": name, \"parameters\": params\x7d for name, params in found.items()]",
    "",
    "",
    "def describe(source):",
    "    try:",
    "        tree = ast.parse(source)",
    "        return \x7b\"functions\": exported_functions(tree)\x7d",
    "    except Exception as exc:  # noqa: BLE001",
    "        return \x7b\"error\": str(exc)\x7d",
    "",
    "",
    "def main():",
    "    try:",
    "        if len(sys.argv) > 1:",
    "            with open(sys.argv[1], \"r\", encoding=\"utf-8\") as handle:",
    "                source = handle.read()",
    "        else:",
    "            source = sys.stdin.read()",
    "        result = describe(source)",
    "    except Exception as exc:  # noqa: BLE001",
    "        result = \x7b\"error\": str(exc)\x7d",
    "    print(json.dumps(result))",
    "",
    "",
    "if __name__ == \"__main__\":",
    "    main()",
    ""]

/-- An interpreter, with what it is told to run. Reference: `SubprocessParser`. -/
structure Interpreter where
  program : String
  /-- Arguments in front of the helper. -/
  arguments : List String := []
  helper : String := helperScript
  deriving DecidableEq, Repr

namespace Interpreter

/-- The names under which an interpreter is looked for. Reference: `INTERPRETER_CANDIDATES`. -/
def candidates : List String := ["python3", "python"]

/-- The first interpreter that is found under one of its names. Reference:
`SubprocessParser::detect`. -/
def detect (which : String → Option String) : Except Error Interpreter :=
  match candidates.findSome? which with
  | some program => .ok { program }
  | none =>
    let tried := Text.joinWith ", " candidates
    .error (.config s!"no Python interpreter found on PATH (tried {tried})")

/-- The interpreter that is named, or else the first that is found. Reference:
`SubprocessParser::from_override`. -/
def choose (which : String → Option String) : Option String → Except Error Interpreter
  | some program => .ok { program }
  | none => detect which

/-- The error of an interpreter. Reference: `process_error`. -/
def processError (interpreter : Interpreter) (message : String) (source : Option SystemFailure) :
    Error :=
  .interpreter s!"{interpreter.program}: {message}" source

/-- Is the failure one of writing to a process that has stopped reading? It does no harm. -/
def isHarmless : SystemFailure → Bool
  | .brokenPipe => true
  | _ => false

/-- The module that a completed process reports. -/
def readCompleted (interpreter : Interpreter) (completed : Completed) : Except Error ParsedModule :=
  match completed.status with
  | .lost failure =>
    .error (interpreter.processError "failed to wait for interpreter" (some failure))
  | status =>
    if !status.isSuccess then
      let errors := String.ofList (Text.trimBlanks (Text.Utf8.decodeLossy completed.errors))
      .error (interpreter.processError s!"exited with {status.describe}: {errors}" none)
    else
      match ParsedModule.shape.parse completed.output with
      | .error e => .error (interpreter.processError s!"unreadable parser output: {e.message}" none)
      | .ok m => m.toExcept

/-- How the interpreter is started for a source. -/
def launchFor (interpreter : Interpreter) (source : String) : Launch :=
  ⟨interpreter.program, interpreter.arguments ++ ["-c", interpreter.helper], Text.Utf8.bytes source⟩

/-- The module that a source is, as the interpreter reports it. Reference:
`SubprocessParser::parse`. -/
def introspect (interpreter : Interpreter) (launch : Launcher) : Introspector := fun source =>
  match launch (interpreter.launchFor source) with
  | .error failure =>
    .error (interpreter.processError "failed to start interpreter" (some failure))
  | .ok completed =>
    match completed.written with
    | .error failure =>
      if isHarmless failure then interpreter.readCompleted completed
      else .error (interpreter.processError "failed to write source" (some failure))
    | .ok () => interpreter.readCompleted completed

end Interpreter

end ModuleBridge
