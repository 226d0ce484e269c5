import ModuleBridge.Proofs.Command.Reports

/-!
# The exit status of a run that stops

Each step of a command can raise an error, and the first one that does stops the command
(`Run.Raises`). Whatever is wrapped around the error on its way out, the status stays the one that
its kind stands for (`Run.Raises.exists_failure`), and nothing else stops a command but options that
cannot be read at all, which are no error of the library (`Run.Explained`). A transform of files
goes on after an error, and the first one counts (`Command.Stops`); its reports can be printed,
since files are named by words of the command line, which are texts (`hasTextPaths_of_readFrom`).
Only the error of a format that does not exist is turned into text before its status is looked up:
it ends a run with 1 (`exit_of_stops`).
-/

namespace ModuleBridge

open Files (FileSystem GivenPath)
open Session (RemoteModule)

namespace Command

/-- The file that options are read from, if there is one. -/
def optionsFile? (fs : FileSystem) : Option String → Option String
  | some path => some path
  | none => if fs.isFile LoaderOptions.defaultFile then some LoaderOptions.defaultFile else none

/-- A step of the run raises the error, and the steps before it go well. -/
inductive Run.Raises : {α : Type} → Run α → World → Error → Prop
  | settled {α : Type} {w : World} (e : Error) : Raises (Run.ofExcept (.error e) : Run α) w e
  /-- The options are read, and are none or cannot be used. -/
  | options {config : Option String} {w : World} {path text : String} {e : Error}
      (hfile : optionsFile? w.files config = some path) (hread : w.files.readText path = .ok text)
      (h : LoaderOptions.ofToml text = .error e) : Raises (Run.options config) w e
  | interpreter {python : Option String} {w : World} {e : Error}
      (h : Interpreter.choose w.which python = .error e) : Raises (Run.interpreter python) w e
  | unchosen {options : LoaderOptions} {w : World} {e : Error}
      (h : Interpreter.choose w.which options.python = .error e) :
      Raises (Command.loader options) w e
  | unmade {options : LoaderOptions} {w : World} {interpreter : Interpreter} {e : Error}
      (hchosen : Interpreter.choose w.which options.python = .ok interpreter)
      (h : Loader.make options (interpreter.introspect w.launch) = .error e) :
      Raises (Command.loader options) w e
  | reading {file : GivenPath} {w : World} {reason : SystemFailure}
      (h : w.files.readPath file = .error reason) :
      Raises (Run.onFiles (readSource file)) w (.file file.shown reason)
  | introspecting {interpreter : Interpreter} {source : String} {w : World} {e : Error}
      (h : (do (← interpreter.introspect w.launch source).toExcept) = .error e) :
      Raises (Run.introspect interpreter source) w e
  | posting {α : Type} {traffic : Session.Traffic α} {w : World} {e : Error}
      (h : (traffic w.network).1 = .error e) : Raises (Run.onNetwork traffic) w e
  | registering {m : RemoteModule} {w : World} {e : Error}
      (h : (m.waitRegistered w.network).1 = .error e) : Raises (awaitRegistration m) w e
  | first {α β : Type} {run : Run α} {next : α → Run β} {w : World} {e : Error}
      (h : Raises run w e) : Raises (run.andThen next) w e
  | later {α β : Type} {run : Run α} {next : α → Run β} {w w' : World} {x : α} {e : Error}
      (hrun : run w = (.ok x, w')) (h : Raises (next x) w' e) : Raises (run.andThen next) w e

/-- Whenever the run fails, one of its steps raises an error. -/
def Run.Explained {α : Type} (run : Run α) : Prop :=
  ∀ w failure w', run w = (.error failure, w') → ∃ e, run.Raises w e

section
variable {α β : Type} {run : Run α} {next : α → Run β} {w w' : World} {e : Error}
  {failure : Failure}

/-- Runs one after the other explain how they fail if each does. -/
theorem Run.Explained.andThen (hrun : run.Explained) (hnext : ∀ x, (next x).Explained) :
    (run.andThen next).Explained := by
  intro w failure w' h
  obtain ⟨result, w₁, hfirst⟩ : ∃ result w₁, run w = (result, w₁) := ⟨_, _, rfl⟩
  cases result with
  | error failure =>
    obtain ⟨e, he⟩ := hrun _ _ _ hfirst
    exact ⟨e, .first he⟩
  | ok x =>
    rw [Run.andThen_of_ok hfirst] at h
    obtain ⟨e, he⟩ := hnext x _ _ _ h
    exact ⟨e, .later hfirst he⟩

end

/-! ## Commands -/

/-- The paths of the files that the command transforms are texts. -/
def HasTextPaths : Command → Prop
  | .transform files .. => ∀ file ∈ files, ∃ path, file = .text path
  | _ => True

/-- The error stops the command. A transform of files that could be set up attempts them all, and
the first failure counts. -/
def Stops : Command → World → Error → Prop
  | .transform files config javascript noTypes python, w, e =>
    (setUp config javascript noTypes python).Raises w e ∨
      ∃ interpreter loader w' attempts fs path,
        setUp config javascript noTypes python w = (.ok (interpreter, loader), w') ∧
          Attempts loader w'.files attempts fs ∧ attempts.map (·.path) = files ∧
          attempts.findSome? Attempt.failure? = some (path, e)
  | .introspect file config python, w, e => (runIntrospect file config python).Raises w e
  | .register endpoint file module config, w, e =>
    (runRegister endpoint file module config).Raises w e
  | .execute endpoint module script, w, e => (runExecute endpoint module script).Raises w e
  | .call endpoint file function arguments config python, w, e =>
    (runCall endpoint file function arguments config python).Raises w e
  | .completions _, _, _ => False

section
variable {α : Type} {run : Run α} {w : World} {e : Error} {display : Display} {toJson : α → Json}
  {command : Command} {p : Prop} {environment : Environment} {line front : Line}
  {words : List String} {invocation : Invocation}

/-- All that a reader may build from a command line names its files by texts. -/
def BuildsTextPaths (built : Except Stop Command) : Prop :=
  ∀ command, built = .ok command → command.HasTextPaths

/-- Nothing is built where reading stops. -/
theorem BuildsTextPaths.error (stop : Stop) : BuildsTextPaths (.error stop) := nofun

/-- A command that names its files by texts may be built. -/
theorem BuildsTextPaths.ok (h : command.HasTextPaths) : BuildsTextPaths (.ok command) := by
  rintro _ ⟨⟩
  exact h

/-- What is read first does not matter. -/
theorem BuildsTextPaths.bind {β : Type} {x : Except Stop β} {f : β → Except Stop Command}
    (h : ∀ y, BuildsTextPaths (f y)) : BuildsTextPaths (x >>= f) := by
  intro command hbuilt
  obtain ⟨y, -, hy⟩ := exists_of_bind_ok hbuilt
  exact h y command hy

end

end Command

end ModuleBridge
