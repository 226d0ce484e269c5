import ModuleBridge.Proofs.Command.Call
import ModuleBridge.Proofs.Command.OneFile
import ModuleBridge.Proofs.Generation.Bindings
import ModuleBridge.Proofs.Report.Printed
import ModuleBridge.Proofs.Text.Utf8

/-!
# What a transform reports

A transform attempts one file after the other, each in what the attempts before it have left
(`Attempts`), and collects what comes of them (`Attempts.transformFiles_eq`). An attempt that gives
a report has written just the paths in it, with as many bytes as it says (`describes_of_ok`). The
printed reports, the complaints, the sources that were introspected and the exit code of the whole
run are read off the attempts (`exists_recorded`), unless a report is of a file whose path is no
text: then nothing is printed and the run fails, whether or not a file did
(`transform_unreported`).
-/

namespace ModuleBridge

open Files (FileSystem GivenPath siblingPath writeFiles)

/-! ## What is generated -/

section
variable {package source path : String} {moduleName : ModuleName}
  {functions : List FunctionSignature} {loader : Loader} {g : GeneratedModule}

/-- What is generated with declarations is the code of the module and its declarations. -/
theorem Generation.exists_of_generate
    (h : generate package moduleName source functions true = .ok g) :
    ∃ text types, g = ⟨text, some types⟩ ∧
      code package moduleName source functions = .ok text := by
  obtain ⟨text, htext, h⟩ := exists_of_bind_ok h
  obtain ⟨types, -, h⟩ := exists_of_bind_ok h
  cases h
  exact ⟨text, types, rfl, htext⟩

/-- A loader that was made has a package that code can import. -/
theorem Loader.of_make {options : LoaderOptions} {introspect : Introspector}
    (h : make options introspect = .ok loader) :
    loader = ⟨options, introspect⟩ ∧
      Generation.checkRuntimePackage options.runtimePackage = .ok () := by
  obtain ⟨_, -, h⟩ := exists_of_bind_ok h
  obtain ⟨_, hpackage, h⟩ := exists_of_bind_ok h
  cases h
  exact ⟨rfl, hpackage⟩

/-- What is written for a module: its code and its declarations, each if the options say so. -/
theorem Loader.mem_siblings_iff {options : LoaderOptions} {file : String} :
    file ∈ siblings options path ↔
      (options.generateJavascript = true ∧ file = siblingPath path ".js") ∨
        (options.generateTypeDefinitions = true ∧ file = siblingPath path ".d.ts") := by
  rw [siblings, List.mem_append]
  cases options.generateJavascript <;> cases options.generateTypeDefinitions <;> simp

/-- The code that is generated for a file makes sessions of the file's module with its source. -/
theorem Loader.presents_of_generate
    (hpackage : Generation.checkRuntimePackage loader.options.runtimePackage = .ok ())
    (h : loader.generate source path = .ok g) :
    ∃ text types f, g = ⟨text, some types⟩ ∧ Generation.Presents text (.ofId path) f ∧
      f.moduleName = (ModuleName.ofId path).text ∧ f.source = source := by
  obtain ⟨parsed, -, h⟩ := exists_of_bind_ok h
  obtain ⟨m, -, h⟩ := exists_of_bind_ok h
  obtain ⟨p, hp⟩ := Generation.exists_plan_of_generate h
  obtain ⟨text, types, rfl, htext⟩ := Generation.exists_of_generate h
  obtain ⟨text', htext', hpresents⟩ := Generation.presents_code source hp hpackage
  cases Except.ok.inj (htext.symm.trans htext')
  exact ⟨text, types, _, rfl, hpresents, rfl, rfl⟩

end

/-! ## Attempts -/

/-- One file of a transform, with the system before it, what comes of it and the system after it. -/
structure Attempt where
  path : GivenPath
  before : FileSystem
  result : Except Error TransformReport
  after : FileSystem

namespace Attempt

/-- The report, if there is one. -/
def report? (a : Attempt) : Option TransformReport := a.result.toOption

/-- What went wrong, with the file it went wrong for. -/
def failure? (a : Attempt) : Option (GivenPath × Error) :=
  match a.result with
  | .ok _ => none
  | .error e => some (a.path, e)

/-- The source that was introspected, if it came to that. -/
def source? (a : Attempt) : Option String := introspectedSource? a.before a.path

end Attempt

/-- Files are attempted one after the other, from one system to another. -/
inductive Attempts (loader : Loader) : FileSystem → List Attempt → FileSystem → Prop
  | done (fs : FileSystem) : Attempts loader fs [] fs
  | next {a : Attempt} {rest : List Attempt} {fs : FileSystem}
      (h : loader.transformFile a.path a.before = (a.result, a.after))
      (hrest : Attempts loader a.after rest fs) : Attempts loader a.before (a :: rest) fs

/-- What a report says of an attempt is so: the module is the one whose sessions the code makes, the
sizes are those of what was generated, and the paths are those that were written, in one step, with
what was generated. -/
structure Describes (loader : Loader) (a : Attempt) (report : TransformReport)
    (source code types : String) : Prop where
  read : a.before.readPath a.path = .ok source
  generate : loader.generate source a.path.shown = .ok ⟨code, some types⟩
  file : report.file = a.path
  module : ∃ f, Generation.Presents code ⟨report.module⟩ f ∧ f.moduleName = report.module ∧
    f.source = source
  codeBytes : report.codeBytes = (Text.Utf8.bytes code).length
  declarationBytes : report.declarationBytes = (Text.Utf8.bytes types).length
  siblings : report.written = Loader.siblings loader.options a.path.shown
  written : ∃ files, writeFiles files a.before = (.ok (), a.after) ∧
    report.written = files.map (·.1)
  contents : Loader.Written loader.options a.path.shown ⟨code, none, false, types⟩ a.before a.after
  sizes : ∀ path ∈ report.written, ∃ bytes, a.after.read path = .ok bytes ∧
    (path = siblingPath a.path.shown ".js" ∧ bytes.length = report.codeBytes ∨
      path = siblingPath a.path.shown ".d.ts" ∧ bytes.length = report.declarationBytes)

section
variable {loader : Loader} {a : Attempt} {attempts rest : List Attempt} {fs fs' : FileSystem}
  {report : TransformReport}

/-- An attempt that gives a report is described by it. -/
theorem describes_of_ok
    (hpackage : Generation.checkRuntimePackage loader.options.runtimePackage = .ok ())
    (h : loader.transformFile a.path a.before = (.ok report, a.after)) :
    ∃ source code types, Describes loader a report source code types := by
  cases hgenerated : loader.generated? a.before a.path with
  | none =>
    obtain ⟨e, he⟩ := Loader.transformFile_of_not_generated hgenerated
    cases h.symm.trans he
  | some g =>
    obtain ⟨source, hsource, hg⟩ := Option.bind_eq_some_iff.1 hgenerated
    have hread := (Loader.introspectedSource?_eq_some_iff.1 hsource).2
    have hgenerate : loader.generate source a.path.shown = .ok g := by
      cases hresult : loader.generate source a.path.shown with
      | error e =>
        rw [hresult] at hg
        cases hg
      | ok g' =>
        rw [hresult] at hg
        cases hg
        rfl
    obtain ⟨code, types, f, rfl, hpresents, hname, hcontents⟩ :=
      Loader.presents_of_generate hpackage hgenerate
    have htransform := Loader.transformFile_of_generated hgenerated
    cases hwrite : writeFiles (loader.filesOf a.path.shown ⟨code, some types⟩) a.before with
    | mk result after =>
      rw [h, hwrite] at htransform
      cases result with
      | error e => cases htransform
      | ok u =>
        cases htransform
        have hwritten := Loader.written_of_writeFiles_outputs hwrite
        have hcode := Text.Utf8.length_bytes code
        have htypes := Text.Utf8.length_bytes types
        refine ⟨source, code, types, hread, hgenerate, rfl, ⟨f, hpresents, hname, hcontents⟩,
          hcode.symm, htypes.symm, rfl, ⟨_, hwrite, (Loader.map_fst_outputs ..).symm⟩, hwritten,
          fun path hpath => ?_⟩
        rcases Loader.mem_siblings_iff.1 hpath with ⟨hj, rfl⟩ | ⟨ht, rfl⟩
        · exact ⟨_, hwritten.code hj, .inl ⟨rfl, hcode⟩⟩
        · exact ⟨_, hwritten.declarations ht, .inr ⟨rfl, htypes⟩⟩

/-- Any files can be attempted in their order. -/
theorem exists_attempts (loader : Loader) (files : List GivenPath) (fs : FileSystem) :
    ∃ attempts fs', Attempts loader fs attempts fs' ∧ attempts.map (·.path) = files := by
  induction files generalizing fs with
  | nil => exact ⟨[], fs, .done fs, rfl⟩
  | cons path files ih =>
    obtain ⟨result, fs₁, htransform⟩ :
        ∃ result fs₁, loader.transformFile path fs = (result, fs₁) := ⟨_, _, rfl⟩
    obtain ⟨attempts, fs', hattempts, hpaths⟩ := ih fs₁
    exact ⟨_, fs', .next (a := ⟨path, fs, result, fs₁⟩) htransform hattempts,
      congrArg (path :: ·) hpaths⟩

/-- A transform of files collects what comes of its attempts. -/
theorem Attempts.transformFiles_eq (h : Attempts loader fs attempts fs') :
    Command.transformFiles loader (attempts.map (·.path)) fs =
      (⟨attempts.filterMap Attempt.report?, attempts.filterMap Attempt.failure?,
        attempts.filterMap Attempt.source?⟩, fs') := by
  induction h with
  | done => rfl
  | @next a rest fs' h _ ih =>
    have hrun : Command.transformFiles loader ((a :: rest).map (·.path)) a.before =
        ((Command.Transformed.ofFile a.path a.source? a.result).append
            (Command.transformFiles loader (rest.map (·.path)) a.after).1,
          (Command.transformFiles loader (rest.map (·.path)) a.after).2) := by
      simp only [List.map_cons, Command.transformFiles, h, Attempt.source?]
    rw [hrun, ih]
    cases hresult : a.result with
    | ok report =>
      have hreport : a.report? = some report := by rw [Attempt.report?, hresult]; rfl
      have hfailure : a.failure? = none := by rw [Attempt.failure?, hresult]
      rw [List.filterMap_cons_some hreport, List.filterMap_cons_none hfailure, List.filterMap_cons]
      cases a.source? <;> rfl
    | error e =>
      have hreport : a.report? = none := by rw [Attempt.report?, hresult]; rfl
      have hfailure : a.failure? = some (a.path, e) := by rw [Attempt.failure?, hresult]
      rw [List.filterMap_cons_none hreport, List.filterMap_cons_some hfailure, List.filterMap_cons]
      cases a.source? <;> rfl

/-- Each attempt is a transform of its file. -/
theorem Attempts.transformFile_eq (h : Attempts loader fs attempts fs') (ha : a ∈ attempts) :
    loader.transformFile a.path a.before = (a.result, a.after) := by
  induction h with
  | done => cases ha
  | next h _ ih =>
    cases ha with
    | head => exact h
    | tail _ ha => exact ih ha

/-- An attempt did not fail exactly if it has a report. -/
theorem Attempt.failure?_eq_none_iff : a.failure? = none ↔ ∃ report, a.result = .ok report := by
  unfold failure?
  cases a.result with
  | ok report => exact iff_of_true rfl ⟨report, rfl⟩
  | error e => exact iff_of_false nofun nofun

end

/-! ## Runs -/

namespace Command

/-- Sets up a transform: its options, its interpreter and its loader. -/
def setUp (config : Option String) (javascript noTypes : Bool) (python : Option String) :
    Run (Interpreter × Loader) :=
  (Run.options config).andThen fun options =>
    loader (applyOverrides options javascript noTypes python)

/-- What attempts leave on the error stream: a line for each that failed. -/
def complaints (display : Display) (attempts : List Attempt) : String :=
  String.join ((attempts.filterMap Attempt.failure?).map fun (path, e) =>
    display.complaint s!"{path.shown}: {Failure.message (.error e)}")

/-- What attempts lead to: the reports of those that succeeded are printed in their order, and the
exit code is success if none failed and otherwise that of the first failure. -/
structure Reported (display : Display) (attempts : List Attempt) (ending : Ending) : Prop where
  output : ∃ text, ending.output = text ++ "\n" ∧
    Report.Shows display.format display.isColoured (attempts.filterMap Attempt.report?) text
  errors : ending.errors = complaints display attempts
  exit_eq_success_iff : ending.exit = .success ↔ ∀ a ∈ attempts, ∃ report, a.result = .ok report
  /-- The first failure decides, whatever comes after it. -/
  exit_of_first : ∀ front a back e, attempts = front ++ a :: back →
    (∀ b ∈ front, ∃ report, b.result = .ok report) → a.result = .error e → ending.exit = e.exitCode

/-- What attempts lead to whose reports cannot be printed. -/
structure Unreported (display : Display) (attempts : List Attempt) (ending : Ending) : Prop where
  output : ending.output = ""
  errors : ending.errors = complaints display attempts ++
    display.complaint "path contains invalid UTF-8 characters"
  exit : ending.exit = .failure

/-- What a transform of files leaves behind, in terms of its attempts. -/
structure Recorded (display : Display) (interpreter : Interpreter) (loader : Loader)
    (files : List GivenPath) (w : World) (attempts : List Attempt) (ending : Ending) : Prop where
  steps : Attempts loader w.files attempts ending.world.files
  /-- Every file is attempted once, in its order. -/
  paths : attempts.map (·.path) = files
  launched : ending.world.launched =
    w.launched ++ (attempts.filterMap Attempt.source?).map interpreter.launchFor
  describes : ∀ a ∈ attempts, ∀ report, a.result = .ok report →
    ∃ source code types, Describes loader a report source code types
  /-- The attempts are reported on exactly if the paths of those that succeeded are texts. -/
  reported_iff : Reported display attempts ending ↔
    Report.Printable (attempts.filterMap Attempt.report?)
  unreported : ¬ Report.Printable (attempts.filterMap Attempt.report?) →
    Unreported display attempts ending

section
variable {t : Transformed} {attempts front back : List Attempt} {a : Attempt} {e : Error}
  {display : Display} {interpreter : Interpreter} {options : LoaderOptions} {loader : Loader}
  {files : List GivenPath} {config python : Option String} {javascript noTypes : Bool} {w : World}

/-- A transform ends well exactly if nothing went wrong. -/
theorem Transformed.exitCode_eq_success_iff : t.exitCode = .success ↔ t.failures = [] := by
  unfold exitCode
  split
  · next h => exact iff_of_true rfl h
  · next e rest h => exact iff_of_false (Error.exitCode_ne_success e) (by rw [h]; exact nofun)

/-- The exit code is that of the first attempt that failed. -/
theorem Transformed.exitCode_of_first
    (h : t.failures = (front ++ a :: back).filterMap Attempt.failure?)
    (hfront : ∀ b ∈ front, b.failure? = none) (ha : a.result = .error e) :
    t.exitCode = e.exitCode := by
  have hnone : front.filterMap Attempt.failure? = [] := List.filterMap_eq_nil_iff.2 hfront
  have hsome : a.failure? = some (a.path, e) := by rw [Attempt.failure?, ha]
  rw [List.filterMap_append, hnone, List.nil_append, List.filterMap_cons_some hsome] at h
  rw [exitCode, h]

/-- A transform sets up its loader and then works on its files. -/
theorem run_transform (display : Display) (files : List GivenPath) (config : Option String)
    (javascript noTypes : Bool) (python : Option String) (w : World) :
    (Command.transform files config javascript noTypes python).run display w =
      display.finishTransform files (setUp config javascript noTypes python) w := rfl

/-- Reports are printed if their paths are texts. -/
theorem reports_of_printable (display : Display) {reports : List TransformReport}
    (h : Report.Printable reports) :
    display.reports reports = .ok (display.format.print display.isColoured
      (.array (reports.map TransformReport.toJson)) ++ "\n") := by
  rw [Display.reports, Report.mapM_serialize_eq_ok_iff.2 ⟨h, rfl⟩]
  rfl

/-- No reports are printed if one path is no text. -/
theorem reports_of_not_printable (display : Display) {reports : List TransformReport}
    (h : ¬ Report.Printable reports) :
    display.reports reports = .error (.plain ["path contains invalid UTF-8 characters"]) := by
  rw [Display.reports, Report.mapM_serialize_of_not_printable h]
  rfl

/-- A transform whose options, interpreter and loader could be set up attempts every file once, in
their order, and each report is true of its attempt. Unless the path of a file that was transformed
is no text, the run prints the reports of the attempts that succeeded, in their order, and ends with
success if none failed and otherwise with the exit code of the first failure. If there is such a
path, the run prints nothing and fails. Reference: `transform::run`. -/
theorem exists_recorded (hoptions : LoaderOptions.loadFrom w.files config = .ok options)
    (hinterpreter : Interpreter.choose w.which
      (applyOverrides options javascript noTypes python).python = .ok interpreter)
    (hloader : Loader.make (applyOverrides options javascript noTypes python)
      (interpreter.introspect w.launch) = .ok loader) (display : Display)
    (files : List GivenPath) :
    ∃ attempts, Recorded display interpreter loader files w attempts
      ((Command.transform files config javascript noTypes python).run display w) := by
  obtain ⟨rfl, hpackage⟩ := Loader.of_make hloader
  have hsetup : setUp config javascript noTypes python w =
      (.ok (interpreter, ⟨applyOverrides options javascript noTypes python,
        interpreter.introspect w.launch⟩), w) := by
    rw [setUp, Run.andThen_of_ok (Run.options_of_ok hoptions), Command.loader,
      Run.interpreter_of_ok hinterpreter]
    simp only [hloader]
  obtain ⟨attempts, fs', hattempts, rfl⟩ := exists_attempts
    ⟨applyOverrides options javascript noTypes python, interpreter.introspect w.launch⟩ files
    w.files
  have hdescribes : ∀ a ∈ attempts, ∀ report, a.result = .ok report →
      ∃ source code types, Describes ⟨applyOverrides options javascript noTypes python,
        interpreter.introspect w.launch⟩ a report source code types := by
    intro a ha report hreport
    have htransform := hattempts.transformFile_eq ha
    rw [hreport] at htransform
    exact describes_of_ok hpackage htransform
  rw [run_transform, Display.finishTransform, hsetup]
  simp only [hattempts.transformFiles_eq]
  refine ⟨attempts, ?_⟩
  by_cases hp : Report.Printable (attempts.filterMap Attempt.report?)
  · rw [reports_of_printable display hp]
    refine ⟨hattempts, rfl, rfl, hdescribes, iff_of_true ?_ hp, fun h => absurd hp h⟩
    refine ⟨⟨_, rfl, Report.shows_print hp _ _⟩, rfl, ?_, ?_⟩
    · rw [Transformed.exitCode_eq_success_iff, List.filterMap_eq_nil_iff]
      exact forall₂_congr fun a _ => Attempt.failure?_eq_none_iff
    · intro front a back e hsplit hfront ha
      rw [hsplit]
      exact Transformed.exitCode_of_first rfl
        (fun b hb => Attempt.failure?_eq_none_iff.2 (hfront b hb)) ha
  · rw [reports_of_not_printable display hp]
    refine ⟨hattempts, rfl, rfl, hdescribes, iff_of_false ?_ hp, fun _ => ⟨rfl, rfl, rfl⟩⟩
    -- a report ends in a line feed, and nothing was printed
    rintro ⟨⟨text, htext, -⟩, -, -, -⟩
    have hempty := congrArg String.toList (htext : "" = text ++ "\n")
    simp at hempty

end

/-- A world with one module and an interpreter that finds no function in any source. -/
def plainWorld : World where
  files := { entries := [([.named "m.py"], .file [])] }
  network := { outcome := fun _ => .dropped }
  launch _ := .ok {
    status := .code 0
    output := Text.Utf8.bytes "\x7b\"functions\":[]\x7d"
    errors := [] }
  which name := if name = "python3" then some "/bin/python3" else none

/-- What is no Python file fails first, so a file that is not there does not decide. -/
theorem exists_recorded_mixed :
    ((Command.transform ["m.txt", "m.py", "n.py"] none true false none).run ⟨.json, false⟩
        plainWorld).exit = .invalidInput ∧
      ∃ loader attempts, loader.options.generateJavascript = true ∧
        Recorded ⟨.json, false⟩ { program := "/bin/python3" } loader ["m.txt", "m.py", "n.py"]
          plainWorld attempts
          ((Command.transform ["m.txt", "m.py", "n.py"] none true false none).run ⟨.json, false⟩
            plainWorld) := by
  have hoptions : LoaderOptions.loadFrom plainWorld.files none = .ok {} := rfl
  have hinterpreter : Interpreter.choose plainWorld.which
      (applyOverrides {} true false none).python = .ok { program := "/bin/python3" } := rfl
  have hloader : Loader.make (applyOverrides {} true false none)
      (Interpreter.introspect { program := "/bin/python3" } plainWorld.launch) =
        .ok ⟨applyOverrides {} true false none,
          Interpreter.introspect { program := "/bin/python3" } plainWorld.launch⟩ := rfl
  obtain ⟨attempts, hrecorded⟩ :=
    exists_recorded hoptions hinterpreter hloader ⟨.json, false⟩ ["m.txt", "m.py", "n.py"]
  exact ⟨by decide +kernel, _, attempts, rfl, hrecorded⟩

/-- A path that is no text, of a Python file. -/
def rawPath : GivenPath := .raw [0xFF, 0x2E, 0x70, 0x79] (by decide +kernel)

/-- The world with one module at that path. -/
def rawWorld : World :=
  { plainWorld with files := { foreign := [([0xFF, 0x2E, 0x70, 0x79], .ok [])] } }

/-- A file whose path is no text is transformed and nothing goes wrong, but its report is not
printed and the run fails. -/
theorem transform_unreported :
    let loader : Loader := ⟨applyOverrides {} true false none,
      Interpreter.introspect { program := "/bin/python3" } rawWorld.launch⟩
    let transformed := (transformFiles loader [rawPath] rawWorld.files).1
    let ending := (Command.transform [rawPath] none true false none).run ⟨.json, false⟩ rawWorld
    transformed.reports.length = 1 ∧ transformed.failures = [] ∧
      ending.output = "" ∧ ending.exit = .failure :=
  ⟨by decide +kernel, by decide +kernel, by decide +kernel, by decide +kernel⟩

end Command

end ModuleBridge
