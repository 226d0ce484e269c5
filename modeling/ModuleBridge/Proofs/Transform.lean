import ModuleBridge.Proofs.Files.Siblings
import ModuleBridge.Transform

/-!
# Transforms are all or nothing

A transform writes its siblings in one step, so it fails before anything is changed or in
`Files.writeFiles`. While it stages a sibling the disk may fail in any way, and the file is gone
then. When both are staged, only the declarations could fail after the code was renamed, and they do
not: on a disk that lets files be renamed, a sibling that can be staged has a goal, if the system
takes its path at all.
-/

namespace ModuleBridge.Loader

open Files (FileSystem siblingPath)
open Files.FileSystem (Same)

/-- The paths of the files that are written for a module. -/
def siblings (options : LoaderOptions) (id : String) : List String :=
  (if options.generateJavascript then [siblingPath id ".js"] else []) ++
    if options.generateTypeDefinitions then [siblingPath id ".d.ts"] else []

/-- `fs'` is `fs` after what was generated for a module was written next to it. -/
structure Written (options : LoaderOptions) (id : String) (output : TransformOutput)
    (fs fs' : FileSystem) : Prop where
  working : fs.working = fs'.working
  /-- The code is in its file. -/
  code : options.generateJavascript = true →
    fs'.read (siblingPath id ".js") = .ok (Text.Utf8.bytes output.code)
  /-- The declarations are in theirs. -/
  declarations : options.generateTypeDefinitions = true →
    fs'.read (siblingPath id ".d.ts") = .ok (Text.Utf8.bytes output.typeDefinitions)
  /-- Every other place is as it was. -/
  frame : ∀ place, (∀ path ∈ siblings options id, fs.goal? path ≠ some place) →
    fs'.get? place = fs.get? place
  /-- There are no other temporary files than before. -/
  temporary : ∀ target draw directory,
    fs'.get? (.temporary target draw :: directory) = fs.get? (.temporary target draw :: directory)
  /-- What paths lead to that are no texts is as it was. -/
  foreign : fs.foreign = fs'.foreign

section
variable {loader : Loader} {options : LoaderOptions} {source id code declarations : String}
  {fs fs' : FileSystem}

/-- The outputs go to the siblings. -/
theorem map_fst_outputs (options : LoaderOptions) (id code declarations : String) :
    (outputs options id code declarations).map (·.1) = siblings options id := by
  unfold outputs siblings
  cases options.generateJavascript <;> cases options.generateTypeDefinitions <;> rfl

/-- If writing the outputs fails on a disk that lets files be renamed, nothing has changed. -/
theorem same_of_writeFiles_outputs {e : Error} (hrename : fs.LetsRename)
    (hlimit : options.generateTypeDefinitions = true →
      (siblingPath id ".d.ts").utf8ByteSize ≤ Files.pathLimit)
    (h : Files.writeFiles (outputs options id code declarations) fs = (.error e, fs')) :
    Same fs fs' := by
  refine Files.same_of_writeFiles_error hrename (fun file hf hc => ?_) h
  -- the only output after the first one is that of the declarations
  have hfile : options.generateTypeDefinitions = true ∧ file.1 = siblingPath id ".d.ts" := by
    unfold outputs at hf
    cases hj : options.generateJavascript <;> cases ht : options.generateTypeDefinitions <;>
      simp_all
  obtain ⟨ht, hpath⟩ := hfile
  rw [hpath] at hc ⊢
  exact Files.goal?_siblingPath Files.isName_declarations (hlimit ht) hc

/-- If writing the outputs succeeds, they are next to the module and nothing else has changed. -/
theorem written_of_writeFiles_outputs
    (h : Files.writeFiles (outputs options id code declarations) fs = (.ok (), fs')) :
    Written options id ⟨code, none, false, declarations⟩ fs fs' := by
  have hframe : ∀ place, (∀ path ∈ siblings options id, fs.goal? path ≠ some place) →
      fs'.get? place = fs.get? place := by
    intro place hp
    refine Files.get?_of_writeFiles_ok h fun file hf => hp file.1 ?_
    rw [← map_fst_outputs options id code declarations]
    exact List.mem_map_of_mem hf
  refine ⟨?_, fun hj => ?_, fun ht => ?_, hframe, fun target draw directory => ?_, ?_⟩
  · obtain ⟨-, hsame⟩ := Files.of_writeFiles_ok h
    exact (FileSystem.sameDirectories_putFiles _).working.trans hsame.working
  · rw [outputs, if_pos hj, List.singleton_append] at h
    obtain ⟨hgoals, -⟩ := Files.of_writeFiles_ok h
    obtain ⟨goal, hgoal⟩ := Option.isSome_iff_exists.1 (hgoals _ List.mem_cons_self)
    rw [← List.nil_append (_ :: _)] at h
    refine Files.read_of_writeFiles_ok h fun file hf hg => ?_
    have hpath : file.1 = siblingPath id ".d.ts" := by
      cases ht : options.generateTypeDefinitions <;> simp_all
    rw [hpath, hgoal] at hg
    exact Files.goal?_siblingPath_ne Files.isName_declarations Files.isName_code (by decide) hg
      hgoal rfl
  · rw [outputs, if_pos ht] at h
    exact Files.read_of_writeFiles_ok h (List.forall_mem_nil _)
  · refine hframe _ fun path _ hg => ?_
    obtain ⟨name, parent, he⟩ := FileSystem.goal?_named hg
    cases he
  · obtain ⟨-, hsame⟩ := Files.of_writeFiles_ok h
    rw [← hsame.foreign, FileSystem.foreign_putFiles]

/-- What is no Python file is left alone, and nothing is introspected for it. -/
theorem transform_of_not_python (h : isPythonFile id = false) (loader : Loader) (source : String)
    (fs : FileSystem) : loader.transform source id fs = (.ok none, fs) := by
  unfold transform
  rw [h]
  rfl

/-- **All or nothing.** On a disk that lets files be renamed, whatever faults it has when files are
made and filled, a transform that fails has changed nothing, one that gives nothing was for no
Python file, and one that gives an output has written just that next to the module. A path that is
too long for the system is the only one to which a staged file cannot be moved. Reference:
`PythonLoader::transform`. -/
theorem transform_all_or_nothing (loader : Loader) (source id : String) (fs : FileSystem)
    (hrename : fs.LetsRename)
    (hlimit : loader.options.generateTypeDefinitions = true →
      (siblingPath id ".d.ts").utf8ByteSize ≤ Files.pathLimit) :
    match loader.transform source id fs with
    | (.error _, fs') => Same fs fs'
    | (.ok none, fs') => isPythonFile id = false ∧ fs' = fs ∧
        ∀ introspect, transform { loader with introspect } source id fs = (.ok none, fs)
    | (.ok (some output), fs') => Written loader.options id output fs fs' := by
  cases hpython : isPythonFile id with
  | false =>
    rw [transform_of_not_python hpython]
    exact ⟨rfl, rfl, fun introspect => transform_of_not_python hpython _ source fs⟩
  | true =>
    cases hgenerate : loader.generate source id with
    | error e =>
      have htransform : loader.transform source id fs = (.error e, fs) := by
        simp [transform, hpython, hgenerate, Files.Effect.fail]
      rw [htransform]
      exact Same.refl fs
    | ok generated =>
      obtain ⟨result, fs', hwrite⟩ : ∃ result fs', Files.writeFiles (outputs loader.options id
          generated.code (generated.typeDeclarations.getD "")) fs = (result, fs') := ⟨_, _, rfl⟩
      cases result with
      | error e =>
        have htransform : loader.transform source id fs = (.error e, fs') := by
          simp [transform, hpython, hgenerate, Files.Effect.andThen, hwrite]
        rw [htransform]
        exact same_of_writeFiles_outputs hrename hlimit hwrite
      | ok u =>
        have htransform : loader.transform source id fs = (.ok (some ⟨generated.code, none, false,
            generated.typeDeclarations.getD ""⟩), fs') := by
          simp [transform, hpython, hgenerate, Files.Effect.andThen, hwrite, Files.Effect.pure]
        rw [htransform]
        exact written_of_writeFiles_outputs hwrite

end

/-- A loader that writes all it can and finds one function in every source. -/
def ofOneFunction : Loader where
  options := { generateJavascript := true }
  introspect := fun _ => .ok ⟨[⟨"f", ["x"]⟩], none⟩

/-- A system with generated code next to a module, on a disk that is full once the new code is
staged, which shows when the file of the declarations is brought to it. -/
def outOfSpace : FileSystem where
  entries := [([.named "m.py.js"], .file (Text.Utf8.bytes "old"))]
  disk := { fills := [none, some (.sync (.other "No space left on device"))], renames := [none] }

/-- A transform that stops at the file of the declarations fails and leaves the old code in its
file. -/
theorem transform_all_or_nothing_outOfSpace :
    outOfSpace.LetsRename ∧ (siblingPath "m.py" ".d.ts").utf8ByteSize ≤ Files.pathLimit ∧
      (ofOneFunction.transform "" "m.py" outOfSpace).1 =
        .error (.file "/./.m.py.d.ts.XXXXXX.tmp" (.other "No space left on device")) ∧
      Same outOfSpace (ofOneFunction.transform "" "m.py" outOfSpace).2 := by
  have hrename : outOfSpace.LetsRename := by
    simp [FileSystem.LetsRename, outOfSpace]
  have hlimit : (siblingPath "m.py" ".d.ts").utf8ByteSize ≤ Files.pathLimit := by decide
  exact ⟨hrename, hlimit, rfl,
    transform_all_or_nothing ofOneFunction "" "m.py" outOfSpace hrename fun _ => hlimit⟩

end ModuleBridge.Loader
