import ModuleBridge.Proofs.Files.Changes
import ModuleBridge.Proofs.Files.Sources
import ModuleBridge.Proofs.Transform

/-!
# Transforming one file

What transforming a file leads to depends on nothing but the sources and the faults of the disk
(`transformFile_spec`), and it leaves all sources as they are (`sameSources_transformFile`). Two
files that fill one place have one source, and fill it with the same (`filled_eq`). On a disk
without faults a place is cleared only by a file whose code is written and taken away again, because
the path of its declarations is too long for the system and that of its code is not (`cleared_iff`).
-/

namespace ModuleBridge.Loader

open Files (Change GivenPath Node Place FileSystem canStage canWrite siblingPath siblingSuffixes
  writeChange writeFiles)
open Files.FileSystem (SameSources)

/-! ## What is generated, reported and changed -/

/-- What is generated for the source in a file, if it comes to that. -/
def generated? (loader : Loader) (fs : FileSystem) (path : GivenPath) : Option GeneratedModule :=
  (introspectedSource? fs path).bind fun source => (loader.generate source path.shown).toOption

/-- The files that are written for what was generated. -/
def filesOf (loader : Loader) (path : String) (g : GeneratedModule) : List (String × String) :=
  outputs loader.options path g.code (g.typeDeclarations.getD "")

/-- The report on what was generated. -/
def reportOf (loader : Loader) (path : GivenPath) (g : GeneratedModule) : TransformReport where
  file := path
  module := (ModuleName.ofId path.shown).text
  codeBytes := g.code.utf8ByteSize
  declarationBytes := (g.typeDeclarations.getD "").utf8ByteSize
  written := siblings loader.options path.shown

/-- The report on a file, if it can be transformed. -/
def outcome? (loader : Loader) (fs : FileSystem) (path : GivenPath) : Option TransformReport :=
  (loader.transformFile path fs).1.toOption

/-- What transforming a file changes. -/
def change (loader : Loader) (fs : FileSystem) (path : GivenPath) : Change := fun q =>
  (loader.generated? fs path).bind fun g => writeChange fs (loader.filesOf path.shown g) q

section
variable {loader : Loader} {fs fs' : FileSystem} {given : GivenPath} {path path' : String}
  {g g' : GeneratedModule} {q : Place} {report : TransformReport}

/-- The source of a file is introspected if the file is a Python file and can be read. -/
theorem introspectedSource?_eq_some_iff {source : String} :
    introspectedSource? fs given = some source ↔
      isPythonFile given.shown = true ∧ fs.readPath given = .ok source := by
  unfold introspectedSource?
  cases isPythonFile given.shown with
  | false => simp
  | true => cases fs.readPath given <;> simp [Except.toOption]

/-- A file for which nothing is generated fails and changes nothing. -/
theorem transformFile_of_not_generated (h : loader.generated? fs given = none) :
    ∃ e, loader.transformFile given fs = (.error e, fs) := by
  unfold generated? at h
  cases hp : isPythonFile given.shown with
  | false => exact ⟨_, by simp only [transformFile, hp]; rfl⟩
  | true =>
    cases hread : fs.readPath given with
    | error failure =>
      exact ⟨.file given.shown failure,
        by simp [transformFile, hp, Files.Effect.andThen, readSource, hread]⟩
    | ok source =>
      rw [introspectedSource?_eq_some_iff.2 ⟨hp, hread⟩, Option.bind_some] at h
      cases hgenerate : loader.generate source given.shown with
      | ok g => rw [hgenerate] at h; cases h
      | error e =>
        exact ⟨e, by simp [transformFile, hp, Files.Effect.andThen, readSource, hread, transform,
          hgenerate, Files.Effect.fail]⟩

/-- A file for which something is generated is reported on if that can be written. -/
theorem transformFile_of_generated (h : loader.generated? fs given = some g) :
    loader.transformFile given fs =
      ((writeFiles (loader.filesOf given.shown g) fs).1.map fun _ => loader.reportOf given g,
        (writeFiles (loader.filesOf given.shown g) fs).2) := by
  obtain ⟨source, hsource, hg⟩ := Option.bind_eq_some_iff.1 h
  obtain ⟨hp, hread⟩ := introspectedSource?_eq_some_iff.1 hsource
  cases hgenerate : loader.generate source given.shown with
  | error e => rw [hgenerate] at hg; cases hg
  | ok g' =>
    rw [hgenerate] at hg
    cases hg
    cases hwrite : writeFiles (loader.filesOf given.shown g) fs with
    | mk result fs' =>
      have hwrite' := hwrite
      rw [filesOf] at hwrite'
      cases result with
      | error e =>
        simp [transformFile, hp, Files.Effect.andThen, readSource, hread, transform, hgenerate,
          hwrite', Except.map]
      | ok u =>
        simp [transformFile, hp, Files.Effect.andThen, readSource, hread, transform, hgenerate,
          hwrite', Files.Effect.pure, Except.map, reportOf, map_fst_outputs]

/-- What transforming a file gives and changes. -/
theorem transformFile_spec (loader : Loader) (fs : FileSystem) (given : GivenPath) :
    loader.outcome? fs given = ((loader.generated? fs given).bind fun g =>
        if canWrite fs (loader.filesOf given.shown g) then some (loader.reportOf given g)
        else none) ∧
      (loader.transformFile given fs).2.working = fs.working ∧
      ∀ q, (loader.transformFile given fs).2.get? q =
        (loader.change fs given q).getD (fs.get? q) := by
  unfold outcome? change
  cases hg : loader.generated? fs given with
  | none =>
    obtain ⟨e, htransform⟩ := transformFile_of_not_generated hg
    rw [htransform]
    exact ⟨rfl, rfl, fun _ => rfl⟩
  | some g =>
    obtain ⟨hok, hworking, hget⟩ := Files.writeFiles_spec fs (loader.filesOf given.shown g)
    rw [transformFile_of_generated hg, Option.bind_some, ← hok]
    refine ⟨?_, hworking, hget⟩
    cases (writeFiles (loader.filesOf given.shown g) fs).1 <;> rfl

/-- Transforming a file leaves what lies at paths that are no texts. -/
theorem foreign_transformFile (loader : Loader) (fs : FileSystem) (given : GivenPath) :
    (loader.transformFile given fs).2.foreign = fs.foreign := by
  cases hg : loader.generated? fs given with
  | none =>
    obtain ⟨e, htransform⟩ := transformFile_of_not_generated hg
    rw [htransform]
  | some g =>
    rw [transformFile_of_generated hg]
    exact Files.foreign_writeFiles fs _

/-- A disk without faults has none after a file was transformed. -/
theorem disk_transformFile (hdisk : fs.disk = {}) (loader : Loader) (given : GivenPath) :
    (loader.transformFile given fs).2.disk = {} := by
  cases hg : loader.generated? fs given with
  | none =>
    obtain ⟨e, htransform⟩ := transformFile_of_not_generated hg
    rw [htransform]
    exact hdisk
  | some g =>
    rw [transformFile_of_generated hg]
    exact Files.disk_writeFiles hdisk _

/-! ## Sources -/

/-- The same source is introspected in systems with the same sources. -/
theorem introspectedSource?_congr (h : SameSources fs fs') (path : String) :
    introspectedSource? fs path = introspectedSource? fs' path := by
  unfold introspectedSource?
  split
  · next hp => exact Files.readText_toOption_congr h hp
  · rfl

/-- The same is generated in systems with the same sources. -/
theorem generated?_congr (h : SameSources fs fs') (loader : Loader) (path : String) :
    loader.generated? fs path = loader.generated? fs' path := by
  rw [generated?, generated?, introspectedSource?_congr h]

/-- A file changes the same in systems with the same sources on the same disk. -/
theorem change_congr (h : SameSources fs fs') (hdisk : fs.disk = fs'.disk) (loader : Loader)
    (path : String) : loader.change fs path = loader.change fs' path := by
  funext q
  rw [change, change, generated?_congr h]
  simp only [Files.writeChange_congr h.toSameDirectories hdisk]

/-- A file is reported on alike in systems with the same sources on the same disk. -/
theorem outcome?_congr (h : SameSources fs fs') (hdisk : fs.disk = fs'.disk) (loader : Loader)
    (path : String) : loader.outcome? fs path = loader.outcome? fs' path := by
  rw [(transformFile_spec ..).1, (transformFile_spec ..).1, generated?_congr h]
  simp only [Files.canWrite_congr h.toSameDirectories hdisk]

/-- What is written for a file goes to its siblings. -/
theorem exists_suffix_of_mem_filesOf {file : String × String} (h : file ∈ loader.filesOf path g) :
    ∃ suffix ∈ siblingSuffixes, file.1 = siblingPath path suffix ∧
      file.2 = if suffix = ".js" then g.code else g.typeDeclarations.getD "" := by
  rw [filesOf, outputs, List.mem_append] at h
  rcases h with h | h
  · split at h
    · exact ⟨".js", by decide, by rw [List.mem_singleton.1 h], by rw [List.mem_singleton.1 h]; rfl⟩
    · cases h
  · split at h
    · exact ⟨".d.ts", by decide, by rw [List.mem_singleton.1 h], by rw [List.mem_singleton.1 h]; rfl⟩
    · cases h

/-- Only places of siblings are changed, and no directory is made. -/
theorem exists_suffix_of_change {node : Option Node} (h : loader.change fs given q = some node) :
    (∃ suffix ∈ siblingSuffixes, fs.goal? (siblingPath given.shown suffix) = some q) ∧
      node ≠ some .directory := by
  obtain ⟨g, -, hchange⟩ := Option.bind_eq_some_iff.1 h
  obtain ⟨⟨file, hfile, hg⟩, hnode⟩ := Files.goal?_of_writeChange hchange
  obtain ⟨suffix, hs, hpath, -⟩ := exists_suffix_of_mem_filesOf hfile
  exact ⟨⟨suffix, hs, hpath ▸ hg⟩, hnode⟩

/-- Transforming a file leaves all sources and all directories as they are. -/
theorem sameSources_transformFile (loader : Loader) (fs : FileSystem) (given : GivenPath) :
    SameSources fs (loader.transformFile given fs).2 := by
  obtain ⟨-, hworking, hget⟩ := transformFile_spec loader fs given
  refine ⟨⟨hworking.symm, fun place => ?_⟩, fun name parent hp => ?_⟩
  · rw [hget]
    cases hchange : loader.change fs given place with
    | none => rfl
    | some node =>
      obtain ⟨⟨suffix, -, hg⟩, hnode⟩ := exists_suffix_of_change hchange
      exact iff_of_false (FileSystem.goal?_not_directory hg) hnode
  · rw [hget]
    cases hchange : loader.change fs given (.named name :: parent) with
    | none => rfl
    | some node =>
      obtain ⟨⟨suffix, hs, hg⟩, -⟩ := exists_suffix_of_change hchange
      obtain ⟨name', parent', he, hname⟩ := Files.isPythonFile_of_goal?_siblingPath hs hg
      cases he
      rw [hp] at hname
      cases hname

/-! ## Shared places -/

/-- What is generated for a file depends on its source and the name of its module. -/
theorem generate_congr {source : String} (h : ModuleName.ofId path = ModuleName.ofId path') :
    loader.generate source path = loader.generate source path' := by
  simp only [generate, h]

/-- Two files that share the place of a sibling share their source, and the same is generated for
both. -/
theorem generated?_eq_of_goal? {suffix suffix' : String} (hs : suffix ∈ siblingSuffixes)
    (hs' : suffix' ∈ siblingSuffixes) (hgenerated : loader.generated? fs path = some g)
    (hgenerated' : loader.generated? fs path' = some g')
    (hg : fs.goal? (siblingPath path suffix) = some q)
    (hg' : fs.goal? (siblingPath path' suffix') = some q) : suffix = suffix' ∧ g = g' := by
  obtain ⟨source, hsource, hgenerate⟩ := Option.bind_eq_some_iff.1 hgenerated
  obtain ⟨source', hsource', hgenerate'⟩ := Option.bind_eq_some_iff.1 hgenerated'
  obtain ⟨hp, hread⟩ := introspectedSource?_eq_some_iff.1 hsource
  obtain ⟨hp', hread'⟩ := introspectedSource?_eq_some_iff.1 hsource'
  rw [FileSystem.readPath_text] at hread hread'
  obtain ⟨place, hplace⟩ := Option.isSome_iff_exists.1 (Files.goal?_isSome_of_readText hread)
  obtain ⟨place', hplace'⟩ := Option.isSome_iff_exists.1 (Files.goal?_isSome_of_readText hread')
  obtain ⟨front, name, parent, hid, hextension, rfl, rfl⟩ :=
    Files.exists_source_of_goal? hs hp hplace hg
  obtain ⟨front', name', parent', hid', -, rfl, hq⟩ :=
    Files.exists_source_of_goal? hs' hp' hplace' hg'
  obtain ⟨hname, rfl⟩ := List.cons.inj hq
  obtain ⟨rfl, rfl⟩ :=
    Files.append_suffix_inj hs hs' (String.ofList_inj.1 (Files.FileName.named.inj hname))
  have hsame := Files.readText_toOption_eq hplace hplace'
  rw [hread, hread'] at hsame
  cases hsame
  rw [generate_congr ((ModuleName.ofId_inDirectory hid hextension).trans
    (ModuleName.ofId_inDirectory hid' hextension).symm), hgenerate'] at hgenerate
  exact ⟨rfl, (Option.some.inj hgenerate).symm⟩

/-- What is filled is a sibling, with what was generated for it. -/
theorem exists_of_filled {node : Node} (h : loader.change fs path q = some (some node)) :
    ∃ g, ∃ suffix ∈ siblingSuffixes, loader.generated? fs path = some g ∧
      canWrite fs (loader.filesOf path g) = true ∧
      fs.goal? (siblingPath path suffix) = some q ∧
      node = .file (Text.Utf8.bytes
        (if suffix = ".js" then g.code else g.typeDeclarations.getD "")) := by
  obtain ⟨g, hgenerated, hchange⟩ := Option.bind_eq_some_iff.1 h
  unfold writeChange at hchange
  split at hchange
  · next hwrite =>
    obtain ⟨contents, hlast, hnode⟩ := Option.map_eq_some_iff.1 hchange
    obtain ⟨file, hfile, hg, rfl⟩ := FileSystem.exists_of_lastContents? hlast
    obtain ⟨file', hfile', rfl⟩ := List.mem_map.1 hfile
    obtain ⟨suffix, hs, hpath, htext⟩ := exists_suffix_of_mem_filesOf hfile'
    refine ⟨g, suffix, hs, hgenerated, hwrite, hpath ▸ hg, ?_⟩
    rw [← htext]
    exact (Option.some.inj hnode).symm
  · split at hchange <;> cases hchange

/-- Two files that fill one place fill it with the same. -/
theorem filled_eq {node node' : Node} (h : loader.change fs path q = some (some node))
    (h' : loader.change fs path' q = some (some node')) : node = node' := by
  obtain ⟨g, suffix, hs, hgenerated, -, hg, rfl⟩ := exists_of_filled h
  obtain ⟨g', suffix', hs', hgenerated', -, hg', rfl⟩ := exists_of_filled h'
  obtain ⟨rfl, rfl⟩ := generated?_eq_of_goal? hs hs' hgenerated hgenerated' hg hg'
  rfl

/-- A file that is reported on fills the place of its code. -/
theorem filled_of_outcome? (hj : loader.options.generateJavascript = true)
    (h : (loader.outcome? fs path).isSome) (hg : fs.goal? (siblingPath path ".js") = some q) :
    ∃ node, loader.change fs path q = some (some node) := by
  obtain ⟨report, hreport⟩ := Option.isSome_iff_exists.1 h
  rw [(transformFile_spec ..).1] at hreport
  obtain ⟨g, hgenerated, hreport⟩ := Option.bind_eq_some_iff.1 hreport
  split at hreport
  · next hwrite =>
    have hcode : (siblingPath path ".js", Text.Utf8.bytes g.code) ∈
        Files.inBytes (loader.filesOf path g) := by
      refine List.mem_map.2 ⟨(siblingPath path ".js", g.code), ?_, rfl⟩
      rw [filesOf, outputs, if_pos hj]
      exact List.mem_append_left _ List.mem_cons_self
    obtain ⟨contents, hcontents⟩ :=
      Option.isSome_iff_exists.1 (FileSystem.lastContents?_isSome hcode hg)
    refine ⟨.file contents, ?_⟩
    rw [change, hgenerated, Option.bind_some, writeChange, if_pos hwrite, GivenPath.shown_text,
      hcontents]
    rfl
  · cases hreport

/-! ## Undone transforms -/

/-- The code of the file is written and taken away again, because the path of its declarations is
too long for the system. -/
structure Undoes (loader : Loader) (fs : FileSystem) (path : String) : Prop where
  javascript : loader.options.generateJavascript = true
  typeDefinitions : loader.options.generateTypeDefinitions = true
  generated : (loader.generated? fs path).isSome
  canStage : ∀ suffix ∈ siblingSuffixes, Files.canStage fs (siblingPath path suffix) = true
  fits : (siblingPath path ".js").utf8ByteSize ≤ Files.pathLimit
  tooLong : Files.pathLimit < (siblingPath path ".d.ts").utf8ByteSize

/-- The system takes a path with a goal. -/
theorem le_pathLimit_of_goal? {text : String} (h : fs.goal? text = some q) :
    text.utf8ByteSize ≤ Files.pathLimit := by
  obtain ⟨_, _, _, hp, -⟩ := FileSystem.goal?_eq_some_iff.1 h
  exact (Files.ofText?_eq_ok_iff.1 hp).2.2.1

/-- With both options on, the files that are written are the two siblings. -/
theorem filesOf_eq (hj : loader.options.generateJavascript = true)
    (ht : loader.options.generateTypeDefinitions = true) (path : String) (g : GeneratedModule) :
    loader.filesOf path g = [(siblingPath path ".js", g.code),
      (siblingPath path ".d.ts", g.typeDeclarations.getD "")] := by
  rw [filesOf, outputs, if_pos hj, if_pos ht]
  rfl

/-- On a disk without faults a write of at most one file clears nothing when it fails. -/
theorem clearedGoals_of_length_le_one {files : List (String × String)} (hdisk : fs.disk = {})
    (h : files.length ≤ 1) (hwrite : canWrite fs files = false) :
    Files.clearedGoals fs files = [] := by
  rw [Files.clearedGoals, Files.takesAll_of_disk hdisk]
  split
  · next hstage =>
    obtain rfl | ⟨file, rfl⟩ : files = [] ∨ ∃ file, files = [file] := by
      rcases Nat.le_one_iff_eq_zero_or_eq_one.1 h with hzero | hone
      · exact .inl (List.length_eq_zero_iff.1 hzero)
      · exact .inr (List.length_eq_one_iff.1 hone)
    · rfl
    rw [List.map_singleton, Files.goals_cons_of_disk hdisk]
    cases hg : fs.goal? file.1 with
    | none => rfl
    | some goal =>
      -- the one file could be staged and renamed
      have hcan : canWrite fs [file] = true := by
        rw [Files.canWrite_iff hdisk, List.forall_mem_singleton, hg]
        simpa using hstage
      rw [hcan] at hwrite
      cases hwrite
  · rfl

/-- If the siblings of a file cannot both be written to a disk without faults, a place is cleared
exactly if it is that of the code, both can be staged, and the path of the declarations is too
long. -/
theorem mem_clearedGoals_siblings_iff {code declarations : String} (hdisk : fs.disk = {})
    (hwrite : canWrite fs [(siblingPath path ".js", code),
      (siblingPath path ".d.ts", declarations)] = false) :
    q ∈ Files.clearedGoals fs [(siblingPath path ".js", code),
        (siblingPath path ".d.ts", declarations)] ↔
      (∀ suffix ∈ siblingSuffixes, canStage fs (siblingPath path suffix) = true) ∧
        fs.goal? (siblingPath path ".js") = some q ∧
        Files.pathLimit < (siblingPath path ".d.ts").utf8ByteSize := by
  have hall : (∀ suffix ∈ siblingSuffixes, canStage fs (siblingPath path suffix) = true) ↔
      canStage fs (siblingPath path ".js") = true ∧
        canStage fs (siblingPath path ".d.ts") = true := by
    simp [siblingSuffixes]
  rw [hall, Files.clearedGoals, Files.takesAll_of_disk hdisk]
  have hfailed : ¬ ((canStage fs (siblingPath path ".js") = true ∧
      (fs.goal? (siblingPath path ".js")).isSome) ∧
      canStage fs (siblingPath path ".d.ts") = true ∧
        (fs.goal? (siblingPath path ".d.ts")).isSome) := by
    rw [← Bool.not_eq_true, Files.canWrite_iff hdisk, List.forall_mem_cons,
      List.forall_mem_singleton] at hwrite
    exact hwrite
  simp only [List.all_cons, List.all_nil, Bool.and_true, List.map_cons, List.map_nil,
    Files.goals_cons_of_disk hdisk]
  cases hj : canStage fs (siblingPath path ".js") with
  | false => simp
  | true =>
    cases ht : canStage fs (siblingPath path ".d.ts") with
    | false => simp
    | true =>
      cases hcode : fs.goal? (siblingPath path ".js") with
      | none => simp
      | some goal =>
        -- the declarations can be staged, so only the length of their path is left
        have hdeclarations : fs.goal? (siblingPath path ".d.ts") = none := by
          simpa [hj, ht, hcode] using hfailed
        have hlong : Files.pathLimit < (siblingPath path ".d.ts").utf8ByteSize := by
          refine Nat.not_le.1 fun hfits => ?_
          have hsome := Files.goal?_siblingPath Files.isName_declarations hfits ht
          rw [hdeclarations] at hsome
          cases hsome
        simp [FileSystem.goals, hdeclarations, hlong, eq_comm]

/-- On a disk without faults a place is cleared by a file exactly if it is that of the file's code
and the file is undone. -/
theorem cleared_iff (hdisk : fs.disk = {}) : loader.change fs path q = some none ↔
    loader.Undoes fs path ∧ fs.goal? (siblingPath path ".js") = some q := by
  constructor
  · intro h
    obtain ⟨g, hgenerated, hchange⟩ := Option.bind_eq_some_iff.1 h
    unfold writeChange at hchange
    split at hchange
    · obtain ⟨contents, -, hnode⟩ := Option.map_eq_some_iff.1 hchange
      cases hnode
    · next hwrite =>
      rw [Bool.not_eq_true, GivenPath.shown_text] at hwrite
      rw [GivenPath.shown_text] at hchange
      split at hchange
      · next hq =>
        -- one file alone clears nothing, so there are two
        have hlength : ¬(loader.filesOf path g).length ≤ 1 := by
          intro hle
          rw [clearedGoals_of_length_le_one hdisk hle hwrite] at hq
          cases hq
        have hboth : loader.options.generateJavascript = true ∧
            loader.options.generateTypeDefinitions = true := by
          revert hlength
          unfold filesOf outputs
          cases loader.options.generateJavascript <;>
            cases loader.options.generateTypeDefinitions <;> simp
        obtain ⟨hj, ht⟩ := hboth
        rw [filesOf_eq hj ht] at hwrite hq
        obtain ⟨hstage, hg, hlong⟩ := (mem_clearedGoals_siblings_iff hdisk hwrite).1 hq
        exact ⟨⟨hj, ht, by rw [hgenerated]; rfl, hstage, le_pathLimit_of_goal? hg, hlong⟩, hg⟩
      · cases hchange
  · rintro ⟨h, hg⟩
    obtain ⟨g, hgenerated⟩ := Option.isSome_iff_exists.1 h.generated
    have hnone : fs.goal? (siblingPath path ".d.ts") = none := by
      cases hdeclarations : fs.goal? (siblingPath path ".d.ts") with
      | none => rfl
      | some goal => exact absurd (le_pathLimit_of_goal? hdeclarations) (Nat.not_le.2 h.tooLong)
    have hwrite : canWrite fs [(siblingPath path ".js", g.code),
        (siblingPath path ".d.ts", g.typeDeclarations.getD "")] = false := by
      rw [← Bool.not_eq_true, Files.canWrite_iff hdisk]
      simp [hnone]
    rw [change, hgenerated, Option.bind_some, GivenPath.shown_text,
      filesOf_eq h.javascript h.typeDefinitions, writeChange, hwrite, if_neg Bool.false_ne_true,
      if_pos ((mem_clearedGoals_siblings_iff hdisk hwrite).2 ⟨h.canStage, hg, h.tooLong⟩)]

end

end ModuleBridge.Loader
