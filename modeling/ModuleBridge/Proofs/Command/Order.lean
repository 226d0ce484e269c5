import Mathlib.Data.List.Perm.Basic
import ModuleBridge.Command.Run
import ModuleBridge.Proofs.Command.OneFile
import ModuleBridge.Proofs.Files.Aliases

/-!
# Transforming files in any order

On a disk without faults a run deals with each file as if it were alone, and at each place the last
change counts (`transformFiles_alone`). So the order of the files shows in nothing but the places
where the last change differs. Two files that fill a place agree on it, and so do two that clear it.
What is left is a file that is undone where another one is written, and both have one source then:
the order matters exactly if there are two such paths (`transformFiles_order_iff`), and there can be
(`transformFiles_order_matters`).
-/

namespace ModuleBridge.Command

open Files (Change GivenPath Node Place FileSystem siblingPath siblingSuffixes)
open Files.FileSystem (Same SameSources)

/-- What becomes of each place in a run: what the last file that changes it makes of it. -/
def lastChange (loader : Loader) (fs : FileSystem) (files : List String) : Change := fun q =>
  files.reverse.findSome? fun path : String => loader.change fs path q

/-- In a run each file gives and changes what it does alone, the sources stay as they are, and so do
the disk and what lies at paths that are no texts. -/
structure Alone (loader : Loader) (fs : FileSystem) (files : List String) (t : Transformed)
    (fs' : FileSystem) : Prop where
  reports : t.reports = files.filterMap fun path : String => loader.outcome? fs path
  failures : t.failures.map (·.1) =
    (files.filter fun path : String => (loader.outcome? fs path).isNone).map .text
  sources : t.sources = files.filterMap fun path : String => introspectedSource? fs path
  sameSources : SameSources fs fs'
  disk : fs'.disk = {}
  foreign : fs'.foreign = fs.foreign
  get? : ∀ q, fs'.get? q = (lastChange loader fs files q).getD (fs.get? q)

/-- The runs report the same, fail for the same files and introspect the same sources. -/
structure Agree (t t' : Transformed) : Prop where
  reports : t.reports.Perm t'.reports
  failures : (t.failures.map (·.1)).Perm (t'.failures.map (·.1))
  sources : t.sources.Perm t'.sources

section
variable {loader : Loader} {fs fs' : FileSystem} {path path' : String} {files files' : List String}
  {q : Place}

/-- The last change is that of the later files, or else that of the first one. -/
theorem lastChange_cons (loader : Loader) (fs : FileSystem) (path : String) (files : List String)
    (q : Place) : lastChange loader fs (path :: files) q =
      (lastChange loader fs files q).or (loader.change fs path q) := by
  rw [lastChange, List.reverse_cons, List.findSome?_append, List.findSome?_singleton]
  rfl

/-- The last change is that of the last file, or else that of the others. -/
theorem lastChange_concat (loader : Loader) (fs : FileSystem) (files : List String) (path : String)
    (q : Place) : lastChange loader fs (files ++ [path]) q =
      (loader.change fs path q).or (lastChange loader fs files q) := by
  rw [lastChange, List.reverse_concat, List.findSome?_cons]
  cases loader.change fs path q <;> rfl

/-- A run of files on a disk without faults, from what it does in a system with the same sources. -/
theorem Alone.congr {t : Transformed} {fs₁ fs₂ : FileSystem} (h : SameSources fs fs₁)
    (hdisk : fs.disk = fs₁.disk) (halone : Alone loader fs₁ files t fs₂) :
    (t.reports = files.filterMap fun path : String => loader.outcome? fs path) ∧
      (t.failures.map (·.1) =
        (files.filter fun path : String => (loader.outcome? fs path).isNone).map .text) ∧
      (t.sources = files.filterMap fun path : String => introspectedSource? fs path) ∧
      SameSources fs fs₂ ∧
      ∀ q, fs₂.get? q = (lastChange loader fs files q).getD (fs₁.get? q) := by
  have houtcome (path : String) : loader.outcome? fs path = loader.outcome? fs₁ path :=
    Loader.outcome?_congr h hdisk loader path
  have hsource (path : String) : introspectedSource? fs path = introspectedSource? fs₁ path :=
    Loader.introspectedSource?_congr h path
  have hlast : lastChange loader fs files = lastChange loader fs₁ files := by
    unfold lastChange
    simp only [Loader.change_congr h hdisk]
  simp only [houtcome, hsource, hlast]
  exact ⟨halone.reports, halone.failures, halone.sources, h.trans halone.sameSources, halone.get?⟩

/-- On a disk without faults each file of a run is dealt with as if it were alone. -/
theorem transformFiles_alone (hdisk : fs.disk = {}) (loader : Loader) (files : List String) :
    Alone loader fs files (transformFiles loader (files.map .text) fs).1
      (transformFiles loader (files.map .text) fs).2 := by
  induction files generalizing fs with
  | nil => exact ⟨rfl, rfl, rfl, .refl fs, hdisk, rfl, fun _ => rfl⟩
  | cons path rest ih =>
    obtain ⟨-, -, hget⟩ := Loader.transformFile_spec loader fs path
    have hsame := Loader.sameSources_transformFile loader fs path
    have hnext := Loader.disk_transformFile hdisk loader path
    have hforeign := Loader.foreign_transformFile loader fs path
    obtain ⟨result, fs₁, htransform⟩ :
        ∃ result fs₁, loader.transformFile path fs = (result, fs₁) := ⟨_, _, rfl⟩
    rw [htransform] at hsame hget hnext hforeign
    obtain ⟨t, fs₂, hrest⟩ :
        ∃ t fs₂, transformFiles loader (rest.map .text) fs₁ = (t, fs₂) := ⟨_, _, rfl⟩
    have halone := ih hnext
    rw [hrest] at halone
    obtain ⟨hreports, hfailures, hsources, hkept, hrestGet⟩ :=
      halone.congr hsame (hdisk.trans hnext.symm)
    have hrun : transformFiles loader ((path :: rest).map .text) fs =
        ((Transformed.ofFile path (introspectedSource? fs path) result).append t, fs₂) := by
      simp only [List.map_cons, transformFiles, htransform, hrest]
    have houtcome : loader.outcome? fs path = result.toOption := by
      rw [Loader.outcome?, htransform]
    rw [hrun]
    refine ⟨?_, ?_, ?_, hkept, halone.disk, halone.foreign.trans hforeign, fun q => ?_⟩
    · rw [List.filterMap_cons, houtcome, ← hreports]
      cases result <;> rfl
    · rw [List.filter_cons, houtcome]
      cases result with
      | ok report => exact hfailures
      | error e => exact congrArg (GivenPath.text path :: ·) hfailures
    · rw [List.filterMap_cons, ← hsources]
      cases result <;> cases introspectedSource? fs path <;> rfl
    · rw [hrestGet, hget, lastChange_cons]
      cases lastChange loader fs rest q <;> rfl

/-! ## Two runs -/

/-- What is found first does not depend on the order if all that can be found is the same. -/
theorem findSome?_perm {α β : Type} {f : α → Option β} {xs ys : List α} (hperm : xs.Perm ys)
    (hsame : ∀ x ∈ xs, ∀ y ∈ xs, ∀ b c, f x = some b → f y = some c → b = c) :
    xs.findSome? f = ys.findSome? f := by
  cases hxs : xs.findSome? f with
  | none =>
    rw [List.findSome?_eq_none_iff] at hxs
    exact (List.findSome?_eq_none_iff.2 fun y hy => hxs y (hperm.mem_iff.2 hy)).symm
  | some b =>
    obtain ⟨x, hx, hb⟩ := List.exists_of_findSome?_eq_some hxs
    have hsome : (ys.findSome? f).isSome :=
      List.findSome?_isSome_iff.2 ⟨x, hperm.mem_iff.1 hx, by rw [hb]; rfl⟩
    obtain ⟨c, hys⟩ := Option.isSome_iff_exists.1 hsome
    obtain ⟨y, hy, hc⟩ := List.exists_of_findSome?_eq_some hys
    rw [hys, hsame x hx y (hperm.mem_iff.2 hy) b c hb hc]

/-- A path is undone where another one is written. -/
structure Clash (loader : Loader) (fs : FileSystem) (path path' : String) : Prop where
  undoes : loader.Undoes fs path
  written : (loader.outcome? fs path').isSome
  goal?_eq : fs.goal? (siblingPath path ".js") = fs.goal? (siblingPath path' ".js")

/-- The place of a clash is cleared for one path and filled for the other. -/
theorem Clash.exists_changes (hdisk : fs.disk = {}) (h : Clash loader fs path path') :
    ∃ q node, loader.change fs path q = some none ∧
      loader.change fs path' q = some (some node) := by
  obtain ⟨hundoes, hwritten, hgoal⟩ := h
  have hsome := Files.goal?_siblingPath Files.isName_code hundoes.fits
    (hundoes.canStage ".js" List.mem_cons_self)
  obtain ⟨q, hq⟩ := Option.isSome_iff_exists.1 hsome
  obtain ⟨node, hnode⟩ :=
    Loader.filled_of_outcome? hundoes.javascript hwritten (hgoal.symm.trans hq)
  exact ⟨q, node, (Loader.cleared_iff hdisk).2 ⟨hundoes, hq⟩, hnode⟩

/-- Runs that end with the two paths of a clash do not leave the same system. -/
theorem Clash.not_same (hdisk : fs.disk = {}) (h : Clash loader fs path path') :
    ¬Same (transformFiles loader ((files ++ [path]).map .text) fs).2
      (transformFiles loader ((files' ++ [path']).map .text) fs).2 := by
  obtain ⟨q, node, hcleared, hfilled⟩ := h.exists_changes hdisk
  intro hsame
  have hget := hsame.get? q
  rw [(transformFiles_alone hdisk ..).get?, (transformFiles_alone hdisk ..).get?,
    lastChange_concat, lastChange_concat, hcleared, hfilled] at hget
  cases hget

/-- A place that is cleared and filled is that of a clash. -/
theorem clash_of_changes (hdisk : fs.disk = {}) {node : Node}
    (h : loader.change fs path q = some none)
    (h' : loader.change fs path' q = some (some node)) : Clash loader fs path path' := by
  obtain ⟨hundoes, hg⟩ := (Loader.cleared_iff hdisk).1 h
  obtain ⟨g, hgenerated⟩ := Option.isSome_iff_exists.1 hundoes.generated
  obtain ⟨g', suffix, hs, hgenerated', hwrite, hg', -⟩ := Loader.exists_of_filled h'
  obtain ⟨rfl, -⟩ :=
    Loader.generated?_eq_of_goal? List.mem_cons_self hs hgenerated hgenerated' hg hg'
  refine ⟨hundoes, ?_, hg.trans hg'.symm⟩
  rw [(Loader.transformFile_spec ..).1, hgenerated', Option.bind_some, GivenPath.shown_text,
    if_pos hwrite]
  rfl

/-- Without a clash all changes of a place agree. -/
theorem change_eq_of_not_clash (hdisk : fs.disk = {})
    (hclash : ∀ path ∈ files, ∀ path' ∈ files, ¬Clash loader fs path path')
    {node node' : Option Node} (hpath : path ∈ files) (hpath' : path' ∈ files)
    (h : loader.change fs path q = some node) (h' : loader.change fs path' q = some node') :
    node = node' := by
  cases node with
  | none =>
    cases node' with
    | none => rfl
    | some node' => exact absurd (clash_of_changes hdisk h h') (hclash path hpath path' hpath')
  | some node =>
    cases node' with
    | none => exact absurd (clash_of_changes hdisk h' h) (hclash path' hpath' path hpath)
    | some node' => rw [Loader.filled_eq h h']

/-- A list can be brought in an order in which a given member is the last one. -/
theorem exists_perm_concat (h : path ∈ files) : ∃ files', files.Perm (files' ++ [path]) :=
  ⟨files.erase path, (List.perm_cons_erase h).trans (List.perm_append_singleton path _).symm⟩

/-- **The order of files.** On a disk without faults, what is reported of each file, which files
fail and which sources are introspected does not depend on it. In no order does the path of a Python
file find anything else than before, and what is written next to a file is neither a Python file nor
where the path of one leads. All orders leave the same system exactly if there is no clash.
Reference: `transform::run`. -/
theorem transformFiles_order_iff (loader : Loader) (fs : FileSystem) (hdisk : fs.disk = {})
    (files : List String) :
    (∀ files', files.Perm files' →
        Agree (transformFiles loader (files.map .text) fs).1
          (transformFiles loader (files'.map .text) fs).1) ∧
      (∀ files' : List String,
        ((transformFiles loader (files'.map .text) fs).1.reports =
            files'.filterMap fun path : String => loader.outcome? fs path) ∧
          (transformFiles loader (files'.map .text) fs).1.failures.map (·.1) =
            (files'.filter fun path : String => (loader.outcome? fs path).isNone).map .text) ∧
      (∀ path, isPythonFile path = true →
        ((transformFiles loader (files.map .text) fs).2.find path).toOption =
          (fs.find path).toOption) ∧
      (∀ path, ∀ suffix ∈ siblingSuffixes, isPythonFile (siblingPath path suffix) = false ∧
        ∀ path', isPythonFile path' = true → ∀ q, fs.goal? (siblingPath path suffix) = some q →
          fs.goal? path' ≠ some q) ∧
      ((∀ files', files.Perm files' →
          Same (transformFiles loader (files.map .text) fs).2
            (transformFiles loader (files'.map .text) fs).2) ↔
        ∀ path ∈ files, ∀ path' ∈ files, ¬Clash loader fs path path') := by
  have halone (files : List String) := transformFiles_alone hdisk loader files
  refine ⟨fun files' hperm => ⟨?_, ?_, ?_⟩, fun files' => ⟨(halone files').reports,
    (halone files').failures⟩,
    fun path hp => (Files.find_toOption_congr (halone files).sameSources hp).symm,
    fun path suffix hs => ⟨Files.isPythonFile_siblingPath hs path,
      fun path' hp q hg => Files.goal?_ne_of_isPythonFile hs hp hg⟩, ⟨?_, ?_⟩⟩
  · rw [(halone files).reports, (halone files').reports]
    exact hperm.filterMap _
  · rw [(halone files).failures, (halone files').failures]
    exact (hperm.filter _).map _
  · rw [(halone files).sources, (halone files').sources]
    exact hperm.filterMap _
  · intro hsame path hpath path' hpath' hclash
    obtain ⟨files₁, hperm₁⟩ := exists_perm_concat hpath
    obtain ⟨files₂, hperm₂⟩ := exists_perm_concat hpath'
    exact hclash.not_same hdisk ((hsame _ hperm₁).symm.trans (hsame _ hperm₂))
  · intro hclash files' hperm
    have hsources := (halone files).sameSources
    refine ⟨hsources.working.symm.trans (halone files').sameSources.working, fun q => ?_, ?_⟩
    · have hreverse : files.reverse.Perm files'.reverse :=
        (List.reverse_perm files).trans (hperm.trans (List.reverse_perm files').symm)
      rw [(halone files).get?, (halone files').get?, lastChange, lastChange,
        findSome?_perm hreverse]
      intro path hpath path' hpath' node node' hnode hnode'
      exact change_eq_of_not_clash hdisk hclash (List.mem_reverse.1 hpath)
        (List.mem_reverse.1 hpath') hnode hnode'
    · rw [(halone files).foreign, (halone files').foreign]

end

/-- A system with one module in it. -/
def oneModule : FileSystem where
  entries := [([.named "b.py"], .file [])]

/-- The module by a path that the system takes, as it does with the suffix of code, but not with
that of declarations. -/
def longPath : String := Files.dotted 2044 "b.py"

theorem isPythonFile_longPath : isPythonFile longPath = true := by
  have hname : pythonExtension <:+ "b.py".toList := by decide
  rw [isPythonFile, List.isSuffixOf_iff_suffix, longPath, Files.toList_dotted]
  exact hname.trans ((List.suffix_cons '/' _).trans (List.suffix_append _ _))

/-- The siblings of the long path are those of the short one behind the same steps. -/
theorem siblingPath_longPath (suffix : String) :
    siblingPath longPath suffix = Files.dotted 2044 (siblingPath "b.py" suffix) :=
  Files.siblingPath_dotted 2044 "b.py" suffix

/-- The system takes the module and its code by the long path. -/
theorem goal?_dotted_oneModule {name : String} (hname : name ∈ ["b.py", "b.py.js"]) :
    oneModule.goal? (Files.dotted 2044 name) = some [.named name] := by
  have hfits : (Files.dotted 2044 name).utf8ByteSize ≤ Files.pathLimit := by
    rw [Files.utf8ByteSize_dotted]
    revert name
    decide
  simp only [List.mem_cons, List.not_mem_nil, or_false] at hname
  rcases hname with rfl | rfl <;>
    exact Files.goal?_dotted ⟨by decide, by decide, by decide, by decide⟩ rfl (by decide)
      (by decide) hfits

/-- The long path leads to the file in the root. -/
theorem goal?_longPath : oneModule.goal? longPath = some [.named "b.py"] :=
  goal?_dotted_oneModule List.mem_cons_self

/-- So does the long path of the code. -/
theorem goal?_code_longPath :
    oneModule.goal? (siblingPath longPath ".js") = some [.named "b.py.js"] := by
  rw [siblingPath_longPath]
  exact goal?_dotted_oneModule (List.mem_cons_of_mem _ List.mem_cons_self)

/-- The same is generated by both paths. -/
theorem generated?_longPath : Loader.ofOneFunction.generated? oneModule longPath =
    Loader.ofOneFunction.generated? oneModule "b.py" := by
  have hgoal : oneModule.goal? "b.py" = some [.named "b.py"] := rfl
  have hsource : introspectedSource? oneModule longPath = introspectedSource? oneModule "b.py" := by
    rw [introspectedSource?, introspectedSource?, GivenPath.shown_text, GivenPath.shown_text,
      FileSystem.readPath_text, FileSystem.readPath_text, isPythonFile_longPath,
      Files.readText_toOption_eq goal?_longPath hgoal]
    rfl
  have hname : ModuleName.ofId longPath = ModuleName.ofId "b.py" :=
    ModuleName.ofId_inDirectory (Files.toList_dotted 2043 "b.py") rfl
  rw [Loader.generated?, Loader.generated?, hsource]
  simp only [GivenPath.shown_text, Loader.generate_congr hname]

/-- The long and the short path clash: one clears what the other writes. -/
theorem clash_longPath : Clash Loader.ofOneFunction oneModule longPath "b.py" := by
  refine ⟨⟨rfl, rfl, ?_, ?_, Loader.le_pathLimit_of_goal? goal?_code_longPath, ?_⟩,
    by decide +kernel, goal?_code_longPath⟩
  · rw [generated?_longPath]
    decide +kernel
  · intro suffix hs
    rw [siblingPath_longPath]
    have hdown : Files.GoesDown (siblingPath "b.py" suffix).toList := by
      rw [siblingPath, String.toList_append]
      exact (Files.IsName.append (by decide) (Files.isName_of_mem_siblingSuffixes hs)).goesDown
    simp only [siblingSuffixes, List.mem_cons, List.not_mem_nil, or_false] at hs
    rcases hs with rfl | rfl <;>
      exact Files.canStage_dotted hdown (by decide) (by decide) (by decide) (by decide) 2043
  · rw [siblingPath_longPath, Files.utf8ByteSize_dotted]
    decide

/-- Two paths of one module are reported on alike in both orders, but not all orders leave the same
system. -/
theorem transformFiles_order_clash :
    oneModule.disk = {} ∧
      Agree (transformFiles .ofOneFunction (["b.py", longPath].map .text) oneModule).1
        (transformFiles .ofOneFunction ([longPath, "b.py"].map .text) oneModule).1 ∧
      ¬ ∀ files', ["b.py", longPath].Perm files' →
        Same (transformFiles .ofOneFunction (["b.py", longPath].map .text) oneModule).2
          (transformFiles .ofOneFunction (files'.map .text) oneModule).2 := by
  have hdisk : oneModule.disk = {} := rfl
  obtain ⟨hagree, -, -, -, hsame⟩ :=
    transformFiles_order_iff .ofOneFunction oneModule hdisk ["b.py", longPath]
  refine ⟨hdisk, hagree _ (.swap ..), fun h => ?_⟩
  exact hsame.1 h longPath (List.mem_cons_of_mem _ List.mem_cons_self) "b.py" List.mem_cons_self
    clash_longPath

/-- A module that is transformed by two paths is left without its code if the longer path comes
last, and with it if that path comes first. -/
theorem transformFiles_order_matters :
    ["b.py", longPath].Perm [longPath, "b.py"] ∧
      (transformFiles .ofOneFunction ["b.py", longPath] oneModule).2.get? [.named "b.py.js"] = none ∧
      ((transformFiles .ofOneFunction [longPath, "b.py"] oneModule).2.get?
        [.named "b.py.js"]).isSome ∧
      ¬Same (transformFiles .ofOneFunction ["b.py", longPath] oneModule).2
        (transformFiles .ofOneFunction [longPath, "b.py"] oneModule).2 := by
  have hdisk : oneModule.disk = {} := rfl
  have hcleared := (Loader.cleared_iff hdisk).2 ⟨clash_longPath.undoes, goal?_code_longPath⟩
  obtain ⟨node, hfilled⟩ := Loader.filled_of_outcome? rfl clash_longPath.written
    (show oneModule.goal? (siblingPath "b.py" ".js") = some [.named "b.py.js"] from rfl)
  have hfirst := (transformFiles_alone hdisk .ofOneFunction ["b.py", longPath]).get?
    [.named "b.py.js"]
  have hsecond := (transformFiles_alone hdisk .ofOneFunction [longPath, "b.py"]).get?
    [.named "b.py.js"]
  rw [lastChange_cons, lastChange_cons, hcleared] at hfirst
  rw [lastChange_cons, lastChange_cons, hfilled] at hsecond
  refine ⟨.swap .., hfirst, Option.isSome_of_eq_some hsecond, fun hsame => ?_⟩
  have hget := hsame.get? [.named "b.py.js"]
  cases hfirst.symm.trans (hget.trans hsecond)

end ModuleBridge.Command
