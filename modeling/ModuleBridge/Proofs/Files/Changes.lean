import ModuleBridge.Proofs.Files.Writing

/-!
# What a write changes

A write fills the goals of its paths, or it fails and clears some of them. Which of these it is, and
which places are filled or cleared, depends on nothing but directories and the faults of the disk
(`writeChange_congr`), and a write leaves all directories as they are
(`sameDirectories_writeFiles`). So writes that follow each other on a disk without faults do not see
each other (`disk_writeFiles`): each makes the change that it makes to the system at the beginning,
and at each place the last change counts.
-/

namespace ModuleBridge.Files

open FileSystem (Same SameDirectories)

/-- What becomes of each place: it is left as it is, or it is given a node or cleared. -/
abbrev Change := Place → Option (Option Node)

namespace FileSystem

/-- The contents that are given last for a place by files that are put at the goals of paths. -/
def lastContents? (fs : FileSystem) (q : Place) : List (String × List UInt8) → Option (List UInt8)
  | [] => none
  | (path, contents) :: rest =>
    (fs.lastContents? q rest).or (if fs.goal? path = some q then some contents else none)

section
variable {fs fs' : FileSystem} {q : Place} {files : List (String × List UInt8)}
  {contents : List UInt8}

/-- What is written last to a place depends on nothing but the directories. -/
theorem lastContents?_congr (h : SameDirectories fs fs') (q : Place)
    (files : List (String × List UInt8)) : fs.lastContents? q files = fs'.lastContents? q files := by
  induction files with
  | nil => rfl
  | cons file rest ih => rw [lastContents?, lastContents?, ih, goal?_congr h]

/-- What is at a place after goals were filled. -/
theorem get?_putFiles (fs : FileSystem) (q : Place) (files : List (String × List UInt8)) :
    (fs.putFiles files).get? q = ((fs.lastContents? q files).map .file).or (fs.get? q) := by
  induction files generalizing fs with
  | nil => rfl
  | cons file rest ih =>
    obtain ⟨path, contents⟩ := file
    rw [putFiles, lastContents?]
    cases hg : fs.goal? path with
    | none =>
      rw [ih]
      simp
    | some goal =>
      rw [ih, ← lastContents?_congr (sameDirectories_put_goal hg contents),
        get?_put (goal?_ne_nil hg)]
      cases fs.lastContents? q rest with
      | some last => rfl
      | none =>
        by_cases hq : q = goal
        · simp [hq]
        · simp [hq, Ne.symm hq]

/-- Contents are given for the goals of paths only. -/
theorem exists_of_lastContents? (h : fs.lastContents? q files = some contents) :
    ∃ file ∈ files, fs.goal? file.1 = some q ∧ file.2 = contents := by
  induction files with
  | nil => cases h
  | cons file rest ih =>
    rw [lastContents?] at h
    cases hrest : fs.lastContents? q rest with
    | some last =>
      obtain ⟨file', hfile, hg⟩ := ih (hrest.trans (by simpa [hrest] using h))
      exact ⟨file', .tail _ hfile, hg⟩
    | none =>
      rw [hrest, Option.none_or] at h
      split at h
      · next hg => exact ⟨file, List.mem_cons_self, hg, Option.some.inj h⟩
      · cases h

/-- Some contents are given for the goal of each path. -/
theorem lastContents?_isSome {file : String × List UInt8} (hfile : file ∈ files)
    (hg : fs.goal? file.1 = some q) : (fs.lastContents? q files).isSome := by
  induction files with
  | nil => cases hfile
  | cons first rest ih =>
    rw [lastContents?, Option.isSome_or]
    cases hfile with
    | head => simp [hg]
    | tail _ hfile => simp [ih hfile]

end

end FileSystem

/-- Can every file be staged and renamed, each with what the disk does to it in its turn? -/
def canWrite (fs : FileSystem) (files : List (String × String)) : Bool :=
  takesAll fs files && fs.renamesAll (files.map (·.1))

/-- What a write changes. -/
def writeChange (fs : FileSystem) (files : List (String × String)) : Change := fun q =>
  if canWrite fs files then (fs.lastContents? q (inBytes files)).map fun c => some (.file c)
  else if q ∈ clearedGoals fs files then some none
  else none

section
variable {fs fs' : FileSystem} {files : List (String × String)} {q : Place} {change : Option Node}

/-- A disk without faults has none for the file that is filled next either. -/
theorem afterFills_of_disk (hdisk : fs.disk = {}) (count : Nat) : fs.afterFills count = fs := by
  obtain ⟨entries, working, foreign, disk⟩ := fs
  cases hdisk
  simp [FileSystem.afterFills]

/-- A disk without faults lets every file be renamed. -/
theorem letsRename_of_disk (hdisk : fs.disk = {}) : fs.LetsRename := by
  rw [FileSystem.LetsRename, hdisk]
  exact nofun

/-- On a disk without faults, files can be staged whose paths can be. -/
theorem takesAll_of_disk (hdisk : fs.disk = {}) (files : List (String × String)) :
    takesAll fs files = files.all fun file => canStage fs file.1 := by
  induction files with
  | nil => rfl
  | cons file rest ih =>
    have hfill : fs.fillFault? (Text.Utf8.bytes file.2) = none := by
      simp [FileSystem.fillFault?, hdisk]
    rw [takesAll, afterFills_of_disk hdisk, ih, List.all_cons, takes, hfill, Option.isNone_none,
      Bool.and_true]

/-- On a disk without faults, the first of some files is renamed to the goal of its path. -/
theorem goals_cons_of_disk (hdisk : fs.disk = {}) (path : String) (rest : List String) :
    fs.goals (path :: rest) = (fs.goal? path).elim [] fun goal => goal :: fs.goals rest := by
  have hnext : fs.afterRenames 1 = fs := by
    obtain ⟨entries, working, foreign, disk⟩ := fs
    cases hdisk
    rfl
  rw [FileSystem.goals, (letsRename_of_disk hdisk).renameGoal?_eq, hnext]
  cases fs.goal? path <;> rfl

/-- On a disk without faults, files can be written whose paths can be staged and renamed over. -/
theorem canWrite_iff (hdisk : fs.disk = {}) :
    canWrite fs files = true ↔ ∀ file ∈ files,
      canStage fs file.1 = true ∧ (fs.goal? file.1).isSome := by
  rw [canWrite, takesAll_of_disk hdisk, Bool.and_eq_true, List.all_eq_true]
  constructor
  · rintro ⟨hstage, hrenames⟩ file hf
    exact ⟨hstage file hf,
      FileSystem.goal?_isSome_of_renamesAll hrenames _ (List.mem_map_of_mem hf)⟩
  · intro h
    refine ⟨fun file hf => (h file hf).1, (letsRename_of_disk hdisk).renamesAll fun path hp => ?_⟩
    obtain ⟨file, hf, rfl⟩ := List.mem_map.1 hp
    exact (h file hf).2

/-- The same files can be written in systems with the same directories on the same disk. -/
theorem canWrite_congr (h : SameDirectories fs fs') (hdisk : fs.disk = fs'.disk)
    (files : List (String × String)) : canWrite fs files = canWrite fs' files := by
  rw [canWrite, canWrite, takesAll_congr h (congrArg _ hdisk),
    FileSystem.renamesAll_congr h (congrArg _ hdisk)]

/-- A failed write clears the same goals in systems with the same directories on the same disk. -/
theorem clearedGoals_congr (h : SameDirectories fs fs') (hdisk : fs.disk = fs'.disk)
    (files : List (String × String)) : clearedGoals fs files = clearedGoals fs' files := by
  rw [clearedGoals, clearedGoals, takesAll_congr h (congrArg _ hdisk),
    FileSystem.goals_congr h (congrArg _ hdisk)]

/-- A write makes the same change to systems with the same directories on the same disk. -/
theorem writeChange_congr (h : SameDirectories fs fs') (hdisk : fs.disk = fs'.disk)
    (files : List (String × String)) : writeChange fs files = writeChange fs' files := by
  funext q
  simp only [writeChange, canWrite_congr h hdisk, clearedGoals_congr h hdisk,
    FileSystem.lastContents?_congr h]

/-- A write succeeds exactly if every file can be staged and renamed in its turn, and either way it
makes its change. -/
theorem writeFiles_spec (fs : FileSystem) (files : List (String × String)) :
    ((writeFiles files fs).1.toBool = canWrite fs files) ∧
      (writeFiles files fs).2.working = fs.working ∧
      ∀ q, (writeFiles files fs).2.get? q = (writeChange fs files q).getD (fs.get? q) := by
  refine ⟨writeFiles_toBool fs files, ?_⟩
  have hbool : (writeFiles files fs).1.toBool = canWrite fs files := writeFiles_toBool fs files
  obtain ⟨result, fs', hwrite⟩ : ∃ result fs', writeFiles files fs = (result, fs') := ⟨_, _, rfl⟩
  rw [hwrite] at hbool ⊢
  cases result with
  | ok u =>
    obtain ⟨-, hsame⟩ := of_writeFiles_ok hwrite
    refine ⟨hsame.working.symm.trans (FileSystem.sameDirectories_putFiles _).working.symm,
      fun q => ?_⟩
    have hwritten : canWrite fs files = true := hbool.symm
    rw [← hsame.get?, FileSystem.get?_putFiles, writeChange, if_pos hwritten]
    cases fs.lastContents? q (inBytes files) <;> rfl
  | error e =>
    have hcleared := cleared_of_writeFiles_error hwrite
    refine ⟨hcleared.working.symm, fun q => ?_⟩
    have hfailed : canWrite fs files = false := hbool.symm
    rw [hcleared.get?, writeChange, hfailed, if_neg Bool.false_ne_true]
    split <;> rfl

/-- A write leaves what lies at paths that are no texts. -/
theorem foreign_writeFiles (fs : FileSystem) (files : List (String × String)) :
    (writeFiles files fs).2.foreign = fs.foreign := by
  obtain ⟨result, fs', hwrite⟩ : ∃ result fs', writeFiles files fs = (result, fs') := ⟨_, _, rfl⟩
  rw [hwrite]
  cases result with
  | ok u =>
    obtain ⟨-, hsame⟩ := of_writeFiles_ok hwrite
    rw [← hsame.foreign, FileSystem.foreign_putFiles]
  | error e =>
    exact (cleared_of_writeFiles_error hwrite).foreign.symm

/-- A write changes goals only, and puts no directory there. -/
theorem goal?_of_writeChange (h : writeChange fs files q = some change) :
    (∃ file ∈ files, fs.goal? file.1 = some q) ∧ change ≠ some .directory := by
  unfold writeChange at h
  split at h
  · obtain ⟨contents, hlast, rfl⟩ := Option.map_eq_some_iff.1 h
    obtain ⟨file, hfile, hg, -⟩ := FileSystem.exists_of_lastContents? hlast
    obtain ⟨file', hfile', rfl⟩ := List.mem_map.1 hfile
    exact ⟨⟨file', hfile', hg⟩, by simp⟩
  · split at h
    · next hq =>
      cases h
      refine ⟨?_, by simp⟩
      unfold clearedGoals at hq
      split at hq
      · obtain ⟨path, hpath, hg⟩ := FileSystem.exists_of_mem_goals hq
        obtain ⟨file, hfile, rfl⟩ := List.mem_map.1 hpath
        exact ⟨file, hfile, hg⟩
      · cases hq
    · cases h

/-- A write leaves all directories as they are. -/
theorem sameDirectories_writeFiles (fs : FileSystem) (files : List (String × String)) :
    SameDirectories fs (writeFiles files fs).2 := by
  obtain ⟨-, hworking, hget⟩ := writeFiles_spec fs files
  refine ⟨hworking.symm, fun q => ?_⟩
  rw [hget]
  cases hchange : writeChange fs files q with
  | none => rfl
  | some change =>
    obtain ⟨⟨file, -, hg⟩, hne⟩ := goal?_of_writeChange hchange
    exact iff_of_false (FileSystem.goal?_not_directory hg) hne

/-! ## A disk without faults -/

/-- A disk without faults has none after a file was staged. -/
theorem disk_stage (hdisk : fs.disk = {}) (path contents : String) :
    (Staged.stage path contents fs).2.disk = {} := by
  have hfill : fs.fillFault? (Text.Utf8.bytes contents) = none := by
    simp [FileSystem.fillFault?, hdisk]
  unfold Staged.stage
  split
  · exact hdisk
  · split
    · exact hdisk
    · simp only [hfill, FileSystem.afterFills, FileSystem.put, hdisk, List.drop_nil]

/-- Removing a file leaves the disk. -/
theorem disk_removeFile (fs : FileSystem) (path : String) :
    ((fs.removeFile path).toOption.getD fs).disk = fs.disk := by
  cases hr : fs.removeFile path with
  | error failure => rfl
  | ok fs' =>
    obtain ⟨⟨place, node⟩, -, hnode⟩ := exists_of_bind_ok hr
    cases node with
    | directory => cases hnode
    | file contents =>
      cases hnode
      rfl

/-- Renaming a file leaves the disk with the faults that it has. -/
theorem disk_of_rename {place : Place} {path : String}
    (hr : Staged.rename fs place path = .ok fs') : fs'.disk = fs.disk := by
  unfold Staged.rename at hr
  split at hr
  · obtain ⟨goal, -, hr⟩ := exists_of_bind_ok hr
    obtain ⟨target, -, hr⟩ := exists_of_bind_ok hr
    cases target with
    | unnamed q => cases hr
    | named parent name =>
      dsimp only at hr
      split at hr
      · cases hr
      · simp only [pure, Except.pure] at hr
        split at hr
        · cases hr
        · cases hr
          rfl
        · cases hr
  · cases hr

/-- Discarding files leaves the disk. -/
theorem disk_discardAll (staged : List Staged) (fs : FileSystem) :
    (discardAll staged fs).disk = fs.disk := by
  induction staged generalizing fs with
  | nil => rfl
  | cons s rest ih => exact ih (s.discard fs)

/-- Removing files leaves the disk. -/
theorem disk_removeAll (paths : List String) (fs : FileSystem) :
    (removeAll paths fs).disk = fs.disk := by
  induction paths generalizing fs with
  | nil => rfl
  | cons path rest ih => exact (ih _).trans (disk_removeFile fs path)

/-- A disk without faults has none after a file was committed. -/
theorem disk_commit (hdisk : fs.disk = {}) (staged : Staged) : (staged.commit fs).2.disk = {} := by
  unfold Staged.commit
  split
  · next renamed hr =>
    rw [FileSystem.afterRenames, disk_of_rename hr, hdisk]
    rfl
  · simp only [Staged.discard, FileSystem.erase, FileSystem.afterRenames, hdisk, List.drop_nil]

/-- Staging leaves a disk without faults without faults. -/
theorem disk_stageAll_go (hdisk : fs.disk = {}) (done : List Staged)
    (files : List (String × String)) : (stageAll.go done files fs).2.disk = {} := by
  induction files generalizing fs done with
  | nil => exact hdisk
  | cons file rest ih =>
    have hnext := disk_stage hdisk file.1 file.2
    rw [stageAll.go]
    split
    · next staged fs₁ hs =>
      rw [hs] at hnext
      exact ih hnext (staged :: done)
    · next e fs₁ hs =>
      rw [hs] at hnext
      exact (disk_discardAll done fs₁).trans hnext

/-- So does committing. -/
theorem disk_commitAll_go (hdisk : fs.disk = {}) (committed : List String) (staged : List Staged) :
    (commitAll.go committed staged fs).2.disk = {} := by
  induction staged generalizing fs committed with
  | nil => exact hdisk
  | cons s rest ih =>
    have hnext := disk_commit hdisk s
    rw [commitAll.go]
    split
    · next path fs₁ hs =>
      rw [hs] at hnext
      exact ih hnext (committed ++ [path])
    · next e fs₁ hs =>
      rw [hs] at hnext
      exact (disk_discardAll _ _).trans ((disk_removeAll _ _).trans hnext)

/-- A disk without faults has none after a write. -/
theorem disk_writeFiles (hdisk : fs.disk = {}) (files : List (String × String)) :
    (writeFiles files fs).2.disk = {} := by
  have hstage : (stageAll files fs).2.disk = {} := disk_stageAll_go hdisk [] files
  unfold writeFiles Effect.andThen
  split
  · next staged fs₁ hs =>
    rw [hs] at hstage
    exact disk_commitAll_go hstage [] staged
  · next e fs₁ hs =>
    rw [hs] at hstage
    exact hstage

end

end ModuleBridge.Files
