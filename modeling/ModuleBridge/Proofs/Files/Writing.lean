import ModuleBridge.Proofs.Files.Staging

/-!
# Writing files all or nothing

`writeFiles` ends in one of three ways, and the system before it decides in which, the faults of its
disk included. If a file cannot be staged in its turn, nothing has changed
(`writeFiles_of_not_takesAll`). If all can be staged and each can be renamed in its turn, every goal
holds what was written (`writeFiles_of_renamesAll`). If one cannot be renamed, the write fails when
it comes to that path: the goals of the paths in front of it are empty then, whatever was there
before (`writeFiles_of_not_renamesAll`). So a failed write takes nothing away exactly if no file was
at those goals (`same_of_writeFiles_error_iff`).
-/

namespace ModuleBridge.Files

open FileSystem (Same SameDirectories)

/-- What holds of all elements of a list and their places holds of the first one and of those after
it. -/
theorem forall_getElem?_cons {α : Type} {p : Nat → α → Prop} {x : α} {xs : List α} :
    (∀ (i : Nat) (y : α), (x :: xs)[i]? = some y → p i y) ↔
      p 0 x ∧ ∀ (i : Nat) (y : α), xs[i]? = some y → p (i + 1) y := by
  constructor
  · exact fun h => ⟨h 0 x rfl, fun i y hi => h (i + 1) y hi⟩
  · rintro ⟨hzero, hsucc⟩ i y hi
    cases i with
    | zero =>
      cases hi
      exact hzero
    | succ i => exact hsucc i y hi

namespace FileSystem

/-- The goals of some paths to which files are renamed in turn, up to the first to which none can be
renamed. -/
def goals (fs : FileSystem) : List String → List Place
  | [] => []
  | path :: rest =>
    match fs.renameGoal? path with
    | some goal => goal :: (fs.afterRenames 1).goals rest
    | none => []

/-- Can files be renamed to some paths in turn? -/
def renamesAll (fs : FileSystem) : List String → Bool
  | [] => true
  | path :: rest => (fs.renameGoal? path).isSome && (fs.afterRenames 1).renamesAll rest

/-- The system after files were put at the goals of some paths. -/
def putFiles (fs : FileSystem) : List (String × List UInt8) → FileSystem
  | [] => fs
  | (path, contents) :: rest =>
    match fs.goal? path with
    | some goal => (fs.put goal (.file contents)).putFiles rest
    | none => fs.putFiles rest

/-- The system after some places were cleared. -/
def eraseAll (fs : FileSystem) : List Place → FileSystem
  | [] => fs
  | place :: rest => (fs.erase place).eraseAll rest

section
variable {fs fs' : FileSystem} {places : List Place} {paths paths' : List String} {goal : Place}
  {path : String}

/-- Paths have the same goals in systems with the same directories on disks with the same faults. -/
theorem goals_congr (h : SameDirectories fs fs') (hdisk : fs.disk.renames = fs'.disk.renames)
    (paths : List String) : fs.goals paths = fs'.goals paths := by
  induction paths generalizing fs fs' with
  | nil => rfl
  | cons path rest ih =>
    have hnext : (fs.afterRenames 1).goals rest = (fs'.afterRenames 1).goals rest :=
      ih (h.afterRenames 1 1) (by simp only [afterRenames, hdisk])
    rw [goals, goals, renameGoal?_congr h hdisk, hnext]

/-- The goals to which files are renamed in turn are goals of the paths. -/
theorem exists_of_mem_goals (h : goal ∈ fs.goals paths) :
    ∃ path ∈ paths, fs.goal? path = some goal := by
  induction paths generalizing fs with
  | nil => cases h
  | cons path rest ih =>
    rw [goals] at h
    split at h
    · next g hg =>
      cases h with
      | head => exact ⟨path, List.mem_cons_self, (renameGoal?_eq_some_iff.1 hg).2⟩
      | tail _ h =>
        obtain ⟨path', hpath, hg'⟩ := ih h
        rw [← goal?_congr (Same.afterRenames fs 1).sameDirectories] at hg'
        exact ⟨path', .tail _ hpath, hg'⟩
    · cases h

/-- Files can be renamed to the same paths in systems with the same directories on disks with the
same faults. -/
theorem renamesAll_congr (h : SameDirectories fs fs') (hdisk : fs.disk.renames = fs'.disk.renames)
    (paths : List String) : fs.renamesAll paths = fs'.renamesAll paths := by
  induction paths generalizing fs fs' with
  | nil => rfl
  | cons path rest ih =>
    have hnext : (fs.afterRenames 1).renamesAll rest = (fs'.afterRenames 1).renamesAll rest :=
      ih (h.afterRenames 1 1) (by simp only [afterRenames, hdisk])
    rw [renamesAll, renamesAll, renameGoal?_congr h hdisk, hnext]

/-- Files can be renamed to all paths exactly if they can to each in its turn. -/
theorem renamesAll_iff :
    fs.renamesAll paths = true ↔ ∀ (i : Nat) (path : String), paths[i]? = some path →
      ((fs.afterRenames i).renameGoal? path).isSome := by
  induction paths generalizing fs with
  | nil => simp [renamesAll]
  | cons path rest ih =>
    rw [renamesAll, Bool.and_eq_true, ih, forall_getElem?_cons]
    simp only [afterRenames_afterRenames, Nat.add_comm 1]
    rfl

/-- All paths to which files can be renamed have goals. -/
theorem goal?_isSome_of_renamesAll (h : fs.renamesAll paths = true) :
    ∀ path ∈ paths, (fs.goal? path).isSome := by
  intro path hp
  obtain ⟨i, hi⟩ := List.getElem?_of_mem hp
  obtain ⟨goal, hg⟩ := Option.isSome_iff_exists.1 (renamesAll_iff.1 h i path hi)
  obtain ⟨-, hgoal⟩ := renameGoal?_eq_some_iff.1 hg
  exact Option.isSome_iff_exists.2 ⟨goal, hgoal⟩

/-- Does the disk let every file be renamed? -/
def LetsRename (fs : FileSystem) : Prop := ∀ fault ∈ fs.disk.renames, fault = none

/-- Renames that are let happen are so whatever was renamed before. -/
theorem LetsRename.afterRenames (h : fs.LetsRename) (count : Nat) :
    (fs.afterRenames count).LetsRename :=
  fun fault hf => h fault (List.mem_of_mem_drop hf)

/-- On a disk that lets every file be renamed the next one gets the goal of its path. -/
theorem LetsRename.renameGoal?_eq (h : fs.LetsRename) (path : String) :
    fs.renameGoal? path = fs.goal? path := by
  have hnone : fs.renameFault? = none := by
    unfold renameFault?
    cases hr : fs.disk.renames with
    | nil => rfl
    | cons fault rest => rw [h fault (by rw [hr]; exact List.mem_cons_self)]; rfl
  rw [renameGoal?, hnone]

/-- On a disk that lets every file be renamed, files can be renamed to all paths with goals. -/
theorem LetsRename.renamesAll (h : fs.LetsRename) (hg : ∀ path ∈ paths, (fs.goal? path).isSome) :
    fs.renamesAll paths = true := by
  rw [renamesAll_iff]
  intro i path hi
  rw [(h.afterRenames i).renameGoal?_eq]
  exact hg path (List.mem_of_getElem? hi)

/-- Clearing places leaves the working directory. -/
theorem working_eraseAll (fs : FileSystem) (places : List Place) :
    (fs.eraseAll places).working = fs.working := by
  induction places generalizing fs with
  | nil => rfl
  | cons place rest ih => rw [eraseAll, ih, working_erase]

/-- Clearing places leaves what paths lead to that are no texts. -/
theorem foreign_eraseAll (fs : FileSystem) (places : List Place) :
    (fs.eraseAll places).foreign = fs.foreign := by
  induction places generalizing fs with
  | nil => rfl
  | cons place rest ih => rw [eraseAll, ih, foreign_erase]

/-- What is at a place after some places, none of them the root, were cleared. -/
theorem get?_eraseAll (h : ∀ place ∈ places, place ≠ []) (q : Place) :
    (fs.eraseAll places).get? q = if q ∈ places then none else fs.get? q := by
  induction places generalizing fs with
  | nil => simp [eraseAll]
  | cons place rest ih =>
    rw [eraseAll, ih fun p hp => h p (.tail _ hp), get?_erase (h place List.mem_cons_self)]
    by_cases hr : q ∈ rest
    · simp [hr]
    · by_cases hp : q = place
      · simp [hp]
      · simp [hr, hp]

/-- The second system is the first with some places empty. -/
structure Cleared (fs : FileSystem) (places : List Place) (fs' : FileSystem) : Prop where
  working : fs.working = fs'.working
  foreign : fs.foreign = fs'.foreign
  get? : ∀ q, fs'.get? q = if q ∈ places then none else fs.get? q

/-- Clearing places, none of them the root, leaves all else. -/
theorem cleared_eraseAll (h : ∀ place ∈ places, place ≠ []) :
    Cleared fs places (fs.eraseAll places) where
  working := (working_eraseAll fs places).symm
  foreign := (foreign_eraseAll fs places).symm
  get? := get?_eraseAll h

/-- A system that is the same has the same places empty. -/
theorem Cleared.same (h : Cleared fs places fs') (hsame : Same fs' fs'') :
    Cleared fs places fs'' where
  working := h.working.trans hsame.working
  foreign := h.foreign.trans hsame.foreign
  get? := fun q => (hsame.get? q).symm.trans (h.get? q)

/-- It does not matter which of two systems that are the same is compared. -/
theorem Cleared.congr (h : Cleared fs' places fs'') (hsame : Same fs fs') :
    Cleared fs places fs'' where
  working := hsame.working.trans h.working
  foreign := hsame.foreign.trans h.foreign
  get? := fun q => by rw [h.get?, hsame.get?]

/-- Systems that are the same differ by no empty place. -/
theorem Cleared.of_same (h : Same fs fs') : Cleared fs [] fs' where
  working := h.working
  foreign := h.foreign
  get? := fun q => by rw [if_neg List.not_mem_nil, h.get?]

/-- If just places are empty where nothing was, the systems are the same. -/
theorem Cleared.same_of_empty (h : Cleared fs places fs')
    (hnone : ∀ place ∈ places, fs.get? place = none) : Same fs fs' where
  working := h.working
  foreign := h.foreign
  get? := fun q => by
    rw [h.get?]
    split
    · next hq => exact hnone q hq
    · rfl

/-- What was put at one of the places does not matter. -/
theorem Cleared.of_put {node : Node} (h : Cleared (fs.put place node) places fs')
    (hplace : place ≠ []) (hmem : place ∈ places) : Cleared fs places fs' where
  working := h.working
  foreign := h.foreign
  get? := fun q => by
    rw [h.get?]
    split
    · rfl
    · next hq =>
      rw [get?_put hplace, if_neg]
      rintro rfl
      exact hq hmem

/-- Filling a goal leaves all directories as they are. -/
theorem sameDirectories_put_goal (h : fs.goal? path = some goal) (contents : List UInt8) :
    SameDirectories fs (fs.put goal (.file contents)) :=
  sameDirectories_put_file (goal?_ne_nil h) (goal?_not_directory h) contents

/-- Clearing a goal leaves all directories as they are. -/
theorem sameDirectories_erase_goal (h : fs.goal? path = some goal) :
    SameDirectories fs (fs.erase goal) :=
  sameDirectories_erase (goal?_ne_nil h) (goal?_not_directory h)

/-- Filling goals leaves all directories as they are. -/
theorem sameDirectories_putFiles (files : List (String × List UInt8)) :
    SameDirectories fs (fs.putFiles files) := by
  induction files generalizing fs with
  | nil => exact .refl fs
  | cons file rest ih =>
    rw [putFiles]
    split
    · next goal hg => exact (sameDirectories_put_goal hg file.2).trans ih
    · exact ih

/-- Filling goals leaves what paths lead to that are no texts. -/
theorem foreign_putFiles (fs : FileSystem) (files : List (String × List UInt8)) :
    (fs.putFiles files).foreign = fs.foreign := by
  induction files generalizing fs with
  | nil => rfl
  | cons file rest ih =>
    rw [putFiles]
    split
    · rw [ih, foreign_put]
    · exact ih fs

/-- Filling goals in systems with the same contents leaves the same contents. -/
theorem same_putFiles (h : Same fs fs') (files : List (String × List UInt8)) :
    Same (fs.putFiles files) (fs'.putFiles files) := by
  induction files generalizing fs fs' with
  | nil => exact h
  | cons file rest ih =>
    rw [putFiles, putFiles, ← goal?_congr h.sameDirectories]
    split
    · next goal hg => exact ih (h.put (goal?_ne_nil hg) _)
    · exact ih h

/-- Filling goals leaves every other place as it is. -/
theorem get?_putFiles_of_no_goal {files : List (String × List UInt8)} {q : Place}
    (h : ∀ file ∈ files, fs.goal? file.1 ≠ some q) : (fs.putFiles files).get? q = fs.get? q := by
  induction files generalizing fs with
  | nil => rfl
  | cons file rest ih =>
    rw [putFiles]
    split
    · next goal hg =>
      have hdir := sameDirectories_put_goal hg file.2
      have hne : q ≠ goal := fun e => h file List.mem_cons_self (e ▸ hg)
      rw [ih fun f hf => by rw [← goal?_congr hdir]; exact h f (.tail _ hf),
        get?_put (goal?_ne_nil hg), if_neg hne]
    · exact ih fun f hf => h f (.tail _ hf)

/-- After goals were filled, each holds the contents given last for it. -/
theorem get?_putFiles_last {back : List (String × List UInt8)} (hg : fs.goal? path = some goal)
    (h : ∀ file ∈ back, fs.goal? file.1 ≠ some goal) (front : List (String × List UInt8))
    (contents : List UInt8) :
    (fs.putFiles (front ++ (path, contents) :: back)).get? goal = some (.file contents) := by
  induction front generalizing fs with
  | nil =>
    have hdir := sameDirectories_put_goal hg contents
    simp only [List.nil_append, putFiles, hg]
    rw [get?_putFiles_of_no_goal fun f hf => by rw [← goal?_congr hdir]; exact h f hf,
      get?_put (goal?_ne_nil hg), if_pos rfl]
  | cons file rest ih =>
    rw [List.cons_append, putFiles]
    split
    · next goal' hg' =>
      have hdir := sameDirectories_put_goal hg' file.2
      refine ih ?_ fun f hf => ?_
      · rw [← goal?_congr hdir, hg]
      · rw [← goal?_congr hdir]
        exact h f hf
    · exact ih hg h

end

end FileSystem

/-! ## The three parts of a write -/

section
variable {base fs fs' : FileSystem} {waiting : List (Staged × List UInt8)}
  {files : List (String × String)} {committed : List String}

/-- The files of a list with their contents in bytes. -/
def inBytes (files : List (String × String)) : List (String × List UInt8) :=
  files.map fun file => (file.1, Text.Utf8.bytes file.2)

/-- The path and the contents of a waiting file. -/
def ofWaiting (w : Staged × List UInt8) : String × List UInt8 := (w.1.path, w.2)

/-- Can the files be staged, each with what the disk does to it in its turn? -/
def takesAll (fs : FileSystem) : List (String × String) → Bool
  | [] => true
  | file :: rest => takes fs file && takesAll (fs.afterFills 1) rest

/-- All files can be staged exactly if each can in its turn. -/
theorem takesAll_iff :
    takesAll fs files = true ↔ ∀ (i : Nat) (file : String × String), files[i]? = some file →
      takes (fs.afterFills i) file = true := by
  induction files generalizing fs with
  | nil => simp [takesAll]
  | cons file rest ih =>
    rw [takesAll, Bool.and_eq_true, ih, forall_getElem?_cons]
    simp only [FileSystem.afterFills_afterFills, Nat.add_comm 1]
    rfl

/-- The same files can be staged in systems with the same directories on disks with the same faults.
-/
theorem takesAll_congr (h : SameDirectories fs fs') (hdisk : fs.disk.fills = fs'.disk.fills)
    (files : List (String × String)) : takesAll fs files = takesAll fs' files := by
  induction files generalizing fs fs' with
  | nil => rfl
  | cons file rest ih =>
    have hnext : takesAll (fs.afterFills 1) rest = takesAll (fs'.afterFills 1) rest :=
      ih (h.afterFills 1 1) (by simp only [FileSystem.afterFills, hdisk])
    rw [takesAll, takesAll, takes_congr h hdisk, hnext]

/-- Where all files can be staged, all their paths can, whatever the disk does. -/
theorem canStage_of_takesAll (h : takesAll fs files = true) :
    ∀ file ∈ files, canStage fs file.1 = true := by
  intro file hf
  obtain ⟨i, hi⟩ := List.getElem?_of_mem hf
  have ht := takesAll_iff.1 h i file hi
  rw [takes, Bool.and_eq_true] at ht
  rw [canStage_congr (Same.afterFills fs i).sameDirectories]
  exact ht.1

/-- If all files can be staged, all of them wait then, after those that waited before. -/
theorem stageAll_go_ok (h : StagedOver base fs waiting) (hdisk : base.disk = fs.disk)
    (hc : takesAll base files = true) :
    ∃ waiting' fs', stageAll.go (waiting.map (·.1)) files fs = (.ok (waiting'.map (·.1)), fs') ∧
      StagedOver (base.afterFills files.length) fs' waiting' ∧
      (base.afterFills files.length).disk = fs'.disk ∧
      waiting'.map ofWaiting = waiting.reverse.map ofWaiting ++ inBytes files := by
  induction files generalizing base fs waiting with
  | nil =>
    refine ⟨waiting.reverse, fs, ?_, h.perm (List.reverse_perm _).symm, hdisk, by simp [inBytes]⟩
    rw [stageAll.go, List.map_reverse]
  | cons file rest ih =>
    obtain ⟨path, contents⟩ := file
    rw [takesAll, Bool.and_eq_true] at hc
    obtain ⟨place, fs₁, hs, h₁, hdisk₁⟩ := h.stage hdisk hc.1
    obtain ⟨waiting', fs', hgo, h', hdisk', hmap⟩ := ih h₁ hdisk₁ hc.2
    rw [FileSystem.afterFills_afterFills, Nat.add_comm] at h' hdisk'
    refine ⟨waiting', fs', ?_, h', hdisk', ?_⟩
    · rw [stageAll.go, hs]
      exact hgo
    · rw [hmap]
      simp [inBytes, ofWaiting]

/-- If a file cannot be staged in its turn, those that waited are gone, and so are those staged
before it. The error is that of the file. -/
theorem stageAll_go_error {front : List (String × String)} {path contents : String} {e : Error}
    (h : StagedOver base fs waiting) (hdisk : base.disk = fs.disk)
    (hfront : takesAll base front = true)
    (he : (Staged.stage path contents (base.afterFills front.length)).1 = .error e)
    (back : List (String × String)) :
    ∃ fs', stageAll.go (waiting.map (·.1)) (front ++ (path, contents) :: back) fs =
        (.error e, fs') ∧ Same base fs' := by
  induction front generalizing base fs waiting with
  | nil =>
    obtain ⟨fs₁, hs, h₁⟩ := h.stage_error hdisk he
    exact ⟨_, by rw [List.nil_append, stageAll.go, hs], h₁.discardAll⟩
  | cons file rest ih =>
    obtain ⟨path', contents'⟩ := file
    rw [takesAll, Bool.and_eq_true] at hfront
    obtain ⟨place, fs₁, hs, h₁, hdisk₁⟩ := h.stage hdisk hfront.1
    rw [List.length_cons, Nat.add_comm, ← FileSystem.afterFills_afterFills] at he
    obtain ⟨fs', hgo, hsame⟩ := ih h₁ hdisk₁ hfront.2 he
    refine ⟨fs', ?_, (Same.afterFills base 1).trans hsame⟩
    rw [List.cons_append, stageAll.go, hs]
    exact hgo

/-- If all waiting files can be renamed, their contents end up at the goals. -/
theorem commitAll_go_ok (h : StagedOver base fs waiting) (hdisk : base.disk = fs.disk)
    (hg : base.renamesAll (waiting.map (·.1.path)) = true) (committed : List String) :
    ∃ fs', commitAll.go committed (waiting.map (·.1)) fs = (.ok (), fs') ∧
      Same (base.putFiles (waiting.map ofWaiting)) fs' := by
  induction waiting generalizing base fs committed with
  | nil => exact ⟨fs, rfl, h.same⟩
  | cons w rest ih =>
    rw [List.map_cons, FileSystem.renamesAll, Bool.and_eq_true] at hg
    obtain ⟨goal, hw⟩ := Option.isSome_iff_exists.1 hg.1
    obtain ⟨fs₁, hcommit, h₁, hdisk₁⟩ := h.commit hdisk hw
    obtain ⟨-, hgoal⟩ := FileSystem.renameGoal?_eq_some_iff.1 hw
    have hdir := FileSystem.sameDirectories_put_goal hgoal w.2
    obtain ⟨fs', hgo, hsame⟩ :=
      ih h₁ hdisk₁ (FileSystem.renamesAll_congr (hdir.afterRenames 1 1) rfl _ ▸ hg.2)
        (committed ++ [w.1.path])
    refine ⟨fs', ?_, ?_⟩
    · rw [List.map_cons, commitAll.go, hcommit]
      exact hgo
    · simp only [List.map_cons, ofWaiting, FileSystem.putFiles, hgoal]
      exact (FileSystem.same_putFiles (.afterRenames _ 1) _).trans hsame

/-- Removing paths that have goals clears these in the base. -/
theorem StagedOver.removeAll (h : StagedOver base fs waiting)
    (hg : ∀ path ∈ committed, (base.goal? path).isSome) :
    StagedOver (base.eraseAll (committed.filterMap base.goal?)) (removeAll committed fs)
      waiting := by
  induction committed generalizing base fs with
  | nil => exact h
  | cons path rest ih =>
    obtain ⟨goal, hp⟩ := Option.isSome_iff_exists.1 (hg path List.mem_cons_self)
    have hdir := FileSystem.sameDirectories_erase_goal hp
    have hgoals : (base.erase goal).goal? = base.goal? :=
      funext fun p => (FileSystem.goal?_congr hdir p).symm
    have hrest := ih (h.removeFile hp) fun p hp => by
      rw [hgoals]
      exact hg p (.tail _ hp)
    rw [List.filterMap_cons, hp]
    rw [hgoals] at hrest
    exact hrest

/-- If a waiting file cannot be renamed in its turn, the goals of the paths committed so far and of
those in front of it are empty in the end, and all else is as it is in the base. -/
theorem commitAll_go_error (h : StagedOver base fs waiting) (hdisk : base.disk = fs.disk)
    (hc : ∀ path ∈ committed, (base.goal? path).isSome)
    (hg : base.renamesAll (waiting.map (·.1.path)) = false) :
    ∃ e fs', commitAll.go committed (waiting.map (·.1)) fs = (.error e, fs') ∧
      FileSystem.Cleared base
        (committed.filterMap base.goal? ++ base.goals (waiting.map (·.1.path))) fs' := by
  induction waiting generalizing base fs committed with
  | nil => cases hg
  | cons w rest ih =>
    simp only [List.map_cons, FileSystem.goals]
    cases hw : base.renameGoal? w.1.path with
    | none =>
      obtain ⟨e, fs₁, hcommit, h₁⟩ := h.commit_error hdisk hw
      refine ⟨e, _, by rw [commitAll.go, hcommit], ?_⟩
      rw [List.append_nil]
      refine (FileSystem.cleared_eraseAll fun place hp => ?_).same (h₁.removeAll hc).discardAll
      obtain ⟨path, -, hgoal⟩ := List.mem_filterMap.1 hp
      exact FileSystem.goal?_ne_nil hgoal
    | some goal =>
      -- the contents are put at the goal in the base too, which leaves the goals of all paths
      obtain ⟨fs₁, hcommit, h₁, hdisk₁⟩ := h.commit hdisk hw
      obtain ⟨-, hgoal⟩ := FileSystem.renameGoal?_eq_some_iff.1 hw
      have hdir := FileSystem.sameDirectories_put_goal hgoal w.2
      have hgoal? : ((base.put goal (.file w.2)).afterRenames 1).goal? = base.goal? :=
        funext fun p =>
          (FileSystem.goal?_congr (hdir.trans (Same.afterRenames _ 1).sameDirectories) p).symm
      have hc' : ∀ path ∈ committed ++ [w.1.path], (base.goal? path).isSome := by
        intro path hp
        rcases List.mem_append.1 hp with hp | hp
        · exact hc path hp
        · rw [List.mem_singleton.1 hp, hgoal]
          rfl
      have hrest : (base.afterRenames 1).renamesAll (rest.map (·.1.path)) = false := by
        simpa only [List.map_cons, FileSystem.renamesAll, hw, Option.isSome_some, Bool.true_and]
          using hg
      rw [FileSystem.renamesAll_congr (hdir.afterRenames 1 1) rfl] at hrest
      rw [← hgoal?] at hc'
      obtain ⟨e, fs', hgo, hcleared⟩ := ih h₁ hdisk₁ hc' hrest
      refine ⟨e, fs', by rw [commitAll.go, hcommit]; exact hgo, ?_⟩
      have hplaces : (committed ++ [w.1.path]).filterMap base.goal? =
          committed.filterMap base.goal? ++ [goal] := by
        rw [List.filterMap_append, List.filterMap_cons, hgoal, List.filterMap_nil]
      rw [hgoal?, hplaces, ← FileSystem.goals_congr (hdir.afterRenames 1 1) rfl,
        List.append_assoc, List.singleton_append] at hcleared
      exact (hcleared.congr (.afterRenames _ 1)).of_put (FileSystem.goal?_ne_nil hgoal)
        (List.mem_append_right _ List.mem_cons_self)

/-! ## The three ends of a write -/

/-- A write fails with the error of the first file that cannot be staged in its turn, and changes
nothing then. Nothing has been committed. -/
theorem writeFiles_of_stage_error {front : List (String × String)} {path contents : String}
    {e : Error} (hfront : takesAll fs front = true)
    (he : (Staged.stage path contents (fs.afterFills front.length)).1 = .error e)
    (back : List (String × String)) :
    (stageAll (front ++ (path, contents) :: back) fs).1 = .error e ∧
      (writeFiles (front ++ (path, contents) :: back) fs).1 = .error e ∧
      Same fs (writeFiles (front ++ (path, contents) :: back) fs).2 := by
  obtain ⟨fs', hgo, hsame⟩ := stageAll_go_error (.nil fs) rfl hfront he back
  rw [List.map_nil] at hgo
  simp only [writeFiles, Effect.andThen, stageAll, hgo]
  exact ⟨trivial, trivial, hsame⟩

/-- Of files that cannot all be staged there is a first one that cannot. -/
theorem exists_first_not_takes (hc : takesAll fs files = false) :
    ∃ front path contents back e, files = front ++ (path, contents) :: back ∧
      takesAll fs front = true ∧
      (Staged.stage path contents (fs.afterFills front.length)).1 = .error e := by
  induction files generalizing fs with
  | nil => cases hc
  | cons file rest ih =>
    obtain ⟨path, contents⟩ := file
    cases hfirst : (Staged.stage path contents fs).1 with
    | error e => exact ⟨[], path, contents, rest, e, rfl, rfl, hfirst⟩
    | ok staged =>
      have htakes : takes fs (path, contents) = true := takes_iff.2 ⟨staged, hfirst⟩
      rw [takesAll, htakes, Bool.true_and] at hc
      obtain ⟨front, path', contents', back, e, rfl, hfront, he⟩ := ih hc
      refine ⟨(path, contents) :: front, path', contents', back, e, rfl, ?_, ?_⟩
      · rw [takesAll, htakes, Bool.true_and, hfront]
      · rwa [List.length_cons, Nat.add_comm, ← FileSystem.afterFills_afterFills]

/-- If a file cannot be staged in its turn, a write fails and changes nothing. -/
theorem writeFiles_of_not_takesAll (hc : takesAll fs files = false) :
    ∃ e fs', writeFiles files fs = (.error e, fs') ∧ Same fs fs' := by
  obtain ⟨front, path, contents, back, e, rfl, hfront, he⟩ := exists_first_not_takes hc
  obtain ⟨-, herror, hsame⟩ := writeFiles_of_stage_error hfront he back
  exact ⟨e, _, Prod.ext herror rfl, hsame⟩

/-- If all files can be staged, a write commits files with the paths and contents of the list, with
what the disk does to those that are renamed still to come. -/
theorem writeFiles_of_takesAll (hc : takesAll fs files = true) :
    ∃ waiting fs₁, writeFiles files fs = commitAll.go [] (waiting.map (·.1)) fs₁ ∧
      StagedOver (fs.afterFills files.length) fs₁ waiting ∧
      (fs.afterFills files.length).disk = fs₁.disk ∧ waiting.map ofWaiting = inBytes files ∧
      waiting.map (·.1.path) = files.map (·.1) := by
  obtain ⟨waiting, fs₁, hgo, h, hdisk, hmap⟩ := stageAll_go_ok (.nil fs) rfl hc
  rw [List.map_nil] at hgo
  refine ⟨waiting, fs₁, ?_, h, hdisk, hmap, ?_⟩
  · simp only [writeFiles, Effect.andThen, stageAll, hgo, commitAll]
  · simpa [inBytes, ofWaiting, Function.comp_def] using congrArg (List.map (·.1)) hmap

/-- If all files can be staged and all can be renamed, a write fills their goals. -/
theorem writeFiles_of_renamesAll (hc : takesAll fs files = true)
    (hg : fs.renamesAll (files.map (·.1)) = true) :
    ∃ fs', writeFiles files fs = (.ok (), fs') ∧ Same (fs.putFiles (inBytes files)) fs' := by
  obtain ⟨waiting, fs₁, hgo, h, hdisk, hmap, hpaths⟩ := writeFiles_of_takesAll hc
  have hfills := Same.afterFills fs files.length
  rw [← hpaths, FileSystem.renamesAll_congr hfills.sameDirectories rfl] at hg
  obtain ⟨fs', hcommit, hsame⟩ := commitAll_go_ok h hdisk hg []
  rw [hmap] at hsame
  exact ⟨fs', hgo.trans hcommit, (FileSystem.same_putFiles hfills _).trans hsame⟩

/-- If all files can be staged and one cannot be renamed in its turn, a write fails. The goals of
the paths in front of the first that cannot be renamed are empty then, and all else is as before. -/
theorem writeFiles_of_not_renamesAll (hc : takesAll fs files = true)
    (hg : fs.renamesAll (files.map (·.1)) = false) :
    ∃ e fs', writeFiles files fs = (.error e, fs') ∧
      FileSystem.Cleared fs (fs.goals (files.map (·.1))) fs' := by
  obtain ⟨waiting, fs₁, hgo, h, hdisk, -, hpaths⟩ := writeFiles_of_takesAll hc
  have hfills := Same.afterFills fs files.length
  rw [← hpaths, FileSystem.renamesAll_congr hfills.sameDirectories rfl] at hg
  obtain ⟨e, fs', hcommit, hcleared⟩ := commitAll_go_error h hdisk (List.forall_mem_nil _) hg
  rw [List.filterMap_nil, List.nil_append, hpaths,
    ← FileSystem.goals_congr hfills.sameDirectories rfl] at hcleared
  exact ⟨e, fs', hgo.trans hcommit, hcleared.congr hfills⟩

/-! ## What a failed write takes away -/

/-- The goals that are empty after a failed write: none if a file cannot be staged in its turn,
and otherwise those of the paths in front of the first one to which no file can be renamed in its
turn. -/
def clearedGoals (fs : FileSystem) (files : List (String × String)) : List Place :=
  if takesAll fs files then fs.goals (files.map (·.1)) else []

/-- The system after a failed write is the one before it with the cleared goals empty. -/
theorem cleared_of_writeFiles_error {e : Error} (h : writeFiles files fs = (.error e, fs')) :
    FileSystem.Cleared fs (clearedGoals fs files) fs' := by
  unfold clearedGoals
  split
  · next hc =>
    cases hg : fs.renamesAll (files.map (·.1)) with
    | true =>
      obtain ⟨fs₁, hok, -⟩ := writeFiles_of_renamesAll hc hg
      rw [hok] at h
      cases h
    | false =>
      obtain ⟨e', fs₁, herror, hrest⟩ := writeFiles_of_not_renamesAll hc hg
      rw [herror] at h
      cases h
      exact hrest
  · next hc =>
    obtain ⟨e', fs₁, herror, hsame⟩ := writeFiles_of_not_takesAll (by simpa using hc)
    rw [herror] at h
    cases h
    exact .of_same hsame

/-- **When a failed write leaves everything as it was.** It leaves no temporary file and touches no
place but the cleared goals, and it leaves these as they were exactly if nothing was there.
Reference: `write_files`. -/
theorem same_of_writeFiles_error_iff {e : Error} (h : (writeFiles files fs).1 = .error e) :
    (∀ q, q ∉ clearedGoals fs files → (writeFiles files fs).2.get? q = fs.get? q) ∧
      (Same fs (writeFiles files fs).2 ↔ ∀ goal ∈ clearedGoals fs files, fs.get? goal = none) := by
  have hcleared := cleared_of_writeFiles_error (Prod.ext h rfl)
  refine ⟨fun q hq => by rw [hcleared.get?, if_neg hq], fun hsame goal hgoal => ?_,
    hcleared.same_of_empty⟩
  rw [hsame.get?, hcleared.get?, if_pos hgoal]

/-- On a disk that lets every file be renamed, a failed write changes nothing if every path after
the first has a goal once it can be staged. -/
theorem same_of_writeFiles_error {e : Error} (hrename : fs.LetsRename)
    (hg : ∀ file ∈ files.tail, canStage fs file.1 = true → (fs.goal? file.1).isSome)
    (h : writeFiles files fs = (.error e, fs')) : Same fs fs' := by
  suffices hnil : clearedGoals fs files = [] by
    have hcleared := cleared_of_writeFiles_error h
    rw [hnil] at hcleared
    exact hcleared.same_of_empty (List.forall_mem_nil _)
  unfold clearedGoals
  split
  · next hc =>
    cases files with
    | nil => rfl
    | cons file rest =>
      cases hfirst : fs.goal? file.1 with
      | none => simp [FileSystem.goals, hrename.renameGoal?_eq, hfirst]
      | some goal =>
        -- with a goal for the first path all paths have one, and the write did not fail
        have hgoals : ∀ path ∈ (file :: rest).map (·.1), (fs.goal? path).isSome := by
          intro path hp
          obtain ⟨file', hf, rfl⟩ := List.mem_map.1 hp
          cases hf with
          | head => simp [hfirst]
          | tail _ hf => exact hg file' hf (canStage_of_takesAll hc file' (.tail _ hf))
        obtain ⟨fs₁, hok, -⟩ := writeFiles_of_renamesAll hc (hrename.renamesAll hgoals)
        rw [hok] at h
        cases h
  · rfl

/-- A write succeeds exactly if every file can be staged and renamed in its turn. -/
theorem writeFiles_toBool (fs : FileSystem) (files : List (String × String)) :
    (writeFiles files fs).1.toBool = (takesAll fs files && fs.renamesAll (files.map (·.1))) := by
  cases hc : takesAll fs files with
  | false =>
    obtain ⟨e, fs₁, herror, -⟩ := writeFiles_of_not_takesAll hc
    rw [herror]
    rfl
  | true =>
    cases hg : fs.renamesAll (files.map (·.1)) with
    | true =>
      obtain ⟨fs₁, hok, -⟩ := writeFiles_of_renamesAll hc hg
      rw [hok]
      rfl
    | false =>
      obtain ⟨e, fs₁, herror, -⟩ := writeFiles_of_not_renamesAll hc hg
      rw [herror]
      rfl

/-- After a write every path has a goal, and the goals are filled. -/
theorem of_writeFiles_ok (h : writeFiles files fs = (.ok (), fs')) :
    (∀ file ∈ files, (fs.goal? file.1).isSome) ∧ Same (fs.putFiles (inBytes files)) fs' := by
  have hall : (takesAll fs files && fs.renamesAll (files.map (·.1))) = true := by
    rw [← writeFiles_toBool, h]
    rfl
  rw [Bool.and_eq_true] at hall
  obtain ⟨fs₁, hok, hsame⟩ := writeFiles_of_renamesAll hall.1 hall.2
  rw [hok] at h
  cases h
  exact ⟨fun file hf => FileSystem.goal?_isSome_of_renamesAll hall.2 _ (List.mem_map_of_mem hf),
    hsame⟩

/-- After a write a path reads back what was given last for its goal. -/
theorem read_of_writeFiles_ok {front back : List (String × String)} {path contents : String}
    (h : writeFiles (front ++ (path, contents) :: back) fs = (.ok (), fs'))
    (hback : ∀ file ∈ back, fs.goal? file.1 ≠ fs.goal? path) :
    fs'.read path = .ok (Text.Utf8.bytes contents) := by
  obtain ⟨hgoals, hsame⟩ := of_writeFiles_ok h
  obtain ⟨goal, hg⟩ := Option.isSome_iff_exists.1 (hgoals (path, contents) (by simp))
  have hdir := (FileSystem.sameDirectories_putFiles _).trans hsame.sameDirectories
  have hg' : fs'.goal? path = some goal := by rw [← FileSystem.goal?_congr hdir, hg]
  have hlast : ∀ file ∈ inBytes back, fs.goal? file.1 ≠ some goal := by
    intro file hf
    obtain ⟨file', hf', rfl⟩ := List.mem_map.1 hf
    rw [← hg]
    exact hback file' hf'
  have hget := FileSystem.get?_putFiles_last hg hlast (inBytes front) (Text.Utf8.bytes contents)
  refine FileSystem.read_of_goal? hg' ?_
  rw [← hsame.get?, ← hget, inBytes, List.map_append, List.map_cons]
  rfl

/-- A write leaves every place as it is that is no goal. -/
theorem get?_of_writeFiles_ok {q : Place} (h : writeFiles files fs = (.ok (), fs'))
    (hq : ∀ file ∈ files, fs.goal? file.1 ≠ some q) : fs'.get? q = fs.get? q := by
  obtain ⟨-, hsame⟩ := of_writeFiles_ok h
  rw [← hsame.get?]
  apply FileSystem.get?_putFiles_of_no_goal
  intro file hf
  obtain ⟨file', hf', rfl⟩ := List.mem_map.1 hf
  exact hq file' hf'

end

/-- A system with one file, which is called `a`. -/
def oneFile : FileSystem where
  entries := [([.named "a"], .file (Text.Utf8.bytes "old"))]

/-- A write of two new files fails at the second one, whose path ends in a slash, and leaves no
trace. -/
theorem same_of_writeFiles_error_new_files :
    (writeFiles [("b", "new"), ("c/", "x")] oneFile).1 = .error (.file "c/" .notADirectory) ∧
      clearedGoals oneFile [("b", "new"), ("c/", "x")] = [[.named "b"]] ∧
      Same oneFile (writeFiles [("b", "new"), ("c/", "x")] oneFile).2 := by
  have h : (writeFiles [("b", "new"), ("c/", "x")] oneFile).1 =
      .error (.file "c/" .notADirectory) := rfl
  exact ⟨h, by decide, (same_of_writeFiles_error_iff h).2.2 (by decide)⟩

/-- A write over a file and to a path that ends in a slash fails and takes the file away. -/
theorem writeFiles_error_clears_old_file :
    (writeFiles [("a", "new"), ("b/", "x")] oneFile).1 = .error (.file "b/" .notADirectory) ∧
      oneFile.get? [.named "a"] = some (.file (Text.Utf8.bytes "old")) ∧
      (writeFiles [("a", "new"), ("b/", "x")] oneFile).2.get? [.named "a"] = none ∧
      ¬ Same oneFile (writeFiles [("a", "new"), ("b/", "x")] oneFile).2 := by
  have hgone : (writeFiles [("a", "new"), ("b/", "x")] oneFile).2.get? [.named "a"] = none := by
    decide
  refine ⟨rfl, rfl, hgone, fun hsame => ?_⟩
  have hget := hsame.get? [.named "a"]
  rw [hgone] at hget
  cases hget

end ModuleBridge.Files
