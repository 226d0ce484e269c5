import ModuleBridge.Files.Staging

/-!
# What is at a place, and where a path leads

Every operation on a file system is a `put` or an `erase`, and `get?` reads both back at one place
(`get?_put`, `get?_erase`). A path is walked through directories only, so where it leads depends on
nothing but the working directory and the places of directories (`SameDirectories`). Neither writing
a file where no directory is nor taking one away changes those, which is why `goal?`, the place that
a file gets by being given the name of a path, is the same at every moment of a write.
-/

namespace ModuleBridge.Files

namespace FileSystem

section
variable {fs fs' fs'' : FileSystem} {place goal : Place} {node : Node} {text : String}

/-! ## Reading back -/

/-- The first entry of a place among the entries of the other places, and of all entries. -/
theorem find?_filter_ne (entries : List (Place × Node)) (place q : Place) :
    (entries.filter (·.1 ≠ place)).find? (·.1 = q) =
      if q = place then none else entries.find? (·.1 = q) := by
  induction entries with
  | nil => simp
  | cons e rest ih =>
    by_cases he : e.1 = place
    · rw [List.filter_cons_of_neg (by simp [he]), ih]
      split
      · rfl
      · next hq => rw [List.find?_cons_of_neg (by simpa [he] using Ne.symm hq)]
    · rw [List.filter_cons_of_pos (by simp [he])]
      by_cases hq : e.1 = q
      · rw [List.find?_cons_of_pos (by simp [hq]), List.find?_cons_of_pos (by simp [hq]),
          if_neg (hq ▸ he)]
      · rw [List.find?_cons_of_neg (by simp [hq]), List.find?_cons_of_neg (by simp [hq]), ih]

/-- What is at a place after a node was put at one that is not the root. -/
@[simp] theorem get?_put (hp : place ≠ []) (q : Place) :
    (fs.put place node).get? q = if q = place then some node else fs.get? q := by
  cases q with
  | nil => rw [if_neg hp.symm]; rfl
  | cons name q =>
    by_cases h : name :: q = place
    · subst h
      simp [get?, put]
    · simp only [get?, put, if_neg h]
      rw [List.find?_cons_of_neg (by simpa using Ne.symm h), find?_filter_ne, if_neg h]

/-- What is at a place after one that is not the root was cleared. -/
@[simp] theorem get?_erase (hp : place ≠ []) (q : Place) :
    (fs.erase place).get? q = if q = place then none else fs.get? q := by
  cases q with
  | nil => rw [if_neg hp.symm]; rfl
  | cons name q =>
    simp only [get?, erase, find?_filter_ne]
    split <;> rfl

@[simp] theorem working_put (place : Place) (node : Node) :
    (fs.put place node).working = fs.working := rfl

@[simp] theorem working_erase (place : Place) : (fs.erase place).working = fs.working := rfl

/-- What is at a place does not matter to what is put there. -/
theorem put_erase (fs : FileSystem) (place : Place) (node : Node) :
    (fs.erase place).put place node = fs.put place node := by
  simp [put, erase, List.filter_filter]

/-- Of two nodes put at one place the later one counts. -/
theorem put_put (fs : FileSystem) (place : Place) (node node' : Node) :
    (fs.put place node).put place node' = fs.put place node' := by
  simp [put, List.filter_filter]

@[simp] theorem foreign_put (place : Place) (node : Node) :
    (fs.put place node).foreign = fs.foreign := rfl

@[simp] theorem foreign_erase (place : Place) : (fs.erase place).foreign = fs.foreign := rfl

/-- What is at a place does not depend on the disk. -/
@[simp] theorem get?_afterFills (count : Nat) (q : Place) :
    (fs.afterFills count).get? q = fs.get? q := rfl

/-- The faults that are left for renames do not matter for what is where. -/
@[simp] theorem get?_afterRenames (count : Nat) (q : Place) :
    (fs.afterRenames count).get? q = fs.get? q := rfl

/-- Faults are met in their order. -/
theorem afterFills_afterFills (fs : FileSystem) (count more : Nat) :
    (fs.afterFills count).afterFills more = fs.afterFills (count + more) := by
  simp only [afterFills, List.drop_drop]

/-- Faults of renames are used up one after another. -/
theorem afterRenames_afterRenames (fs : FileSystem) (count more : Nat) :
    (fs.afterRenames count).afterRenames more = fs.afterRenames (count + more) := by
  simp only [afterRenames, List.drop_drop]

/-- The next file meets the same fault on the same disk. -/
theorem fillFault?_congr {fs' : FileSystem} (h : fs.disk.fills = fs'.disk.fills)
    (contents : List UInt8) : fs.fillFault? contents = fs'.fillFault? contents := by
  rw [fillFault?, fillFault?, h]

/-- Every number that was drawn for a file lies below the unused one. -/
theorem drawBound_le_unusedDraw {e : Place × Node} (he : e ∈ fs.entries) :
    drawBound e.1 ≤ fs.unusedDraw := by
  unfold unusedDraw
  generalize fs.entries = entries at he
  induction he with
  | head => exact Nat.le_max_left ..
  | tail _ _ ih => exact Nat.le_trans ih (Nat.le_max_right ..)

/-- Nothing is at a place whose name is drawn with the unused number. -/
theorem get?_unusedDraw (target : Option String) (directory : Place) :
    fs.get? (.temporary target fs.unusedDraw :: directory) = none := by
  simp only [get?, Option.map_eq_none_iff, List.find?_eq_none, decide_eq_true_eq]
  intro e he hplace
  have hle := drawBound_le_unusedDraw he
  rw [hplace] at hle
  exact absurd hle (Nat.not_succ_le_self _)

end

/-! ## Systems with the same contents -/

/-- The systems have the same working directory and the same node at every place, and what paths
lead to that are no texts is the same. The disk does not matter. -/
structure Same (fs fs' : FileSystem) : Prop where
  working : fs.working = fs'.working
  get? : ∀ place, fs.get? place = fs'.get? place
  foreign : fs.foreign = fs'.foreign

/-- A system is the same as itself. -/
theorem Same.refl (fs : FileSystem) : Same fs fs := ⟨rfl, fun _ => rfl, rfl⟩

/-- Being the same is symmetric. -/
theorem Same.symm {fs fs' : FileSystem} (h : Same fs fs') : Same fs' fs :=
  ⟨h.working.symm, fun place => (h.get? place).symm, h.foreign.symm⟩

/-- Being the same is transitive. -/
theorem Same.trans {fs fs' fs'' : FileSystem} (h : Same fs fs') (h' : Same fs' fs'') :
    Same fs fs'' :=
  ⟨h.working.trans h'.working, fun place => (h.get? place).trans (h'.get? place),
    h.foreign.trans h'.foreign⟩

/-- The faults that a disk has had do not show in the files. -/
theorem Same.afterFills (fs : FileSystem) (count : Nat) : Same fs (fs.afterFills count) :=
  ⟨rfl, fun _ => rfl, rfl⟩

/-- The faults that a disk has had at renames do not show in the files either. -/
theorem Same.afterRenames (fs : FileSystem) (count : Nat) : Same fs (fs.afterRenames count) :=
  ⟨rfl, fun _ => rfl, rfl⟩

/-- The systems have the same working directory and directories at the same places. -/
structure SameDirectories (fs fs' : FileSystem) : Prop where
  working : fs.working = fs'.working
  directory_iff : ∀ place, fs.get? place = some .directory ↔ fs'.get? place = some .directory

section
variable {fs fs' fs'' : FileSystem} {place goal : Place} {text : String} {path : Path}

/-- A system has the same directories as itself. -/
theorem SameDirectories.refl (fs : FileSystem) : SameDirectories fs fs := ⟨rfl, fun _ => .rfl⟩

/-- Having the same directories is symmetric. -/
theorem SameDirectories.symm (h : SameDirectories fs fs') : SameDirectories fs' fs :=
  ⟨h.working.symm, fun place => (h.directory_iff place).symm⟩

/-- Having the same directories is transitive. -/
theorem SameDirectories.trans (h : SameDirectories fs fs') (h' : SameDirectories fs' fs'') :
    SameDirectories fs fs'' :=
  ⟨h.working.trans h'.working, fun place => (h.directory_iff place).trans (h'.directory_iff place)⟩

/-- Systems that are the same have the same directories. -/
theorem Same.sameDirectories (h : Same fs fs') : SameDirectories fs fs' :=
  ⟨h.working, fun place => by rw [h.get? place]⟩

/-- A file that is put where no directory is leaves all directories as they are. -/
theorem sameDirectories_put_file (hp : place ≠ []) (hd : fs.get? place ≠ some .directory)
    (contents : List UInt8) : SameDirectories fs (fs.put place (.file contents)) := by
  refine ⟨rfl, fun q => ?_⟩
  rw [get?_put hp]
  split
  · next h => subst h; simp [hd]
  · rfl

/-- Clearing a place where no directory is leaves all directories as they are. -/
theorem sameDirectories_erase (hp : place ≠ []) (hd : fs.get? place ≠ some .directory) :
    SameDirectories fs (fs.erase place) := by
  refine ⟨rfl, fun q => ?_⟩
  rw [get?_erase hp]
  split
  · next h => subst h; simp [hd]
  · rfl

/-- The faults of a disk have no part in where directories are. -/
theorem SameDirectories.afterFills (h : SameDirectories fs fs') (count count' : Nat) :
    SameDirectories (fs.afterFills count) (fs'.afterFills count') :=
  ⟨h.working, h.directory_iff⟩

/-- Nor have the faults at renames. -/
theorem SameDirectories.afterRenames (h : SameDirectories fs fs') (count count' : Nat) :
    SameDirectories (fs.afterRenames count) (fs'.afterRenames count') :=
  ⟨h.working, h.directory_iff⟩

/-- A node put at the same place of systems with the same contents leaves the same contents. -/
theorem Same.put (h : Same fs fs') (hp : place ≠ []) (node : Node) :
    Same (fs.put place node) (fs'.put place node) :=
  ⟨h.working, fun q => by rw [get?_put hp, get?_put hp, h.get? q], h.foreign⟩

/-! ## Where a path leads -/

/-- A step that leads somewhere leads there in a system with the same directories. -/
theorem step_ok_congr (h : SameDirectories fs fs') {s : Step} {q : Place}
    (hs : fs.step place s = .ok q) : fs'.step place s = .ok q := by
  cases s with
  | stay => exact hs
  | up => exact hs
  | down name =>
    simp only [step] at hs ⊢
    split at hs
    · cases hs
    · next hl =>
      rw [if_neg hl]
      split at hs
      · cases hs
      · next hd => rw [(h.directory_iff _).1 hd]; exact hs
      · cases hs

/-- Steps that lead somewhere lead there in a system with the same directories. -/
theorem directory_ok_congr (h : SameDirectories fs fs') {steps : List Step} {q : Place}
    (hs : fs.directory place steps = .ok q) : fs'.directory place steps = .ok q := by
  induction steps generalizing place with
  | nil => exact hs
  | cons s rest ih =>
    simp only [directory, List.foldlM_cons] at hs ⊢
    cases hstep : fs.step place s with
    | error e => rw [hstep] at hs; cases hs
    | ok p =>
      rw [hstep] at hs
      rw [step_ok_congr h hstep]
      exact ih hs

/-- Where a path starts depends on nothing but the directories. -/
theorem start_congr (h : SameDirectories fs fs') (path : Path) :
    fs.start path = fs'.start path := by
  simp only [start, h.working]

/-- A path that leads to a directory leads to it in a system with the same directories. -/
theorem directoryAt_ok_congr (h : SameDirectories fs fs') {q : Place}
    (hs : fs.directoryAt path = .ok q) : fs'.directoryAt path = .ok q := by
  rw [directoryAt, ← start_congr h]
  exact directory_ok_congr h hs

/-- A path leads to a name in a directory if its last step goes down to the name, the steps before
it lead to the directory, and the name is not too long. -/
theorem target_eq_named_iff {parent : Place} {name : String} :
    fs.target path = .ok (.named parent name) ↔
      path.steps.getLast? = some (.down name) ∧
        fs.directory (fs.start path) path.steps.dropLast = .ok parent ∧
        isTooLong name = false := by
  unfold target
  constructor
  · intro h
    split at h
    · next n hl =>
      obtain ⟨q, hd, h⟩ := exists_of_bind_ok h
      split at h
      · cases h
      · next ht => cases h; exact ⟨hl, hd, by simpa using ht⟩
    · obtain ⟨q, -, h⟩ := exists_of_bind_ok h
      cases h
  · rintro ⟨hl, hd, ht⟩
    simp [hl, hd, ht, bind, Except.bind]

/-- A path that leads somewhere leads there in a system with the same directories. -/
theorem target_ok_congr (h : SameDirectories fs fs') {t : Target} (ht : fs.target path = .ok t) :
    fs'.target path = .ok t := by
  cases t with
  | named parent name =>
    obtain ⟨hl, hd, hn⟩ := target_eq_named_iff.1 ht
    rw [start_congr h] at hd
    exact target_eq_named_iff.2 ⟨hl, directory_ok_congr h hd, hn⟩
  | unnamed q =>
    unfold target at ht ⊢
    split at ht
    · obtain ⟨q, -, ht⟩ := exists_of_bind_ok ht
      split at ht <;> cases ht
    · obtain ⟨q, hd, ht⟩ := exists_of_bind_ok ht
      rw [directoryAt_ok_congr h hd]
      exact ht

/-- A path that leads to a directory leads to it in a system with the same directories. -/
theorem find_directory_congr (h : SameDirectories fs fs')
    (hf : fs.find text = .ok (place, .directory)) : fs'.find text = .ok (place, .directory) := by
  unfold find at hf ⊢
  cases hp : Path.ofText? text with
  | error e => rw [hp] at hf; cases hf
  | ok path =>
    rw [hp] at hf
    simp only [bind, Except.bind] at hf ⊢
    cases ht : fs.target path with
    | error e => rw [ht] at hf; cases hf
    | ok t =>
      rw [ht] at hf
      rw [target_ok_congr h ht]
      cases t with
      | unnamed q => exact hf
      | named parent name =>
        simp only at hf ⊢
        split at hf
        · cases hf
        · split at hf <;> cases hf
        · next hd => rw [(h.directory_iff _).1 hd]; exact hf

/-- A path is one of a directory exactly if a directory is found there. -/
theorem isDirectory_iff : fs.isDirectory text = true ↔ ∃ q, fs.find text = .ok (q, .directory) := by
  unfold isDirectory
  constructor
  · intro h
    split at h
    · next q hf => exact ⟨q, hf⟩
    · cases h
  · rintro ⟨q, hf⟩
    rw [hf]

/-- The same paths lead to directories in systems with the same directories. -/
theorem isDirectory_congr (h : SameDirectories fs fs') (text : String) :
    fs.isDirectory text = fs'.isDirectory text := by
  rw [Bool.eq_iff_iff, isDirectory_iff, isDirectory_iff]
  exact ⟨fun ⟨q, hq⟩ => ⟨q, find_directory_congr h hq⟩,
    fun ⟨q, hq⟩ => ⟨q, find_directory_congr h.symm hq⟩⟩

end

/-- The systems have the same working directory and, under every name that was not drawn, the same
node. -/
structure SameNamed (fs fs' : FileSystem) : Prop where
  working : fs.working = fs'.working
  get? : ∀ name parent, fs.get? (.named name :: parent) = fs'.get? (.named name :: parent)

section
variable {fs fs' : FileSystem}

/-- No step goes to a drawn name. -/
theorem SameNamed.step_eq (h : SameNamed fs fs') : fs.step = fs'.step := by
  funext place s
  cases s with
  | stay => rfl
  | up => rfl
  | down name => simp only [step, h.get?]

/-- A path leads to the same directory, or fails to for the same reason. -/
theorem SameNamed.directoryAt_eq (h : SameNamed fs fs') (path : Path) :
    fs.directoryAt path = fs'.directoryAt path := by
  rw [directoryAt, directoryAt, directory, directory, h.step_eq, start, start, h.working]

end

/-! ## The goal of a path -/

/-- The place of a file that is given the name to which a path leads. There is none if the system
does not take the path, if the path names no file, or if a directory has the name. -/
def goal? (fs : FileSystem) (text : String) : Option Place :=
  match Path.ofText? text with
  | .error _ => none
  | .ok path =>
    match fs.target path with
    | .ok (.named parent name) =>
      if path.endsInSlash || fs.get? (.named name :: parent) = some .directory then none
      else some (.named name :: parent)
    | _ => none

section
variable {fs fs' : FileSystem} {place goal : Place} {text : String} {contents : List UInt8}

/-- The goal of a path is a name in the directory that the path leads to, if no directory has the
name already. -/
theorem goal?_eq_some_iff :
    fs.goal? text = some goal ↔
      ∃ path parent name, Path.ofText? text = .ok path ∧
        fs.target path = .ok (.named parent name) ∧ path.endsInSlash = false ∧
        goal = .named name :: parent ∧ fs.get? goal ≠ some .directory := by
  unfold goal?
  constructor
  · intro h
    split at h
    · cases h
    · next path hp =>
      split at h
      · next parent name ht =>
        split at h
        · cases h
        · next hc =>
          cases h
          simp only [Bool.or_eq_true, decide_eq_true_eq, not_or, Bool.not_eq_true] at hc
          exact ⟨path, parent, name, hp, ht, hc.1, rfl, hc.2⟩
      · cases h
  · rintro ⟨path, parent, name, hp, ht, hs, rfl, hd⟩
    simp [hp, ht, hs, hd]

/-- The goal of a path has a name that was not drawn. -/
theorem goal?_named (h : fs.goal? text = some goal) :
    ∃ name parent, goal = .named name :: parent := by
  obtain ⟨_, parent, name, -, -, -, rfl, -⟩ := goal?_eq_some_iff.1 h
  exact ⟨name, parent, rfl⟩

/-- The root is no goal. -/
theorem goal?_ne_nil (h : fs.goal? text = some goal) : goal ≠ [] := by
  obtain ⟨_, _, rfl⟩ := goal?_named h
  exact List.cons_ne_nil _ _

/-- At a goal there is no directory. -/
theorem goal?_not_directory (h : fs.goal? text = some goal) : fs.get? goal ≠ some .directory := by
  obtain ⟨_, _, _, -, -, -, -, hd⟩ := goal?_eq_some_iff.1 h
  exact hd

/-- A path has its goal in every system with the same directories. -/
theorem goal?_congr (h : SameDirectories fs fs') (text : String) :
    fs.goal? text = fs'.goal? text := by
  have imp {fs fs' : FileSystem} (h : SameDirectories fs fs') {goal : Place}
      (hg : fs.goal? text = some goal) : fs'.goal? text = some goal := by
    obtain ⟨path, parent, name, hp, ht, hs, rfl, hd⟩ := goal?_eq_some_iff.1 hg
    exact goal?_eq_some_iff.2 ⟨path, parent, name, hp, target_ok_congr h ht, hs, rfl,
      fun hd' => hd ((h.directory_iff _).2 hd')⟩
  apply Option.ext
  exact fun goal => ⟨imp h, imp h.symm⟩

/-- What a path finds is what is at its goal. -/
theorem find_of_goal? (h : fs.goal? text = some goal) :
    fs.find text = match fs.get? goal with
      | some node => .ok (goal, node)
      | none => .error .notFound := by
  obtain ⟨path, parent, name, hp, ht, hs, rfl, hd⟩ := goal?_eq_some_iff.1 h
  simp only [find, hp, ht, bind, Except.bind]
  cases hg : fs.get? (.named name :: parent) with
  | none => rfl
  | some node =>
    cases node with
    | directory => exact absurd hg hd
    | file contents => simp [hs, pure, Except.pure]

/-- A file that is found is at the goal of its path. -/
theorem of_find_file (h : fs.find text = .ok (place, .file contents)) :
    fs.goal? text = some place ∧ fs.get? place = some (.file contents) := by
  obtain ⟨path, hp, h⟩ := exists_of_bind_ok h
  obtain ⟨t, ht, h⟩ := exists_of_bind_ok h
  cases t with
  | unnamed q => cases h
  | named parent name =>
    dsimp only at h
    split at h
    · cases h
    · next hfile =>
      split at h
      · cases h
      · next hslash =>
        cases h
        refine ⟨goal?_eq_some_iff.2 ⟨path, parent, name, hp, ht, by simpa using hslash, rfl, ?_⟩,
          hfile⟩
        rw [hfile]
        simp
    · cases h

/-- Reading a path gives the contents of the file at its goal. -/
theorem read_of_goal? (h : fs.goal? text = some goal) (hf : fs.get? goal = some (.file contents)) :
    fs.read text = .ok contents := by
  simp [read, find_of_goal? h, hf, bind, Except.bind, pure, Except.pure]

/-- Removing a path clears its goal, whether or not a file is there. -/
theorem same_removeFile (h : fs.goal? text = some goal) :
    Same (fs.erase goal) ((fs.removeFile text).toOption.getD fs) := by
  have hfind := find_of_goal? h
  cases hg : fs.get? goal with
  | none =>
    have hr : fs.removeFile text = .error .notFound := by
      simp [removeFile, hfind, hg, bind, Except.bind]
    rw [hr]
    refine ⟨rfl, fun q => ?_, rfl⟩
    rw [get?_erase (goal?_ne_nil h)]
    split
    · next hq => subst hq; exact hg.symm
    · rfl
  | some node =>
    cases node with
    | directory => exact absurd hg (goal?_not_directory h)
    | file contents =>
      have hr : fs.removeFile text = .ok (fs.erase goal) := by
        simp [removeFile, hfind, hg, bind, Except.bind, pure, Except.pure]
      rw [hr]
      exact Same.refl _

end

end FileSystem

end ModuleBridge.Files
