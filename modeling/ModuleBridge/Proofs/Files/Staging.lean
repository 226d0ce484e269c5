import ModuleBridge.Proofs.Files.Places

/-!
# Staged files over a system

Staging a file succeeds if the system lets a temporary file be made for its path (`canStage`) and
the disk has no fault for the bytes (`FileSystem.fillFault?`). A file that cannot be filled is taken
away again, so a stage that fails changes nothing, whichever of its steps fails (`of_stage_error`).

While files wait for their names, the system is some base system with the waiting files over it
(`StagedOver`): each lies at a drawn place that the base leaves free, and every other place is as it
is in the base. Staging adds a waiting file, discarding takes one away (`StagedOver.discard`), and a
commit moves its contents into the base (`StagedOver.commit`). Directories are those of the base all
the while (`StagedOver.sameDirectories`), so what can be staged and where a path leads is decided by
the base alone.
-/

namespace ModuleBridge.Files

open FileSystem (Same SameDirectories SameNamed)

section
variable {fs fs' : FileSystem} {place goal : Place} {node : Node} {text path contents : String}

/-! ## What can be staged -/

/-- Can a file be staged for a path? -/
def canStage (fs : FileSystem) (path : String) : Bool :=
  !fs.isDirectory path && (Staged.draw fs path).toBool

/-- The path of a new file shows no drawn number and depends on the working directory only. -/
theorem fullPath_congr (h : fs.working = fs'.working) (text : String) (target : Option String)
    (draw draw' : Nat) :
    Staged.fullPath fs text (.temporary target draw) =
      Staged.fullPath fs' text (.temporary target draw') := by
  simp only [Staged.fullPath, FileName.text, h]

/-- A name is drawn for a path if the system takes the path of the new file, and if that path leads
to a directory and the name is not too long. The name has the unused number. -/
theorem draw_eq_ok_iff :
    Staged.draw fs text = .ok place ↔
      ∃ directory, '\x00' ∉ text.toList ∧
        (Staged.fullPath fs text (Staged.newName fs text)).utf8ByteSize ≤ pathLimit ∧
        fs.directoryAt (Path.ofText (Path.parentText text)) = .ok directory ∧
        FileSystem.isTooLong (Staged.newName fs text).text = false ∧
        place = Staged.newName fs text :: directory := by
  simp only [Staged.draw]
  generalize Staged.newName fs text = name
  generalize Staged.fullPath fs text _ = fullPath
  constructor
  · intro h
    split at h
    · cases h
    · next hnul =>
      split at h
      · cases h
      · next hlimit =>
        split at h
        · cases h
        · next directory hd =>
          split at h
          · cases h
          · next ht =>
            cases h
            exact ⟨directory, by simpa using hnul, Nat.le_of_not_lt hlimit, hd, by simpa using ht,
              rfl⟩
  · rintro ⟨directory, hnul, hlimit, hd, ht, rfl⟩
    simp [hnul, Nat.not_lt.2 hlimit, hd, ht]

/-- A name is drawn for the same paths in systems with the same directories. -/
theorem draw_ok_congr (h : SameDirectories fs fs') (hd : (Staged.draw fs text).toBool = true) :
    (Staged.draw fs' text).toBool = true := by
  cases hp : Staged.draw fs text with
  | error e => rw [hp] at hd; cases hd
  | ok place =>
    obtain ⟨directory, hnul, hlimit, hdir, ht, -⟩ := draw_eq_ok_iff.1 hp
    rw [Staged.newName, fullPath_congr h.working text _ _ fs'.unusedDraw] at hlimit
    have hok : Staged.draw fs' text = .ok _ :=
      draw_eq_ok_iff.2 ⟨directory, hnul, hlimit, FileSystem.directoryAt_ok_congr h hdir, ht, rfl⟩
    rw [hok]
    rfl

/-- The same paths can be staged in systems with the same directories. -/
theorem canStage_congr (h : SameDirectories fs fs') (path : String) :
    canStage fs path = canStage fs' path := by
  have hdraw : (Staged.draw fs path).toBool = (Staged.draw fs' path).toBool :=
    Bool.eq_iff_iff.2 ⟨draw_ok_congr h, draw_ok_congr h.symm⟩
  rw [canStage, canStage, FileSystem.isDirectory_congr h, hdraw]

/-- The place is one at which a new file for a path can be made: the path leads to no directory, and
the place is free and lies in the path's directory under a drawn name. -/
structure Draws (fs : FileSystem) (path : String) (place : Place) : Prop where
  noDirectory : fs.isDirectory path = false
  drawn : ∃ draw directory,
    place = .temporary (Path.ofText path).fileName? draw :: directory ∧
      fs.directoryAt (Path.ofText (Path.parentText path)) = .ok directory
  free : fs.get? place = none

/-- A place at which a file can be made is not the root. -/
theorem Draws.ne_nil (h : Draws fs path place) : place ≠ [] := by
  obtain ⟨draw, directory, hp, -⟩ := h.drawn
  simp [hp]

/-- A place that is drawn for a path is one at which a file for it can be made. -/
theorem draws_of_draw (hdirectory : fs.isDirectory path = false)
    (h : Staged.draw fs path = .ok place) : Draws fs path place := by
  obtain ⟨directory, -, -, hparent, -, rfl⟩ := draw_eq_ok_iff.1 h
  exact ⟨hdirectory, ⟨_, _, rfl, hparent⟩, fs.get?_unusedDraw _ _⟩

/-- A file that a fault has stopped leaves the system as it was once it is taken away, whatever was
written to it. -/
theorem Draws.same_discard (h : Draws fs path place) (written : List UInt8) (fault : Fault) :
    Same fs (Staged.discard ⟨path, place⟩ ((fs.stopped place written fault).afterFills 1)) := by
  -- every other place is out of reach of the fault, and the place itself is cleared
  have hother : ∀ q, q ≠ place → (fs.stopped place written fault).get? q = fs.get? q := by
    intro q hq
    cases fault with
    | make failure => rfl
    | write count failure => rw [FileSystem.stopped, FileSystem.get?_put h.ne_nil, if_neg hq]
    | sync failure => rw [FileSystem.stopped, FileSystem.get?_put h.ne_nil, if_neg hq]
  refine ⟨by cases fault <;> rfl, fun q => ?_, by cases fault <;> rfl⟩
  rw [Staged.discard, FileSystem.get?_erase h.ne_nil, FileSystem.get?_afterFills]
  split
  · next hq => rw [hq, h.free]
  · next hq => rw [hother q hq]

/-- What staging does when it succeeds: it puts the contents at a new place. -/
theorem of_stage_ok {staged : Staged} (h : Staged.stage path contents fs = (.ok staged, fs')) :
    staged.path = path ∧ Draws fs path staged.place ∧
      fs.fillFault? (Text.Utf8.bytes contents) = none ∧
      fs' = (fs.put staged.place (.file (Text.Utf8.bytes contents))).afterFills 1 := by
  unfold Staged.stage at h
  split at h
  · cases h
  · next hdirectory =>
    split at h
    · cases h
    · next place hd =>
      simp only at h
      split at h
      · next hfill =>
        cases h
        exact ⟨rfl, draws_of_draw (by simpa using hdirectory) hd, hfill, rfl⟩
      · cases h

/-- Staging changes nothing when it fails, be it before its file is made or while that is filled. -/
theorem of_stage_error {e : Error} (h : Staged.stage path contents fs = (.error e, fs')) :
    Same fs fs' := by
  unfold Staged.stage at h
  split at h
  · cases h
    exact .refl fs
  · next hdirectory =>
    split at h
    · cases h
      exact .refl fs
    · next place hd =>
      simp only at h
      split at h
      · cases h
      · cases h
        exact (draws_of_draw (by simpa using hdirectory) hd).same_discard _ _

/-- No name is drawn for a path for the same reason wherever drawn names alone are different. -/
theorem draw_error_congr (h : SameNamed fs fs') {failure : SystemFailure}
    (hd : Staged.draw fs text = .error failure) : Staged.draw fs' text = .error failure := by
  have hlong : (Staged.newName fs text).text = (Staged.newName fs' text).text := rfl
  have hfull : Staged.fullPath fs text (Staged.newName fs text) =
      Staged.fullPath fs' text (Staged.newName fs' text) :=
    fullPath_congr h.working text _ _ fs'.unusedDraw
  simp only [Staged.draw, hfull, h.directoryAt_eq, hlong] at hd ⊢
  split at hd
  · next hnul => rwa [if_pos hnul]
  · next hnul =>
    rw [if_neg hnul]
    split at hd
    · next hlimit => rwa [if_pos hlimit]
    · next hlimit =>
      rw [if_neg hlimit]
      split at hd
      · exact hd
      · split at hd
        · next hname => rwa [if_pos hname]
        · cases hd

/-- Staging fails for the same reason in systems with the same directories whose nodes are different
under drawn names alone, if their disks have the same faults for files. -/
theorem stage_error_congr (hn : SameNamed fs fs') (hd : SameDirectories fs fs')
    (hdisk : fs.disk.fills = fs'.disk.fills) {e : Error}
    (h : (Staged.stage path contents fs).1 = .error e) :
    (Staged.stage path contents fs').1 = .error e := by
  unfold Staged.stage at h ⊢
  rw [← FileSystem.isDirectory_congr hd]
  split
  · next hdirectory => rwa [if_pos hdirectory] at h
  · next hdirectory =>
    rw [if_neg hdirectory] at h
    cases hdraw : Staged.draw fs path with
    | error failure =>
      rw [hdraw] at h
      rwa [draw_error_congr hn hdraw]
    | ok place =>
      have hfull : Staged.fullPath fs path (Staged.newName fs path) =
          Staged.fullPath fs' path (Staged.newName fs' path) :=
        fullPath_congr hd.working path _ _ fs'.unusedDraw
      obtain ⟨place', hdraw'⟩ : ∃ place', Staged.draw fs' path = .ok place' := by
        have hbool := draw_ok_congr hd (by rw [hdraw]; rfl)
        cases hp : Staged.draw fs' path with
        | error failure => rw [hp] at hbool; cases hbool
        | ok place' => exact ⟨place', rfl⟩
      rw [hdraw] at h
      rw [hdraw']
      simp only [FileSystem.fillFault?_congr hdisk, hfull] at h ⊢
      split at h
      · cases h
      · exact h

/-- Can a file be staged, with what the disk does to it next? -/
def takes (fs : FileSystem) (file : String × String) : Bool :=
  canStage fs file.1 && (fs.fillFault? (Text.Utf8.bytes file.2)).isNone

/-- A file is staged exactly if its path can be staged and the disk takes its contents. -/
theorem takes_iff :
    takes fs (path, contents) = true ↔
      ∃ staged, (Staged.stage path contents fs).1 = .ok staged := by
  unfold takes canStage Staged.stage
  cases fs.isDirectory path with
  | true => simp
  | false =>
    cases Staged.draw fs path with
    | error failure => simp [Except.toBool]
    | ok place =>
      cases hfill : fs.fillFault? (Text.Utf8.bytes contents) with
      | none => simp [hfill, Except.toBool]
      | some fault => simp [hfill]

/-- The same files can be staged in systems with the same directories on disks with the same faults.
-/
theorem takes_congr (h : SameDirectories fs fs') (hdisk : fs.disk.fills = fs'.disk.fills)
    (file : String × String) : takes fs file = takes fs' file := by
  rw [takes, takes, canStage_congr h, FileSystem.fillFault?_congr hdisk]

/-! ## What can be renamed -/

/-- A file is given the name of a path by being moved to the goal of the path. -/
theorem move_of_goal? (h : fs.goal? text = some goal) (hn : fs.get? place = some node) :
    Staged.move fs place text = .ok ((fs.erase place).put goal node) := by
  obtain ⟨path, parent, name, hp, ht, hs, rfl, hd⟩ := FileSystem.goal?_eq_some_iff.1 h
  simp only [Staged.move, hp, ht, hs, hn, bind, Except.bind, pure, Except.pure]
  cases hg : fs.get? (.named name :: parent) with
  | none => rfl
  | some node' =>
    cases node' with
    | file contents => rfl
    | directory => exact absurd hg hd

/-- No file can be given the name of a path without a goal. -/
theorem move_of_goal?_none (h : fs.goal? text = none) (place : Place) :
    ∃ failure, Staged.move fs place text = .error failure := by
  unfold Staged.move
  cases hp : Path.ofText? text with
  | error e => exact ⟨e, rfl⟩
  | ok path =>
    cases ht : fs.target path with
    | error e => exact ⟨e, by simp [ht, bind, Except.bind]⟩
    | ok t =>
      cases t with
      | unnamed q => exact ⟨_, by simp [ht, bind, Except.bind]; rfl⟩
      | named parent name =>
        simp only [ht, bind, Except.bind]
        cases hs : path.endsInSlash with
        | true => exact ⟨_, rfl⟩
        | false =>
          have hd : fs.get? (.named name :: parent) = some .directory := by
            simpa [FileSystem.goal?, hp, ht, hs] using h
          rw [hd]
          exact ⟨_, rfl⟩

/-- The place of a file that is next given the name to which a path leads: the goal of the path, if
the disk lets the file be renamed. -/
def FileSystem.renameGoal? (fs : FileSystem) (text : String) : Option Place :=
  match fs.renameFault? with
  | none => fs.goal? text
  | some _ => none

/-- A file that can be renamed is renamed to the goal of its path, and the disk has no fault. -/
theorem FileSystem.renameGoal?_eq_some_iff :
    fs.renameGoal? text = some goal ↔ fs.renameFault? = none ∧ fs.goal? text = some goal := by
  unfold renameGoal?
  cases fs.renameFault? <;> simp

/-- Committing takes the file away when it fails, and changes nothing else. -/
theorem of_commit_error {staged : Staged} {e : Error} (h : staged.commit fs = (.error e, fs')) :
    Same (staged.discard fs) fs' := by
  simp only [Staged.commit] at h
  split at h
  · cases h
  · cases h
    exact .afterRenames (staged.discard fs) 1

/-- A path has its goal in every system with the same directories, on a disk with the same
faults. -/
theorem FileSystem.renameGoal?_congr (h : SameDirectories fs fs')
    (hdisk : fs.disk.renames = fs'.disk.renames) (text : String) :
    fs.renameGoal? text = fs'.renameGoal? text := by
  simp only [renameGoal?, renameFault?, hdisk, goal?_congr h]

/-- A file is renamed to where it can be. -/
theorem rename_of_renameGoal? (h : fs.renameGoal? text = some goal)
    (hn : fs.get? place = some node) :
    Staged.rename fs place text = .ok ((fs.erase place).put goal node) := by
  obtain ⟨hfault, hg⟩ := FileSystem.renameGoal?_eq_some_iff.1 h
  simp only [Staged.rename, hfault, move_of_goal? hg hn]

/-- No file is renamed to a path without a goal, or against a fault of the disk. -/
theorem rename_of_renameGoal?_none (h : fs.renameGoal? text = none) (place : Place) :
    ∃ failure, Staged.rename fs place text = .error failure := by
  cases hfault : fs.renameFault? with
  | none =>
    have hgoal : fs.goal? text = none := by simpa only [FileSystem.renameGoal?, hfault] using h
    simpa only [Staged.rename, hfault] using move_of_goal?_none hgoal place
  | some failure => exact ⟨failure, by simp only [Staged.rename, hfault]⟩

end

/-! ## Files that wait -/

/-- `fs` is `base` with the waiting files over it, each given with its contents: they lie at drawn
places where `base` has nothing, and every other place is as it is in `base`. -/
structure StagedOver (base fs : FileSystem) (waiting : List (Staged × List UInt8)) : Prop where
  working : base.working = fs.working
  foreign : base.foreign = fs.foreign
  nodup : (waiting.map (·.1.place)).Nodup
  drawn : ∀ w ∈ waiting, ∃ target draw directory,
    w.1.place = .temporary target draw :: directory
  free : ∀ w ∈ waiting, base.get? w.1.place = none
  held : ∀ w ∈ waiting, fs.get? w.1.place = some (.file w.2)
  frame : ∀ place, place ∉ waiting.map (·.1.place) → fs.get? place = base.get? place

namespace StagedOver

section
variable {base base' fs fs' : FileSystem} {w : Staged × List UInt8}
  {waiting : List (Staged × List UInt8)} {goal : Place} {path contents : String}

theorem nil (fs : FileSystem) : StagedOver fs fs [] :=
  ⟨rfl, rfl, .nil, nofun, nofun, nofun, fun _ _ => rfl⟩

/-- With no files waiting the system is its base. -/
theorem same (h : StagedOver base fs []) : Same base fs :=
  ⟨h.working, fun place => (h.frame place List.not_mem_nil).symm, h.foreign⟩

/-- Files wait in every system with the same contents. -/
theorem congr (h : StagedOver base fs waiting) (hb : Same base base') (hf : Same fs fs') :
    StagedOver base' fs' waiting where
  working := hb.working.symm.trans (h.working.trans hf.working)
  foreign := hb.foreign.symm.trans (h.foreign.trans hf.foreign)
  nodup := h.nodup
  drawn := h.drawn
  free := fun w hw => (hb.get? _).symm.trans (h.free w hw)
  held := fun w hw => (hf.get? _).symm.trans (h.held w hw)
  frame := fun place hp => by rw [← hf.get?, ← hb.get?, h.frame place hp]

/-- The order in which files wait does not matter. -/
theorem perm {waiting' : List (Staged × List UInt8)} (h : StagedOver base fs waiting)
    (hp : waiting.Perm waiting') : StagedOver base fs waiting' where
  working := h.working
  foreign := h.foreign
  nodup := (hp.map (·.1.place)).nodup_iff.1 h.nodup
  drawn := fun w hw => h.drawn w (hp.mem_iff.2 hw)
  free := fun w hw => h.free w (hp.mem_iff.2 hw)
  held := fun w hw => h.held w (hp.mem_iff.2 hw)
  frame := fun place hn => h.frame place fun hm => hn ((hp.map (·.1.place)).mem_iff.1 hm)

/-- Waiting files are no directories and hide none. -/
theorem sameDirectories (h : StagedOver base fs waiting) : SameDirectories base fs := by
  refine ⟨h.working, fun place => ?_⟩
  by_cases hp : place ∈ waiting.map (·.1.place)
  · obtain ⟨w, hw, rfl⟩ := List.mem_map.1 hp
    simp [h.free w hw, h.held w hw]
  · rw [h.frame place hp]

/-- The place of a waiting file is no goal. -/
theorem place_ne_goal (h : StagedOver base fs waiting) (hw : w ∈ waiting)
    (hg : base.goal? path = some goal) : w.1.place ≠ goal := by
  obtain ⟨target, draw, directory, hp⟩ := h.drawn w hw
  obtain ⟨name, parent, rfl⟩ := FileSystem.goal?_named hg
  simp [hp]

/-- No file waits at the root. -/
theorem place_ne_nil (h : StagedOver base fs waiting) (hw : w ∈ waiting) : w.1.place ≠ [] := by
  obtain ⟨target, draw, directory, hp⟩ := h.drawn w hw
  simp [hp]

/-- A file that is put at a free drawn place waits. -/
theorem add (h : StagedOver base fs waiting) {s : Staged}
    (hdrawn : ∃ target draw directory, s.place = .temporary target draw :: directory)
    (hfree : fs.get? s.place = none) (contents : List UInt8) :
    StagedOver base (fs.put s.place (.file contents)) ((s, contents) :: waiting) := by
  have hne : s.place ≠ [] := by
    obtain ⟨target, draw, directory, hp⟩ := hdrawn
    simp [hp]
  have hnew : s.place ∉ waiting.map (·.1.place) := by
    intro hm
    obtain ⟨w, hw, hp⟩ := List.mem_map.1 hm
    rw [← hp, h.held w hw] at hfree
    cases hfree
  refine ⟨h.working, h.foreign, List.nodup_cons.2 ⟨hnew, h.nodup⟩, ?_, ?_, ?_, ?_⟩
  · rintro w (_ | ⟨_, hw⟩)
    · exact hdrawn
    · exact h.drawn w hw
  · rintro w (_ | ⟨_, hw⟩)
    · rw [← h.frame s.place hnew]
      exact hfree
    · exact h.free w hw
  · rintro w (_ | ⟨_, hw⟩)
    · simp [FileSystem.get?_put hne]
    · have hwp : w.1.place ≠ s.place := fun e => hnew (e ▸ List.mem_map_of_mem hw)
      rw [FileSystem.get?_put hne, if_neg hwp]
      exact h.held w hw
  · intro q hq
    rw [List.map_cons, List.mem_cons, not_or] at hq
    rw [FileSystem.get?_put hne, if_neg hq.1]
    exact h.frame q hq.2

/-- Staging a file that the base takes adds a waiting file. The base and the system go on with the
same disk. -/
theorem stage (h : StagedOver base fs waiting) (hdisk : base.disk = fs.disk)
    (hc : takes base (path, contents) = true) :
    ∃ place fs', Staged.stage path contents fs = (.ok ⟨path, place⟩, fs') ∧
      StagedOver (base.afterFills 1) fs' ((⟨path, place⟩, Text.Utf8.bytes contents) :: waiting) ∧
      (base.afterFills 1).disk = fs'.disk := by
  rw [takes_congr h.sameDirectories (congrArg _ hdisk)] at hc
  obtain ⟨⟨path', place⟩, hok⟩ := takes_iff.1 hc
  obtain ⟨rfl, hd, -, hfs⟩ := of_stage_ok (Prod.ext hok rfl)
  obtain ⟨draw, directory, hp, -⟩ := hd.drawn
  refine ⟨place, _, Prod.ext hok rfl, ?_, ?_⟩
  · rw [hfs]
    exact (h.add ⟨_, _, _, hp⟩ hd.free _).congr (.afterFills base 1) (.afterFills _ 1)
  · rw [hfs]
    simp only [FileSystem.afterFills, FileSystem.put, hdisk]

/-- Waiting files lie under drawn names. -/
theorem sameNamed (h : StagedOver base fs waiting) : SameNamed base fs := by
  refine ⟨h.working, fun name parent => (h.frame _ fun hmem => ?_).symm⟩
  obtain ⟨w, hw, hplace⟩ := List.mem_map.1 hmem
  obtain ⟨target, draw, directory, hdrawn⟩ := h.drawn w hw
  cases hdrawn.symm.trans hplace

/-- Staging a file fails as in the base, whatever waits, and changes nothing then. -/
theorem stage_error (h : StagedOver base fs waiting) (hdisk : base.disk = fs.disk) {e : Error}
    (he : (Staged.stage path contents base).1 = .error e) :
    ∃ fs', Staged.stage path contents fs = (.error e, fs') ∧ StagedOver base fs' waiting := by
  have herror := stage_error_congr h.sameNamed h.sameDirectories (congrArg _ hdisk) he
  exact ⟨_, Prod.ext herror rfl, h.congr (.refl base) (of_stage_error (Prod.ext herror rfl))⟩

/-- Discarding a waiting file takes it away. -/
theorem discard (h : StagedOver base fs (w :: waiting)) :
    StagedOver base (w.1.discard fs) waiting := by
  have hw : w ∈ w :: waiting := List.mem_cons_self
  have hne := h.place_ne_nil hw
  obtain ⟨hnew, hnodup⟩ := List.nodup_cons.1 h.nodup
  refine ⟨h.working, h.foreign, hnodup, fun v hv => h.drawn v (.tail _ hv),
    fun v hv => h.free v (.tail _ hv), fun v hv => ?_, fun q hq => ?_⟩
  · have hvw : v.1.place ≠ w.1.place := fun e => hnew (List.mem_map.2 ⟨v, hv, e⟩)
    rw [Staged.discard, FileSystem.get?_erase hne, if_neg hvw]
    exact h.held v (.tail _ hv)
  · rw [Staged.discard, FileSystem.get?_erase hne]
    split
    · next hqw => subst hqw; exact (h.free w hw).symm
    · next hqw =>
      apply h.frame
      rw [List.map_cons, List.mem_cons, not_or]
      exact ⟨hqw, hq⟩

/-- A waiting file can be given other contents. -/
theorem rewrite {s : Staged} {old : List UInt8} (h : StagedOver base fs ((s, old) :: waiting))
    (contents : List UInt8) :
    StagedOver base (fs.put s.place (.file contents)) ((s, contents) :: waiting) := by
  have hgone : (fs.erase s.place).get? s.place = none := by
    rw [FileSystem.get?_erase (h.place_ne_nil List.mem_cons_self), if_pos rfl]
  rw [← FileSystem.put_erase]
  exact h.discard.add (h.drawn _ List.mem_cons_self) hgone contents

/-- With every waiting file discarded the system is its base. -/
theorem discardAll (h : StagedOver base fs waiting) :
    Same base (discardAll (waiting.map (·.1)) fs) := by
  induction waiting generalizing fs with
  | nil => exact h.same
  | cons w rest ih => exact ih h.discard

/-- A change of the base at a goal where nothing waits is a change of the system. -/
theorem change (h : StagedOver base fs waiting) (hg : base.goal? path = some goal)
    (hbase : ∀ q, q ≠ goal → base'.get? q = base.get? q)
    (hfs : ∀ q, q ≠ goal → fs'.get? q = fs.get? q) (hgoal : fs'.get? goal = base'.get? goal)
    (hbw : base'.working = base.working) (hfw : fs'.working = fs.working)
    (hbf : base'.foreign = base.foreign) (hff : fs'.foreign = fs.foreign) :
    StagedOver base' fs' waiting := by
  refine ⟨hbw.trans (h.working.trans hfw.symm), hbf.trans (h.foreign.trans hff.symm), h.nodup,
    h.drawn, fun w hw => ?_, fun w hw => ?_, fun q hq => ?_⟩
  · rw [hbase _ (h.place_ne_goal hw hg)]
    exact h.free w hw
  · rw [hfs _ (h.place_ne_goal hw hg)]
    exact h.held w hw
  · by_cases hqg : q = goal
    · rw [hqg, hgoal]
    · rw [hfs q hqg, hbase q hqg]
      exact h.frame q hq

/-- The disk of a file system has no part in what waits. -/
theorem afterRenames (h : StagedOver base fs waiting) (count count' : Nat) :
    StagedOver (base.afterRenames count) (fs.afterRenames count') waiting :=
  h.congr (.afterRenames base count) (.afterRenames fs count')

/-- A waiting file whose path has a goal is moved there by a rename. -/
theorem renamed (h : StagedOver base fs (w :: waiting)) (hg : base.goal? w.1.path = some goal) :
    StagedOver (base.put goal (.file w.2)) ((fs.erase w.1.place).put goal (.file w.2)) waiting := by
  have hne := FileSystem.goal?_ne_nil hg
  refine h.discard.change hg (fun q hq => ?_) (fun q hq => ?_) ?_ rfl rfl rfl rfl
  · rw [FileSystem.get?_put hne, if_neg hq]
  · rw [FileSystem.get?_put hne, if_neg hq]
    rfl
  · rw [FileSystem.get?_put hne, FileSystem.get?_put hne, if_pos rfl, if_pos rfl]

/-- Committing a waiting file that can be renamed moves its contents into the base. The base and the
system go on with the same disk. -/
theorem commit (h : StagedOver base fs (w :: waiting)) (hdisk : base.disk = fs.disk)
    (hg : base.renameGoal? w.1.path = some goal) :
    ∃ fs', w.1.commit fs = (.ok w.1.path, fs') ∧
      StagedOver ((base.put goal (.file w.2)).afterRenames 1) fs' waiting ∧
      ((base.put goal (.file w.2)).afterRenames 1).disk = fs'.disk := by
  have hheld := h.held w List.mem_cons_self
  obtain ⟨-, hgoal⟩ := FileSystem.renameGoal?_eq_some_iff.1 hg
  rw [FileSystem.renameGoal?_congr h.sameDirectories (congrArg _ hdisk)] at hg
  refine ⟨((fs.erase w.1.place).put goal (.file w.2)).afterRenames 1, ?_,
    (h.renamed hgoal).afterRenames 1 1, ?_⟩
  · simp only [Staged.commit, rename_of_renameGoal? hg hheld]
  · simp only [FileSystem.afterRenames, FileSystem.put, FileSystem.erase, hdisk]

/-- Committing a waiting file that cannot be renamed fails and takes the file away. -/
theorem commit_error (h : StagedOver base fs (w :: waiting)) (hdisk : base.disk = fs.disk)
    (hg : base.renameGoal? w.1.path = none) :
    ∃ e fs', w.1.commit fs = (.error e, fs') ∧ StagedOver base fs' waiting := by
  rw [FileSystem.renameGoal?_congr h.sameDirectories (congrArg _ hdisk)] at hg
  obtain ⟨failure, hr⟩ := rename_of_renameGoal?_none hg w.1.place
  refine ⟨.file w.1.path failure, w.1.discard (fs.afterRenames 1), ?_, ?_⟩
  · simp only [Staged.commit, hr]
  · exact h.discard.congr (.refl base) (.afterRenames _ 1)

/-- A commit of a waiting file that succeeds moves its contents to the goal of its path. -/
theorem of_commit_ok {text : String} (h : StagedOver base fs (w :: waiting))
    (hc : w.1.commit fs = (.ok text, fs')) :
    ∃ goal, base.goal? w.1.path = some goal ∧
      StagedOver (base.put goal (.file w.2)) fs' waiting := by
  have hheld := h.held w List.mem_cons_self
  simp only [Staged.commit] at hc
  cases hg : fs.renameGoal? w.1.path with
  | none =>
    obtain ⟨failure, hr⟩ := rename_of_renameGoal?_none hg w.1.place
    rw [hr] at hc
    cases hc
  | some goal =>
    rw [rename_of_renameGoal? hg hheld] at hc
    cases hc
    obtain ⟨-, hgoal⟩ := FileSystem.renameGoal?_eq_some_iff.1 hg
    rw [← FileSystem.goal?_congr h.sameDirectories] at hgoal
    exact ⟨goal, hgoal, (h.renamed hgoal).congr (.refl _) (.afterRenames _ 1)⟩

/-- Removing a path clears its goal in the base, whether or not a file is there. -/
theorem removeFile (h : StagedOver base fs waiting) (hg : base.goal? path = some goal) :
    StagedOver (base.erase goal) ((fs.removeFile path).toOption.getD fs) waiting := by
  have hne := FileSystem.goal?_ne_nil hg
  have hfg : fs.goal? path = some goal := by rw [← FileSystem.goal?_congr h.sameDirectories, hg]
  refine StagedOver.congr ?_ (Same.refl _) (FileSystem.same_removeFile hfg)
  refine h.change hg (fun q hq => ?_) (fun q hq => ?_) ?_ rfl rfl rfl rfl
  · rw [FileSystem.get?_erase hne, if_neg hq]
  · rw [FileSystem.get?_erase hne, if_neg hq]
  · rw [FileSystem.get?_erase hne, FileSystem.get?_erase hne, if_pos rfl, if_pos rfl]

end

end StagedOver

end ModuleBridge.Files
