import ModuleBridge.Proofs.Files.Changes
import ModuleBridge.Proofs.Files.Shown

/-!
# What a write leaves

A write succeeds exactly if each of its files can be staged and renamed over its path, with what the
disk does to it in its turn. Then each path holds what was given last for it, whatever was there
before and however often it was given, and nothing else has changed (`written_of_writeFiles_ok`).
Staging a file fails as it would before the write, since the files that wait lie under names that no
path goes through (`StagedOver.stage_error`). So where one of the files cannot be staged, the first
of these decides how the write fails, and no target is touched (`stageAll_eq_error_iff`,
`writeFiles_of_stageAll_error`). It does not matter at which step the staging fails, before its file
is made or while that is filled.
-/

namespace ModuleBridge.Files

open FileSystem (Same SameDirectories)

/-- In `fs'` every path of the list holds the contents of the last pair that names it, which is the
last whose path leads to the same place. Every other path shows what it shows in `fs`, every other
place is as it is there, and there are no more temporary files. -/
structure Written (files : List (String × String)) (fs fs' : FileSystem) : Prop where
  last : ∀ file ∈ files, ∃ front pair back, files = front ++ pair :: back ∧
    fs.SameGoal pair.1 file.1 ∧ (∀ other ∈ back, ¬fs.SameGoal other.1 file.1) ∧
    fs'.read file.1 = .ok (Text.Utf8.bytes pair.2)
  others : ∀ path, (∀ file ∈ files, ¬fs.SameGoal file.1 path) → fs'.look? path = fs.look? path
  frame : ∀ place, (∀ file ∈ files, fs.goal? file.1 ≠ some place) →
    fs'.get? place = fs.get? place
  temporary : ∀ target draw directory, fs'.get? (.temporary target draw :: directory) =
    fs.get? (.temporary target draw :: directory)
  working : fs'.working = fs.working
  foreign : fs'.foreign = fs.foreign

section
variable {fs fs' : FileSystem} {files : List (String × String)} {path contents : String} {e : Error}

/-! ## Staging -/

/-- All files can be staged exactly if each is staged in the system at the beginning, with what the
disk does to it in its turn. -/
theorem takesAll_iff_stage :
    takesAll fs files = true ↔ ∀ (i : Nat) (file : String × String), files[i]? = some file →
      ∃ staged, (Staged.stage file.1 file.2 (fs.afterFills i)).1 = .ok staged := by
  rw [takesAll_iff]
  exact forall₃_congr fun i file _ => takes_iff

/-- Staging a list fails exactly if one of its files cannot be staged in its turn, with the error of
the first such file. -/
theorem stageAll_eq_error_iff :
    (stageAll files fs).1 = .error e ↔
      ∃ front path contents back, files = front ++ (path, contents) :: back ∧
        takesAll fs front = true ∧
        (Staged.stage path contents (fs.afterFills front.length)).1 = .error e := by
  constructor
  · intro h
    cases hc : takesAll fs files with
    | true =>
      obtain ⟨waiting, fs₁, hgo, -, -, -⟩ := stageAll_go_ok (.nil fs) rfl hc
      rw [List.map_nil] at hgo
      rw [stageAll, hgo] at h
      cases h
    | false =>
      obtain ⟨front, path, contents, back, e', rfl, hfront, he'⟩ := exists_first_not_takes hc
      obtain ⟨herror, -, -⟩ := writeFiles_of_stage_error hfront he' back
      cases Except.error.inj (herror.symm.trans h)
      exact ⟨front, path, contents, back, rfl, hfront, he'⟩
  · rintro ⟨front, path, contents, back, rfl, hfront, he⟩
    exact (writeFiles_of_stage_error hfront he back).1

/-- A write that fails while it stages fails with the error of that, and changes nothing. -/
theorem writeFiles_of_stageAll_error (h : (stageAll files fs).1 = .error e) :
    (writeFiles files fs).1 = .error e ∧ Same fs (writeFiles files fs).2 := by
  obtain ⟨front, path, contents, back, rfl, hfront, he⟩ := stageAll_eq_error_iff.1 h
  exact (writeFiles_of_stage_error hfront he back).2

/-! ## Writing -/

/-- A write that succeeds leaves the contents that were given last for each path. -/
theorem written_of_writeFiles_ok (h : writeFiles files fs = (.ok (), fs')) :
    Written files fs fs' := by
  obtain ⟨hgoals, hsame⟩ := of_writeFiles_ok h
  have hdirectories : SameDirectories fs fs' :=
    (FileSystem.sameDirectories_putFiles _).trans hsame.sameDirectories
  refine ⟨fun file hfile => ?_, fun path hpath => ?_, fun place hplace =>
    get?_of_writeFiles_ok h hplace, fun target draw directory => ?_, hdirectories.working.symm, ?_⟩
  · obtain ⟨goal, hgoal⟩ := Option.isSome_iff_exists.1 (hgoals file hfile)
    obtain ⟨front, ⟨path, contents⟩, back, rfl, hlast, hback⟩ :=
      exists_last (p := fun other : String × String => fs.SameGoal other.1 file.1)
        ⟨file, hfile, goal, hgoal, hgoal⟩
    refine ⟨front, (path, contents), back, rfl, hlast, hback, ?_⟩
    obtain ⟨goal', hpath, hgoal'⟩ := hlast
    cases hgoal.symm.trans hgoal'
    have hnone : ∀ other ∈ inBytes back, fs.goal? other.1 ≠ some goal := by
      intro other hother hg
      obtain ⟨other', hother', rfl⟩ := List.mem_map.1 hother
      exact hback other' hother' ⟨goal, hg, hgoal⟩
    have hget := FileSystem.get?_putFiles_last hpath hnone (inBytes front)
      (Text.Utf8.bytes contents)
    refine FileSystem.read_of_goal? ((FileSystem.goal?_congr hdirectories _).symm.trans hgoal) ?_
    rw [← hsame.get?, ← hget, inBytes, List.map_append, List.map_cons]
    rfl
  · refine (FileSystem.look?_congr hdirectories fun goal hgoal => ?_).symm
    exact (get?_of_writeFiles_ok h fun file hfile hg => hpath file hfile ⟨goal, hg, hgoal⟩).symm
  · refine get?_of_writeFiles_ok h fun file hfile hg => ?_
    obtain ⟨name, parent, hnamed⟩ := FileSystem.goal?_named hg
    cases hnamed
  · rw [← hsame.foreign, FileSystem.foreign_putFiles]

/-- **What a write leaves.** A write succeeds exactly if each file can be staged, and renamed to a
place to which its path leads, with what the disk does to it in its turn. It leaves then each path
with the contents given last for it and all else as it was. Staging fails exactly if a file cannot
be staged, with the error that staging the first of these gives in the system before the write. The
write fails with that error then, and leaves everything as it was. Reference: `write_files`. -/
theorem writeFiles_written (files : List (String × String)) (fs : FileSystem) :
    ((writeFiles files fs).1 = .ok () ↔
      ∀ (i : Nat) (file : String × String), files[i]? = some file →
        (∃ staged, (Staged.stage file.1 file.2 (fs.afterFills i)).1 = .ok staged) ∧
          ((fs.afterRenames i).renameGoal? file.1).isSome) ∧
    ((writeFiles files fs).1 = .ok () → Written files fs (writeFiles files fs).2) ∧
    ∀ e, ((stageAll files fs).1 = .error e ↔
        ∃ front path contents back, files = front ++ (path, contents) :: back ∧
          (∀ (i : Nat) (file : String × String), front[i]? = some file →
            ∃ staged, (Staged.stage file.1 file.2 (fs.afterFills i)).1 = .ok staged) ∧
          (Staged.stage path contents (fs.afterFills front.length)).1 = .error e) ∧
      ((stageAll files fs).1 = .error e →
        (writeFiles files fs).1 = .error e ∧ Same fs (writeFiles files fs).2) := by
  refine ⟨?_, fun h => written_of_writeFiles_ok (Prod.ext h rfl), fun e => ⟨?_, fun h =>
    writeFiles_of_stageAll_error h⟩⟩
  · have hbool : (writeFiles files fs).1 = .ok () ↔ (writeFiles files fs).1.toBool = true := by
      cases (writeFiles files fs).1 <;> simp [Except.toBool]
    have hpaths : fs.renamesAll (files.map (·.1)) = true ↔
        ∀ (i : Nat) (file : String × String), files[i]? = some file →
          ((fs.afterRenames i).renameGoal? file.1).isSome := by
      rw [FileSystem.renamesAll_iff]
      simp only [List.getElem?_map, Option.map_eq_some_iff]
      constructor
      · exact fun h i file hi => h i file.1 ⟨file, hi, rfl⟩
      · rintro h i path ⟨file, hi, rfl⟩
        exact h i file hi
    rw [hbool, writeFiles_toBool, Bool.and_eq_true, takesAll_iff_stage, hpaths]
    simp only [← forall_and]
  · rw [stageAll_eq_error_iff]
    simp only [takesAll_iff_stage]

/-- A system with one file, whose disk is full after two bytes of the second file that is filled. -/
def fullDisk : FileSystem :=
  { oneFile with disk := { fills := [none, some (.write 2 (.other "No space left on device"))] } }

/-- A path that is given twice holds what was given last. Where a file cannot be staged, because its
directory is not there or the disk is full, a write fails with the error of that. -/
theorem writeFiles_written_twice :
    (writeFiles [("a", "new"), ("b", "x"), ("./a", "last")] oneFile).1 = .ok () ∧
      Written [("a", "new"), ("b", "x"), ("./a", "last")] oneFile
        (writeFiles [("a", "new"), ("b", "x"), ("./a", "last")] oneFile).2 ∧
      ((writeFiles [("a", "new"), ("d/x", "y"), ("", "z")] oneFile).1 =
          .error (.file "d/x" (.met .notFound "/d/.x.XXXXXX.tmp")) ∧
        Same oneFile (writeFiles [("a", "new"), ("d/x", "y"), ("", "z")] oneFile).2) ∧
      (writeFiles [("a", "new"), ("b", "three"), ("d/x", "y")] fullDisk).1 =
          .error (.file "/./.b.XXXXXX.tmp"
            (.met (.other "No space left on device") "/./.b.XXXXXX.tmp")) ∧
        Same fullDisk (writeFiles [("a", "new"), ("b", "three"), ("d/x", "y")] fullDisk).2 := by
  have hok : (writeFiles [("a", "new"), ("b", "x"), ("./a", "last")] oneFile).1 = .ok () := rfl
  have hmissing : (stageAll [("a", "new"), ("d/x", "y"), ("", "z")] oneFile).1 =
      .error (.file "d/x" (.met .notFound "/d/.x.XXXXXX.tmp")) := rfl
  have hfull : (stageAll [("a", "new"), ("b", "three"), ("d/x", "y")] fullDisk).1 =
      .error (.file "/./.b.XXXXXX.tmp"
        (.met (.other "No space left on device") "/./.b.XXXXXX.tmp")) := rfl
  obtain ⟨-, hwritten, -⟩ :=
    writeFiles_written [("a", "new"), ("b", "x"), ("./a", "last")] oneFile
  obtain ⟨-, -, hfails⟩ := writeFiles_written [("a", "new"), ("d/x", "y"), ("", "z")] oneFile
  obtain ⟨-, -, hstops⟩ :=
    writeFiles_written [("a", "new"), ("b", "three"), ("d/x", "y")] fullDisk
  exact ⟨hok, hwritten hok, (hfails _).2 hmissing, (hstops _).2 hfull⟩

end

end ModuleBridge.Files
