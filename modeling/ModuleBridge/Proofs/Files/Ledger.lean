import Mathlib.Data.List.Perm.Basic
import ModuleBridge.Proofs.Files.Shown
import ModuleBridge.Proofs.Files.Siblings

/-!
# Staging, committing and discarding in any order

Files can be staged for any paths, several for one path, and each can be committed or discarded at
any later time. A ledger keeps the system together with the files that still wait and the commits
that succeeded. `Ledger.Balanced` is the invariant: over the initial system with the committed
contents put at their goals lie just the files that wait. Every operation keeps it, whether it
succeeds or fails (`Ledger.Balanced.stage`, `Ledger.Balanced.commit`, `Ledger.Balanced.discard`), so
after any run the temporary files are accounted for and every path shows its last commit.

The disk of the initial system may fail where the checks of an operation find nothing wrong: in the
middle of a file that was made already, or at the renaming of one. Nothing is assumed of the faults
that it has.
-/

namespace ModuleBridge.Files

open FileSystem (Same SameDirectories)

/-- An operation. Staged files are given by their place among those that wait. -/
inductive Operation
  | stage (path contents : String)
  | commit (index : Nat)
  | discard (index : Nat)

/-- The files that wait after an operation that fails: all that waited before it but the one that it
could not commit. -/
def Operation.leftWaiting {α : Type} : Operation → List α → List α
  | .commit index, waiting => waiting.eraseIdx index
  | _, waiting => waiting

/-- A file system and what was done to it. -/
structure Ledger where
  fs : FileSystem
  /-- The files that were staged and neither committed nor discarded, with their contents. -/
  waiting : List (Staged × List UInt8) := []
  /-- The paths whose commits succeeded, with the contents they were given, in order. -/
  committed : List (String × List UInt8) := []

namespace Ledger

/-- Performs an operation. Gives the error if it fails. -/
def perform (l : Ledger) : Operation → Option Error × Ledger
  | .stage path contents =>
    match Staged.stage path contents l.fs with
    | (.ok staged, fs) =>
      (none, { l with fs, waiting := l.waiting ++ [(staged, Text.Utf8.bytes contents)] })
    | (.error e, fs) => (some e, { l with fs })
  | .commit index =>
    match l.waiting[index]? with
    | none => (none, l)
    | some w =>
      match w.1.commit l.fs with
      | (.ok _, fs) =>
        (none, ⟨fs, l.waiting.eraseIdx index, l.committed ++ [(w.1.path, w.2)]⟩)
      | (.error e, fs) => (some e, { l with fs, waiting := l.waiting.eraseIdx index })
  | .discard index =>
    match l.waiting[index]? with
    | none => (none, l)
    | some w => (none, { l with fs := w.1.discard l.fs, waiting := l.waiting.eraseIdx index })

/-- The ledger after some operations. -/
def run (l : Ledger) (operations : List Operation) : Ledger :=
  operations.foldl (fun l operation => (l.perform operation).2) l

/-- The files that wait lie over the initial system with the committed contents, each in the
directory of its path. -/
structure Balanced (fs₀ : FileSystem) (l : Ledger) : Prop where
  staged : StagedOver (fs₀.putFiles l.committed) l.fs l.waiting
  beside : ∀ w ∈ l.waiting,
    fs₀.directoryAt (Path.ofText (Path.parentText w.1.path)) = .ok w.1.place.tail

/-- What a ledger says of its system. -/
structure Accounted (fs₀ : FileSystem) (l : Ledger) : Prop where
  /-- Each file that waits has a place of its own, under a drawn name, -/
  nodup : (l.waiting.map (·.1.place)).Nodup
  drawn : ∀ w ∈ l.waiting, ∃ target draw directory,
    w.1.place = .temporary target draw :: directory
  /-- which is in the directory of its path, and so in that of the goal of the path, -/
  beside : ∀ w ∈ l.waiting,
    fs₀.directoryAt (Path.ofText (Path.parentText w.1.path)) = .ok w.1.place.tail ∧
      ∀ goal, fs₀.goal? w.1.path = some goal → w.1.place.tail = goal.tail
  /-- was free in the initial system, and holds the contents of the file. -/
  fresh : ∀ w ∈ l.waiting, fs₀.get? w.1.place = none
  held : ∀ w ∈ l.waiting, l.fs.get? w.1.place = some (.file w.2)
  /-- There are no other temporary files but those of the initial system. -/
  temporary : ∀ target draw directory,
    (∀ w ∈ l.waiting, w.1.place ≠ .temporary target draw :: directory) →
      l.fs.get? (.temporary target draw :: directory) =
        fs₀.get? (.temporary target draw :: directory)
  /-- Every path shows its last commit or what it showed in the initial system. -/
  shows : ∀ text, fs₀.ShowsLast l.fs l.committed text
  /-- Every place where nothing waits and nothing was committed is as it was. -/
  untouched : ∀ q, (∀ w ∈ l.waiting, w.1.place ≠ q) →
    (∀ file ∈ l.committed, fs₀.goal? file.1 ≠ some q) → l.fs.get? q = fs₀.get? q

section
variable {fs₀ : FileSystem} {l l' : Ledger} {index : Nat} {w : Staged × List UInt8}
  {path contents : String}

namespace Balanced

/-- What a ledger says of its system is what the invariant says. -/
theorem accounted (h : Balanced fs₀ l) : Accounted fs₀ l := by
  have hdir : SameDirectories fs₀ (fs₀.putFiles l.committed) :=
    FileSystem.sameDirectories_putFiles l.committed
  have hfree : ∀ w ∈ l.waiting, fs₀.get? w.1.place = none := by
    intro w hw
    rw [← h.staged.free w hw]
    refine (FileSystem.get?_putFiles_of_no_goal fun file _ hg => ?_).symm
    rw [FileSystem.goal?_congr hdir] at hg
    exact h.staged.place_ne_goal hw hg rfl
  refine ⟨h.staged.nodup, h.staged.drawn, fun w hw => ⟨h.beside w hw, fun goal hg => ?_⟩, hfree,
    h.staged.held, fun target draw directory hw => ?_, h.staged.showsLast,
    fun q => h.staged.get?_of_untouched⟩
  · exact (tail_of_goal? hg (h.beside w hw)).symm
  · refine h.staged.get?_of_untouched hw fun file _ hg => ?_
    obtain ⟨name, parent, he⟩ := FileSystem.goal?_named hg
    cases he

/-- A ledger with no entries is balanced. -/
theorem start (fs₀ : FileSystem) : Balanced fs₀ { fs := fs₀ } := ⟨.nil fs₀, nofun⟩

/-- The directories are those of the initial system all the time. -/
theorem sameDirectories (h : Balanced fs₀ l) : SameDirectories fs₀ l.fs :=
  (FileSystem.sameDirectories_putFiles l.committed).trans h.staged.sameDirectories

/-- A file that waits may be counted first. -/
theorem perm_of_getElem? {waiting : List (Staged × List UInt8)} (hw : waiting[index]? = some w) :
    waiting.Perm (w :: waiting.eraseIdx index) := by
  obtain ⟨hi, rfl⟩ := List.getElem?_eq_some_iff.1 hw
  exact (List.getElem_cons_eraseIdx_perm hi).symm

/-- The files that still wait are in the directories of their paths. -/
theorem beside_eraseIdx (h : Balanced fs₀ l) (index : Nat) : ∀ w ∈ l.waiting.eraseIdx index,
    fs₀.directoryAt (Path.ofText (Path.parentText w.1.path)) = .ok w.1.place.tail :=
  fun w hw => h.beside w ((List.eraseIdx_sublist l.waiting index).subset hw)

/-- Taking away a file that waits leaves the others. -/
theorem erase (h : Balanced fs₀ l) (hw : l.waiting[index]? = some w) :
    Balanced fs₀ { l with fs := w.1.discard l.fs, waiting := l.waiting.eraseIdx index } :=
  ⟨(h.staged.perm (perm_of_getElem? hw)).discard, h.beside_eraseIdx index⟩

/-- Staging keeps the invariant: a file that is staged waits, and one that is not is gone. -/
theorem stage (h : Balanced fs₀ l) (path contents : String) :
    Balanced fs₀ (l.perform (.stage path contents)).2 := by
  simp only [perform]
  cases hs : Staged.stage path contents l.fs with
  | mk result fs =>
    cases result with
    | error e => exact ⟨h.staged.congr (.refl _) (of_stage_error hs), h.beside⟩
    | ok staged =>
      obtain ⟨rfl, hd, -, rfl⟩ := of_stage_ok hs
      obtain ⟨draw, directory, hp, hdirectory⟩ := hd.drawn
      have hadded := h.staged.add ⟨_, _, _, hp⟩ hd.free (Text.Utf8.bytes contents)
      refine ⟨(hadded.congr (.refl _) (.afterFills _ 1)).perm
        (List.perm_append_singleton _ _).symm, ?_⟩
      intro w hw
      rcases List.mem_append.1 hw with hw | hw
      · exact h.beside w hw
      · rw [List.mem_singleton.1 hw, hp]
        exact FileSystem.directoryAt_ok_congr h.sameDirectories.symm hdirectory

/-- Committing keeps the invariant. -/
theorem commit (h : Balanced fs₀ l) (index : Nat) :
    Balanced fs₀ (l.perform (.commit index)).2 := by
  simp only [perform]
  split
  · exact h
  · next w hw =>
    split
    · next path fs hc =>
      obtain ⟨goal, hg, hs⟩ := (h.staged.perm (perm_of_getElem? hw)).of_commit_ok hc
      refine ⟨?_, h.beside_eraseIdx index⟩
      simpa only [FileSystem.putFiles_append, FileSystem.putFiles, hg] using hs
    · next e fs hc =>
      have herase := h.erase hw
      exact ⟨herase.staged.congr (.refl _) (of_commit_error hc), herase.beside⟩

/-- Discarding keeps the invariant. -/
theorem discard (h : Balanced fs₀ l) (index : Nat) :
    Balanced fs₀ (l.perform (.discard index)).2 := by
  simp only [perform]
  split
  · exact h
  · next w hw => exact h.erase hw

/-- Every operation keeps the invariant. -/
theorem perform (h : Balanced fs₀ l) (operation : Operation) :
    Balanced fs₀ (l.perform operation).2 := by
  cases operation with
  | stage path contents => exact h.stage path contents
  | commit index => exact h.commit index
  | discard index => exact h.discard index

/-- Every run of operations keeps the invariant. -/
theorem run (h : Balanced fs₀ l) (operations : List Operation) :
    Balanced fs₀ (l.run operations) := by
  induction operations generalizing l with
  | nil => exact h
  | cons operation rest ih => exact ih (h.perform operation)

end Balanced

/-- An operation that fails commits nothing and leaves waiting what waited before, without the file
that it could not commit. -/
theorem of_perform_error {operation : Operation} {e : Error}
    (hp : l.perform operation = (some e, l')) :
    l'.committed = l.committed ∧ l'.waiting = operation.leftWaiting l.waiting := by
  cases operation with
  | stage path contents =>
    simp only [perform] at hp
    split at hp
    · cases hp
    · cases hp
      exact ⟨rfl, rfl⟩
  | commit index =>
    simp only [perform] at hp
    split at hp
    · cases hp
    · split at hp
      · cases hp
      · cases hp
        exact ⟨rfl, rfl⟩
  | discard index =>
    simp only [perform] at hp
    split at hp <;> cases hp

/-- A ledger with the same commits shows the same at every path. -/
theorem Balanced.look?_eq (h : Balanced fs₀ l) (h' : Balanced fs₀ l')
    (hc : l'.committed = l.committed) (text : String) : l'.fs.look? text = l.fs.look? text := by
  rw [h'.staged.look?, h.staged.look?, hc]

/-- **What any run of operations leaves.** After any operations on any paths, of which some fail,
whatever faults the disk has, the temporary files are those of the files that wait, and every path
shows its last commit. An operation that fails then changes nothing that a path shows, and its own
temporary file is not among those that are left. Reference: `stage`, `StagedFile::commit`. -/
theorem accounted_run (fs₀ : FileSystem) (operations : List Operation) :
    Accounted fs₀ (run { fs := fs₀ } operations) ∧
      ∀ operation e l', (run { fs := fs₀ } operations).perform operation = (some e, l') →
        (∀ text, l'.fs.look? text = (run { fs := fs₀ } operations).fs.look? text) ∧
          l'.committed = (run { fs := fs₀ } operations).committed ∧
          l'.waiting = operation.leftWaiting (run { fs := fs₀ } operations).waiting ∧
          Accounted fs₀ l' := by
  have h : Balanced fs₀ (run { fs := fs₀ } operations) := (Balanced.start fs₀).run operations
  refine ⟨h.accounted, fun operation e l' hp => ?_⟩
  have h' : Balanced fs₀ l' := by
    have hnext := h.perform operation
    rwa [hp] at hnext
  obtain ⟨hc, hw⟩ := of_perform_error hp
  exact ⟨h.look?_eq h' hc, hc, hw, h'.accounted⟩

/-- The disk of a system with one file. It is full after four more bytes, and the second file that
is renamed cannot be. -/
def failingDisk : FileSystem :=
  { oneFile with disk := {
      fills := [none, none, some (.write 4 (.other "No space left on device (os error 28)"))]
      renames := [none, some .permissionDenied] } }

/-- Two files are staged for one path, and the later one is committed first. A third file stops half
way while it is written, and the commit of the earlier file fails at its rename. The path shows what
was committed, and no file waits. -/
theorem accounted_run_out_of_order :
    let l := run { fs := failingDisk }
      [.stage "a" "one", .stage "a" "two", .commit 1, .stage "c" "three"]
    ∃ l', l.perform (.commit 0) = (some (.file "a" .permissionDenied), l') ∧
      l'.fs.look? "a" = some (.file (Text.Utf8.bytes "two")) ∧ l'.waiting = [] ∧
      Accounted failingDisk l' := by
  intro l
  have hp : l.perform (.commit 0) =
      (some (.file "a" .permissionDenied), (l.perform (.commit 0)).2) := rfl
  obtain ⟨hlook, -, hwaiting, haccounted⟩ := (accounted_run failingDisk _).2 _ _ _ hp
  refine ⟨_, hp, (hlook "a").trans ?_, ?_, haccounted⟩
  · decide
  · rw [hwaiting]
    rfl

end

end Ledger

end ModuleBridge.Files
