import Mathlib.Data.List.Induction
import ModuleBridge.Proofs.Files.Writing

/-!
# What a path shows

Somebody who reads a path sees the file or the directory to which it leads, or nothing (`look?`).
While files wait for their names over a system in which some goals were filled
(`StagedOver (base.putFiles written) fs waiting`), every path shows the contents that were put last
at its goal, and a path at whose goal nothing was put shows what it shows in the base
(`StagedOver.showsLast`). The files that wait show nowhere.
-/

namespace ModuleBridge.Files

open FileSystem (SameDirectories)

namespace FileSystem

/-- What a path shows: the file or the directory to which it leads. -/
def look? (fs : FileSystem) (text : String) : Option Node :=
  (fs.find text).toOption.map (·.2)

/-- A file that is given the name of either path comes to one place. -/
def SameGoal (fs : FileSystem) (text text' : String) : Prop :=
  ∃ goal, fs.goal? text = some goal ∧ fs.goal? text' = some goal

/-- In `fs'` the path shows the last of the contents that were written to its goal or, if none were,
what it shows in `fs`. -/
inductive ShowsLast (fs fs' : FileSystem) (written : List (String × List UInt8)) (text : String) :
    Prop
  | written {front back : List (String × List UInt8)} {path : String} {contents : List UInt8}
    (split : written = front ++ (path, contents) :: back) (here : fs.SameGoal path text)
    (last : ∀ file ∈ back, ¬ fs.SameGoal file.1 text)
    (shown : fs'.look? text = some (.file contents))
  | unwritten (none : ∀ file ∈ written, ¬ fs.SameGoal file.1 text)
    (shown : fs'.look? text = fs.look? text)

section
variable {fs fs' : FileSystem} {text : String} {goal : Place}

/-- A path with a goal shows what is there. -/
theorem look?_of_goal? (h : fs.goal? text = some goal) : fs.look? text = fs.get? goal := by
  rw [look?, find_of_goal? h]
  cases fs.get? goal <;> rfl

/-- A path without a goal leads to no file. -/
theorem find_ne_file (h : fs.goal? text = none) (place : Place) (contents : List UInt8) :
    fs.find text ≠ .ok (place, .file contents) := by
  intro hf
  cases h.symm.trans (of_find_file hf).1

/-- A path without a goal shows a directory or nothing. -/
theorem look?_of_goal?_none (h : fs.goal? text = none) :
    fs.look? text = if fs.isDirectory text then some .directory else none := by
  unfold look? isDirectory
  cases hf : fs.find text with
  | error e => rfl
  | ok found =>
    obtain ⟨place, node⟩ := found
    cases node with
    | directory => rfl
    | file contents => exact absurd hf (find_ne_file h place contents)

/-- A path shows the same in systems with the same directories and the same node at its goal. -/
theorem look?_congr (h : SameDirectories fs fs')
    (hg : ∀ goal, fs.goal? text = some goal → fs.get? goal = fs'.get? goal) :
    fs.look? text = fs'.look? text := by
  cases hgoal : fs.goal? text with
  | none =>
    rw [look?_of_goal?_none hgoal, look?_of_goal?_none ((goal?_congr h text).symm.trans hgoal),
      isDirectory_congr h]
  | some goal =>
    rw [look?_of_goal? hgoal, look?_of_goal? ((goal?_congr h text).symm.trans hgoal), hg goal hgoal]

/-- Putting some files and then others is putting all of them. -/
theorem putFiles_append (written more : List (String × List UInt8)) :
    fs.putFiles (written ++ more) = (fs.putFiles written).putFiles more := by
  induction written generalizing fs with
  | nil => rfl
  | cons file rest ih =>
    rw [List.cons_append, putFiles, putFiles]
    split <;> exact ih

end

end FileSystem

/-- A list with elements of a kind has a last one of the kind. -/
theorem exists_last {α : Type} {p : α → Prop} {xs : List α} (h : ∃ x ∈ xs, p x) :
    ∃ front x back, xs = front ++ x :: back ∧ p x ∧ ∀ y ∈ back, ¬ p y := by
  induction xs using List.reverseRecOn with
  | nil => simp at h
  | append_singleton xs x ih =>
    by_cases hx : p x
    · exact ⟨xs, x, [], rfl, hx, nofun⟩
    · have hrest : ∃ y ∈ xs, p y := by
        obtain ⟨y, hy, hp⟩ := h
        rcases List.mem_append.1 hy with hy | hy
        · exact ⟨y, hy, hp⟩
        · rw [List.mem_singleton.1 hy] at hp
          exact absurd hp hx
      obtain ⟨front, y, back, rfl, hy, hb⟩ := ih hrest
      refine ⟨front, y, back ++ [x], by simp, hy, fun z hz => ?_⟩
      rcases List.mem_append.1 hz with hz | hz
      · exact hb z hz
      · rwa [List.mem_singleton.1 hz]

section
variable {base fs : FileSystem} {waiting : List (Staged × List UInt8)}
  {written : List (String × List UInt8)} {text path : String}

/-- A goal holds what it holds in the base, whatever waits. -/
theorem StagedOver.get?_goal {goal : Place} (h : StagedOver base fs waiting)
    (hg : base.goal? text = some goal) : fs.get? goal = base.get? goal := by
  apply h.frame
  intro hm
  obtain ⟨w, hw, hp⟩ := List.mem_map.1 hm
  exact h.place_ne_goal hw hg hp

/-- Files that wait show nowhere. -/
theorem StagedOver.look? (h : StagedOver base fs waiting) (text : String) :
    fs.look? text = base.look? text :=
  (FileSystem.look?_congr h.sameDirectories fun _ hg => (h.get?_goal hg).symm).symm

/-- Over a base in which some goals were filled every path shows what was put last at its goal. -/
theorem StagedOver.showsLast (h : StagedOver (base.putFiles written) fs waiting) (text : String) :
    base.ShowsLast fs written text := by
  by_cases hw : ∃ file ∈ written, base.SameGoal file.1 text
  · obtain ⟨front, ⟨path, contents⟩, back, rfl, ⟨goal, hp, ht⟩, hb⟩ := exists_last hw
    have hlast : ∀ file ∈ back, base.goal? file.1 ≠ some goal := fun file hf hg =>
      hb file hf ⟨goal, hg, ht⟩
    have hdir : SameDirectories base (base.putFiles (front ++ (path, contents) :: back)) :=
      FileSystem.sameDirectories_putFiles _
    refine .written rfl ⟨goal, hp, ht⟩ hb ?_
    rw [h.look?, FileSystem.look?_of_goal? ((FileSystem.goal?_congr hdir text).symm.trans ht)]
    exact FileSystem.get?_putFiles_last hp hlast front contents
  · refine .unwritten (fun file hf hs => hw ⟨file, hf, hs⟩) ?_
    rw [h.look?]
    have hdir : SameDirectories base (base.putFiles written) :=
      FileSystem.sameDirectories_putFiles written
    refine (FileSystem.look?_congr hdir fun goal hg => ?_).symm
    exact (FileSystem.get?_putFiles_of_no_goal fun file hf hfg => hw ⟨file, hf, goal, hfg, hg⟩).symm

/-- A place that is no goal and where nothing waits is as it is in the base. -/
theorem StagedOver.get?_of_untouched {q : Place}
    (h : StagedOver (base.putFiles written) fs waiting) (hw : ∀ w ∈ waiting, w.1.place ≠ q)
    (hg : ∀ file ∈ written, base.goal? file.1 ≠ some q) : fs.get? q = base.get? q := by
  rw [h.frame q fun hm => ?_, FileSystem.get?_putFiles_of_no_goal hg]
  obtain ⟨w, hwm, hp⟩ := List.mem_map.1 hm
  exact hw w hwm hp

end

end ModuleBridge.Files
