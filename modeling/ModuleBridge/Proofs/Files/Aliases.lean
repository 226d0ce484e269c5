import ModuleBridge.Proofs.Files.Siblings

/-!
# Paths with staying steps in front

A path may have any number of steps in front that stay where they are. It leads where the path
without them leads, but the system does not take it if it is too long (`goal?_dotted`). A temporary
file for it is made by a path without those steps, whatever its own length (`canStage_dotted`).
-/

namespace ModuleBridge.Files

/-- A path with staying steps in front. -/
def dotted : Nat → String → String
  | 0, text => text
  | count + 1, text => "./" ++ dotted count text

/-- Staying steps with slashes between them. -/
def dots : Nat → List Char
  | 0 => ['.']
  | count + 1 => '.' :: '/' :: dots count

section
variable {fs : FileSystem} {count : Nat} {text suffix : String}

/-- Each step through `.` makes a path two bytes longer. -/
theorem utf8ByteSize_dotted (count : Nat) (text : String) :
    (dotted count text).utf8ByteSize = 2 * count + text.utf8ByteSize := by
  induction count with
  | zero => rw [dotted, Nat.mul_zero, Nat.zero_add]
  | succ count ih =>
    have hstep : "./".utf8ByteSize = 2 := rfl
    rw [dotted, String.utf8ByteSize_append, ih, hstep]
    omega

/-- A sibling lies behind the same steps. -/
theorem siblingPath_dotted (count : Nat) (text suffix : String) :
    siblingPath (dotted count text) suffix = dotted count (siblingPath text suffix) := by
  induction count with
  | zero => rfl
  | succ count ih =>
    rw [siblingPath] at ih ⊢
    rw [dotted, String.append_assoc, ih]
    rfl

/-- A path behind steps through `.` lies in the directory that these lead to. -/
theorem toList_dotted (count : Nat) (text : String) :
    (dotted (count + 1) text).toList = inDirectory (some (dots count)) text.toList := by
  induction count with
  | zero => rw [dotted, dotted, String.toList_append]; rfl
  | succ count ih => rw [dotted, String.toList_append, ih]; rfl

theorem dots_succ (count : Nat) : dots (count + 1) = dots count ++ ['/', '.'] := by
  induction count with
  | zero => rfl
  | succ count ih => exact congrArg ('.' :: '/' :: ·) ih

theorem reverse_dots (count : Nat) : (dots count).reverse = dots count := by
  induction count with
  | zero => rfl
  | succ count ih =>
    rw [dots_succ, List.reverse_append, ih, ← dots_succ]
    rfl

/-- Steps through `.` move nowhere. -/
theorem moves_dots (count : Nat) : moves (stepsOf (dots count)) = [] := by
  induction count with
  | zero => rfl
  | succ count ih =>
    have hdots : dots (count + 1) = ['.'] ++ '/' :: dots count := rfl
    rw [hdots, stepsOf_append, moves_append, ih]
    rfl

/-- Nothing is left of steps through `.` when their end is trimmed. -/
theorem trimEnd_dots (count : Nat) : Path.trimEnd (dots count ++ ['/']) = [] := by
  induction count with
  | zero => rfl
  | succ count ih =>
    rw [dots, List.cons_append, List.cons_append, Path.trimEnd]
    · exact ih

/-- The directory of a path with staying steps in front is written as one staying step. -/
theorem parentText_dotted (hn : GoesDown text.toList) (count : Nat) :
    Path.parentText (dotted (count + 1) text) = "." := by
  have hx : Path.front (dots count) ++ (dots count).tail = dots count := by
    cases count <;> rfl
  have hfront : Path.front (dots count) = ['.'] := by
    cases count <;> rfl
  have htrim : Path.trimEnd (dots count).tail.reverse = [] := by
    cases count with
    | zero => rfl
    | succ count =>
      have htail : (dots (count + 1)).tail = '/' :: dots count := rfl
      rw [htail, List.reverse_cons, reverse_dots]
      exact trimEnd_dots count
  have hne : dots count ≠ [] := by
    cases count <;> simp [dots]
  rw [parentText_eq (toList_dotted count text) hn hne hx, hfront, htrim]
  rfl

/-- The place where a path with staying steps in front leads. -/
theorem target_dotted (hn : GoesDown text.toList) (hlong : FileSystem.isTooLong text = false)
    (count : Nat) :
    fs.target (Path.ofText (dotted (count + 1) text)) = .ok (.named fs.working text) := by
  obtain ⟨hsteps, -⟩ := ofText_inDirectory (toList_dotted count text) hn
  rw [String.ofList_toList] at hsteps
  have hrelative : (Path.ofText (dotted (count + 1) text)).isAbsolute = false := by
    rw [Path.ofText, toList_dotted]
    cases count <;> rfl
  refine FileSystem.target_eq_named_iff.2 ⟨?_, ?_, hlong⟩
  · rw [hsteps, List.getLast?_concat]
  · rw [hsteps, List.dropLast_concat, FileSystem.start, hrelative, if_neg Bool.false_ne_true,
      stepsBefore, Option.elim_some, ← directory_moves, moves_dots]
    rfl

theorem not_nul_dotted (h : '\x00' ∉ text.toList) (count : Nat) :
    '\x00' ∉ (dotted count text).toList := by
  induction count with
  | zero => exact h
  | succ count ih =>
    rw [dotted, String.toList_append, List.mem_append, not_or]
    exact ⟨by decide, ih⟩

/-- A path that leads to a name no directory has leads to no directory. -/
theorem isDirectory_of_target {parent : Place} {name : String}
    (ht : fs.target (Path.ofText text) = .ok (.named parent name))
    (hd : fs.get? (.named name :: parent) ≠ some .directory) : fs.isDirectory text = false := by
  rw [← Bool.not_eq_true, FileSystem.isDirectory_iff]
  rintro ⟨q, hfind⟩
  unfold FileSystem.find at hfind
  cases hp : Path.ofText? text with
  | error e => rw [hp] at hfind; cases hfind
  | ok path =>
    obtain ⟨-, -, -, rfl⟩ := ofText?_eq_ok_iff.1 hp
    rw [hp] at hfind
    simp only [ht, bind, Except.bind] at hfind
    split at hfind
    · cases hfind
    · split at hfind <;> cases hfind
    · next hdirectory => exact hd hdirectory

/-- A path with staying steps in front that the system takes leads where it does without them. -/
theorem goal?_dotted (hn : GoesDown text.toList) (hlong : FileSystem.isTooLong text = false)
    (hnul : '\x00' ∉ text.toList) (hd : fs.get? (.named text :: fs.working) ≠ some .directory)
    (hlimit : (dotted (count + 1) text).utf8ByteSize ≤ pathLimit) :
    fs.goal? (dotted (count + 1) text) = some (.named text :: fs.working) := by
  have hempty : (dotted (count + 1) text).isEmpty = false := by
    rw [String.isEmpty_eq_false_iff, ne_eq, ← String.toList_eq_nil_iff, toList_dotted]
    simp [inDirectory]
  have hok : Path.ofText? (dotted (count + 1) text) = .ok (Path.ofText (dotted (count + 1) text)) :=
    ofText?_eq_ok_iff.2 ⟨not_nul_dotted hnul _, hempty, hlimit, rfl⟩
  exact FileSystem.goal?_eq_some_iff.2 ⟨_, _, _, hok, target_dotted hn hlong count,
    (ofText_inDirectory (toList_dotted count text) hn).2, rfl, hd⟩

/-- A path with staying steps in front can be staged, whether or not the system takes it. -/
theorem canStage_dotted (hn : GoesDown text.toList)
    (hlong : FileSystem.isTooLong (FileName.temporary (some text) 0).text = false)
    (hnul : '\x00' ∉ text.toList) (hd : fs.get? (.named text :: fs.working) ≠ some .directory)
    (hlimit : (Path.below (Path.below (FileSystem.placeText fs.working) ".")
      (FileName.temporary (some text) 0).text).utf8ByteSize ≤ pathLimit) (count : Nat) :
    canStage fs (dotted (count + 1) text) = true := by
  have hname : (Path.ofText (dotted (count + 1) text)).fileName? = some text := by
    rw [fileName?_inDirectory (toList_dotted count text) hn, String.ofList_toList]
  have hparent := parentText_dotted hn count
  have hfull : Staged.fullPath fs (dotted (count + 1) text) (.temporary (some text) fs.unusedDraw) =
      Path.below (Path.below (FileSystem.placeText fs.working) ".")
        (FileName.temporary (some text) 0).text := by
    have hrelative : (Path.ofText ".").isAbsolute = false := rfl
    rw [Staged.fullPath, hparent, hrelative, if_neg Bool.false_ne_true]
    rfl
  have hdirectory : fs.directoryAt (Path.ofText (Path.parentText (dotted (count + 1) text))) =
      .ok fs.working := by
    rw [hparent]
    rfl
  have hdraw : Staged.draw fs (dotted (count + 1) text) =
      .ok (Staged.newName fs (dotted (count + 1) text) :: fs.working) := by
    refine draw_eq_ok_iff.2 ⟨_, not_nul_dotted hnul _, ?_, hdirectory, ?_, rfl⟩
    · rw [Staged.newName, hname, hfull]
      exact hlimit
    · rw [Staged.newName, hname]
      exact hlong
  have htarget : fs.target (Path.ofText (dotted (count + 1) text)) = .ok (.named fs.working text) :=
    target_dotted hn (isTooLong_of_temporary hlong) count
  rw [canStage, isDirectory_of_target htarget hd, hdraw]
  rfl

end

end ModuleBridge.Files
