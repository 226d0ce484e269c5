import Mathlib.Data.List.TakeWhile
import ModuleBridge.ModuleName

/-!
# The name of a module and the path of its file

The path of a file is a directory, which is empty or ends in a separator, and behind it a segment
without separators (`LastSegment`); what the name is taken from is the path without the extension,
if it has one (`StemOf`). Both can be told apart in one way only: the characters after the last
separator are the segment (`lastPart_append`), and the extension goes once
(`withoutExtension_stem`). So the name is the last segment of the stem, and a name of its own only
if that is empty (`ofId_of_segment`).
-/

namespace ModuleBridge.ModuleName

/-- No character of the text separates the parts of a path. -/
def IsSegment (s : String) : Prop :=
  ∀ c ∈ s.toList, c ≠ '/' ∧ c ≠ '\\'

instance (s : String) : Decidable (IsSegment s) :=
  List.decidableBAll _ s.toList

/-- The text is what may stand in front of a segment: nothing, or a path with a separator at its
end. -/
inductive IsDirectory : String → Prop
  | here : IsDirectory ""
  | slash (path : String) : IsDirectory (path ++ "/")
  | backslash (path : String) : IsDirectory (path ++ "\\")

/-- The path ends in the segment. -/
inductive LastSegment : String → String → Prop
  | intro {front segment : String} (hf : IsDirectory front) (hs : IsSegment segment) :
    LastSegment (front ++ segment) segment

/-- The path without the extension of a Python file, or the whole path if it has no such
extension. -/
inductive StemOf : String → String → Prop
  | cut (stem : String) : StemOf (stem ++ ".py") stem
  | whole {id : String} (h : ∀ stem, id ≠ stem ++ ".py") : StemOf id id

section
variable {id stem front segment : String} {cs : List Char} {c : Char}

theorem isSeparator_eq_false_iff : isSeparator c = false ↔ c ≠ '/' ∧ c ≠ '\\' := by
  simp [isSeparator]

/-! ## The last segment -/

theorem IsSegment.not_isSeparator (h : IsSegment segment) :
    ∀ c ∈ segment.toList.reverse, (!isSeparator c) = true := by
  intro c hc
  rw [isSeparator_eq_false_iff.2 (h c (List.mem_reverse.1 hc)), Bool.not_false]

/-- Before a directory ends, its last separator stands. -/
theorem IsDirectory.takeWhile_reverse (h : IsDirectory front) :
    front.toList.reverse.takeWhile (fun c => !isSeparator c) = [] := by
  cases h with
  | here => rfl
  | slash path | backslash path =>
    rw [String.toList_append, List.reverse_append]
    exact List.takeWhile_cons_of_neg (by decide)

/-- The characters after the last separator are the segment behind the directory. -/
theorem lastPart_append (hf : IsDirectory front) (hs : IsSegment segment) :
    lastPart (front ++ segment).toList = segment.toList := by
  rw [lastPart, String.toList_append, List.reverse_append,
    List.takeWhile_append_of_pos hs.not_isSeparator, hf.takeWhile_reverse, List.append_nil,
    List.reverse_reverse]

/-- Every path ends in a segment. -/
theorem exists_lastSegment (path : String) : ∃ segment, LastSegment path segment := by
  obtain ⟨behind, hbehind⟩ : ∃ behind, path.toList.reverse =
      path.toList.reverse.takeWhile (fun c => !isSeparator c) ++ behind ∧
        ∀ c ∈ behind.head?, isSeparator c = true := by
    refine ⟨_, List.takeWhile_append_dropWhile.symm, fun c hc => ?_⟩
    have hdrop := List.head?_dropWhile_not (fun c => !isSeparator c) path.toList.reverse
    rw [Option.mem_def.1 hc] at hdrop
    simpa using hdrop
  obtain ⟨hpath, hhead⟩ := hbehind
  have hsegment : IsSegment (String.ofList (lastPart path.toList)) := by
    intro c hc
    rw [String.toList_ofList, lastPart, List.mem_reverse] at hc
    exact isSeparator_eq_false_iff.1 (by simpa using List.mem_takeWhile_imp hc)
  have hdirectory : IsDirectory (String.ofList behind.reverse) := by
    cases behind with
    | nil => exact .here
    | cons c before =>
      have hc : c = '/' ∨ c = '\\' := by simpa [isSeparator] using hhead c rfl
      rw [List.reverse_cons, String.ofList_append]
      rcases hc with rfl | rfl
      · exact .slash _
      · exact .backslash _
  have hparts : path = String.ofList behind.reverse ++ String.ofList (lastPart path.toList) := by
    have hreverse := congrArg List.reverse hpath
    rw [List.reverse_reverse, List.reverse_append] at hreverse
    rw [← String.ofList_append, lastPart, ← hreverse, String.ofList_toList]
  refine ⟨String.ofList (lastPart path.toList), ?_⟩
  conv => arg 1; rw [hparts]
  exact .intro hdirectory hsegment

/-! ## The stem -/

/-- The extension goes once. -/
theorem withoutExtension_stem (h : StemOf id stem) : withoutExtension id.toList = stem.toList := by
  have hextension : ".py".toList = pythonExtension := rfl
  cases h with
  | cut stem =>
    rw [withoutExtension, String.toList_append, hextension,
      if_pos (List.isSuffixOf_iff_suffix.2 (List.suffix_append _ _)), List.length_append,
      Nat.add_sub_cancel, List.take_left]
  | whole h =>
    rw [withoutExtension, if_neg]
    rw [List.isSuffixOf_iff_suffix]
    rintro ⟨before, hbefore⟩
    refine h (String.ofList before) (String.toList_inj.1 ?_)
    rw [String.toList_append, String.toList_ofList, hextension, hbefore]

/-- An id that does not end in the extension's last letter has no extension. -/
theorem not_extended_of_getLast? (h : id.toList.getLast? ≠ some 'y') :
    ∀ stem, id ≠ stem ++ ".py" := by
  rintro stem rfl
  rw [String.toList_append] at h
  exact h (by rw [List.getLast?_append]; rfl)

/-- Every id has a stem. -/
theorem exists_stemOf (id : String) : ∃ stem, StemOf id stem := by
  by_cases h : ∃ stem, id = stem ++ ".py"
  · obtain ⟨stem, rfl⟩ := h
    exact ⟨stem, .cut stem⟩
  · exact ⟨id, .whole (not_exists.1 h)⟩

/-! ## The name -/

/-- The name is the last segment of the stem, if that is not empty. -/
theorem ofId_of_segment (hstem : StemOf id stem) (hsegment : LastSegment stem segment) :
    ofId id = if segment = "" then unnamed else ⟨segment⟩ := by
  cases hsegment with
  | intro hf hs =>
    rw [ofId, withoutExtension_stem hstem, lastPart_append hf hs]
    cases hcs : segment.toList with
    | nil => rw [if_pos (String.toList_eq_nil_iff.1 hcs)]
    | cons c cs =>
      have hne : segment ≠ "" := by
        rintro rfl
        cases hcs
      rw [if_neg hne, ← String.ofList_toList (s := segment), hcs]

/-- The name that stands in for an empty one is a segment. -/
theorem isSegment_unnamed : IsSegment unnamed.text := by
  decide

/-- **The name of a module.** Every path has a stem and every stem a last segment, which is the name
of the module unless it is empty; then, and only then, a name stands in for it. So a name is never
empty and has no separator, a file's name without the extension names its module in any directory,
and so does the whole last segment of a path without the extension. Reference:
`ModuleName::from_id`. -/
theorem ofId_lastSegment :
    (∀ id, (ofId id).text ≠ "" ∧ IsSegment (ofId id).text) ∧
    (∀ front name, IsDirectory front → IsSegment name → name ≠ "" →
      ofId (front ++ name ++ ".py") = ⟨name⟩) ∧
    (∀ id segment, (∀ stem, id ≠ stem ++ ".py") → LastSegment id segment → segment ≠ "" →
      ofId id = ⟨segment⟩) ∧
    (∀ id, ∃ stem segment, StemOf id stem ∧ LastSegment stem segment) ∧
    ∀ id stem segment, StemOf id stem → LastSegment stem segment →
      ofId id = if segment = "" then unnamed else ⟨segment⟩ := by
  have htotal : ∀ id, ∃ stem segment, StemOf id stem ∧ LastSegment stem segment := by
    intro id
    obtain ⟨stem, hstem⟩ := exists_stemOf id
    obtain ⟨segment, hsegment⟩ := exists_lastSegment stem
    exact ⟨stem, segment, hstem, hsegment⟩
  refine ⟨fun id => ?_, fun front name hf hs hne => ?_, fun id segment hid hs hne => ?_, htotal,
    fun id stem segment => ofId_of_segment⟩
  · obtain ⟨stem, segment, hstem, hsegment⟩ := htotal id
    rw [ofId_of_segment hstem hsegment]
    split
    · exact ⟨by decide, isSegment_unnamed⟩
    · next hne =>
      cases hsegment with
      | intro hf hs => exact ⟨hne, hs⟩
  · rw [ofId_of_segment (.cut _) (.intro hf hs), if_neg hne]
  · rw [ofId_of_segment (.whole hid) hs, if_neg hne]

/-- Only the extension at the very end goes, whatever the name and its directory look like. A path
that ends in a separator, or in nothing but the extension, gives the name that stands in. -/
theorem ofId_lastSegment_dotted :
    IsDirectory ("a.py/b" ++ "\\") ∧ IsSegment "my.py" ∧
      ofId ("a.py/b" ++ "\\" ++ "my.py" ++ ".py") = ⟨"my.py"⟩ ∧ ofId "notes.pyc" = ⟨"notes.pyc"⟩ ∧
      ofId ("dir" ++ "/" ++ "") = unnamed ∧ ofId ("src" ++ "/" ++ "" ++ ".py") = unnamed := by
  obtain ⟨-, hname, hwhole, -, hsegment⟩ := ofId_lastSegment
  have hdirectory : IsDirectory ("a.py/b" ++ "\\") := .backslash "a.py/b"
  have hmy : IsSegment "my.py" := by decide
  have hnotes : LastSegment ("" ++ "notes.pyc") "notes.pyc" := .intro .here (by decide)
  have hnone : IsSegment "" := nofun
  rw [String.empty_append] at hnotes
  refine ⟨hdirectory, hmy, hname _ _ hdirectory hmy (by decide), ?_, ?_, ?_⟩
  · exact hwhole _ _ (not_extended_of_getLast? (by decide)) hnotes (by decide)
  · exact hsegment _ _ _ (.whole (not_extended_of_getLast? (by decide)))
      (.intro (.slash "dir") hnone)
  · exact hsegment _ _ _ (.cut ("src" ++ "/" ++ "")) (.intro (.slash "src") hnone)

end

end ModuleBridge.ModuleName
