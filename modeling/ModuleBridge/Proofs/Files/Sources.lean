import ModuleBridge.ModuleName
import ModuleBridge.Proofs.Files.Siblings

/-!
# Sources and the files next to them

The path of a Python file ends in a name with the extension of one, and what is written next to it
has another extension. So a system in which only such files differ from another one has the same
sources (`SameSources`): every path of a Python file finds the same there (`find_toOption_congr`).
Where the sibling of a module is, its source is too (`exists_source_of_goal?`), so two paths that
share a sibling lead to one source and give it one name.
-/

namespace ModuleBridge.Files

open FileSystem (Same SameDirectories)

/-- The suffixes of what is written next to a module. -/
def siblingSuffixes : List String := [".js", ".d.ts"]

namespace FileSystem

/-- The systems have the same directories, and what has the name of a Python file is the same in
both. -/
structure SameSources (fs fs' : FileSystem) : Prop extends SameDirectories fs fs' where
  source : ∀ name parent, isPythonFile name = true →
    fs.get? (.named name :: parent) = fs'.get? (.named name :: parent)

section
variable {fs fs' fs'' : FileSystem}

theorem SameSources.refl (fs : FileSystem) : SameSources fs fs := ⟨.refl fs, fun _ _ _ => rfl⟩

theorem SameSources.symm (h : SameSources fs fs') : SameSources fs' fs :=
  ⟨h.toSameDirectories.symm, fun name parent hp => (h.source name parent hp).symm⟩

theorem SameSources.trans (h : SameSources fs fs') (h' : SameSources fs' fs'') :
    SameSources fs fs'' :=
  ⟨h.toSameDirectories.trans h'.toSameDirectories,
    fun name parent hp => (h.source name parent hp).trans (h'.source name parent hp)⟩

end

end FileSystem

section
variable {fs fs' : FileSystem} {id id' text suffix suffix' : String} {place goal source : Place}
  {front : Option (List Char)} {name name' : List Char} {contents : List UInt8}

/-! ## Names of Python files -/

/-- A file of Python is told by the end of its path. -/
theorem isPythonFile_ofList : isPythonFile (String.ofList name) = true ↔ pythonExtension <:+ name := by
  rw [isPythonFile, String.toList_ofList, List.isSuffixOf_iff_suffix]

/-- The path of a Python file has its extension in its last part. -/
theorem exists_name_of_isPythonFile (h : isPythonFile text = true) :
    ∃ front name, text.toList = inDirectory front name ∧ IsName name ∧
      isPythonFile (String.ofList name) = true := by
  obtain ⟨front, name, htext, hslash⟩ := exists_inDirectory text.toList
  rw [isPythonFile, htext, List.isSuffixOf_iff_suffix] at h
  have hextension : pythonExtension <:+ name := by
    cases front with
    | none => exact h
    | some xs =>
      rcases List.suffix_or_suffix_of_suffix h (List.suffix_append xs ('/' :: name)) with h | h
      · rcases List.suffix_cons_iff.1 h with h | h
        · exact absurd h (by simp [pythonExtension])
        · exact h
      · exact absurd (h.subset List.mem_cons_self) (by decide)
  refine ⟨front, name, htext, ⟨hslash, 'y', ?_⟩, isPythonFile_ofList.2 hextension⟩
  obtain ⟨stem, rfl⟩ := hextension
  exact ⟨'p' :: '.' :: stem.reverse, by simp [pythonExtension], by decide⟩

/-- The goal of the path of a Python file has the name of one. -/
theorem isPythonFile_of_goal? (h : isPythonFile text = true) (hg : fs.goal? text = some goal) :
    ∃ name parent, goal = .named name :: parent ∧ isPythonFile name = true := by
  obtain ⟨front, name, htext, hname, hextension⟩ := exists_name_of_isPythonFile h
  obtain ⟨parent, rfl⟩ := goal?_inDirectory hg htext hname.goesDown
  exact ⟨_, parent, rfl, hextension⟩

/-! ## Finding sources -/

/-- What the path of a Python file finds is found in every system with the same sources. -/
theorem find_ok_congr (h : fs.SameSources fs') (hp : isPythonFile text = true) {node : Node}
    (hfind : fs.find text = .ok (place, node)) : fs'.find text = .ok (place, node) := by
  cases node with
  | directory => exact FileSystem.find_directory_congr h.toSameDirectories hfind
  | file contents =>
    obtain ⟨hg, hget⟩ := FileSystem.of_find_file hfind
    obtain ⟨name, parent, rfl, hname⟩ := isPythonFile_of_goal? hp hg
    rw [FileSystem.goal?_congr h.toSameDirectories] at hg
    rw [FileSystem.find_of_goal? hg, ← h.source name parent hname, hget]

/-- The path of a Python file finds the same in systems with the same sources. -/
theorem find_toOption_congr (h : fs.SameSources fs') (hp : isPythonFile text = true) :
    (fs.find text).toOption = (fs'.find text).toOption := by
  cases hfind : fs.find text with
  | ok found => rw [find_ok_congr h hp hfind]
  | error e =>
    cases hfind' : fs'.find text with
    | ok found =>
      rw [find_ok_congr h.symm hp hfind'] at hfind
      cases hfind
    | error e' => rfl

/-- A text is read from a file that is found and whose bytes are the text. -/
theorem readText_toOption (fs : FileSystem) (text : String) :
    (fs.readText text).toOption = (fs.find text).toOption.bind fun found =>
      match found.2 with
      | .file contents => Text.Utf8.text? contents
      | .directory => none := by
  unfold FileSystem.readText FileSystem.read
  cases fs.find text with
  | error e => rfl
  | ok found =>
    obtain ⟨place, node⟩ := found
    cases node with
    | directory => rfl
    | file contents =>
      simp only [bind, Except.bind, pure, Except.pure, Except.toOption, Option.bind_some,
        FileSystem.textOf]
      cases Text.Utf8.text? contents <;> rfl

/-- The path of a Python file reads the same in systems with the same sources. -/
theorem readText_toOption_congr (h : fs.SameSources fs') (hp : isPythonFile text = true) :
    (fs.readText text).toOption = (fs'.readText text).toOption := by
  rw [readText_toOption, readText_toOption, find_toOption_congr h hp]

/-- Paths that lead to one place read the same. -/
theorem readText_toOption_eq {text' : String} (hg : fs.goal? text = some goal)
    (hg' : fs.goal? text' = some goal) :
    (fs.readText text).toOption = (fs.readText text').toOption := by
  rw [readText_toOption, readText_toOption, FileSystem.find_of_goal? hg,
    FileSystem.find_of_goal? hg']

/-- A path from which a text is read leads to a file. -/
theorem goal?_isSome_of_readText {contents : String} (h : fs.readText text = .ok contents) :
    (fs.goal? text).isSome := by
  have hsome := readText_toOption fs text
  rw [h] at hsome
  cases hfind : fs.find text with
  | error e => rw [hfind] at hsome; cases hsome
  | ok found =>
    obtain ⟨place, node⟩ := found
    cases node with
    | directory => rw [hfind] at hsome; cases hsome
    | file bytes =>
      rw [(FileSystem.of_find_file hfind).1]
      rfl

/-! ## Siblings -/

/-- The suffixes of siblings are names. -/
theorem isName_of_mem_siblingSuffixes (h : suffix ∈ siblingSuffixes) : IsName suffix.toList := by
  simp only [siblingSuffixes, List.mem_cons, List.not_mem_nil, or_false] at h
  rcases h with rfl | rfl
  · exact isName_code
  · exact isName_declarations

/-- What ends in a sibling's suffix does not end in the extension of a Python file. -/
theorem not_suffix_of_mem_siblingSuffixes (h : suffix ∈ siblingSuffixes) (cs : List Char) :
    ¬ pythonExtension <:+ cs ++ suffix.toList := by
  rintro ⟨stem, hstem⟩
  have hlast := congrArg List.getLast? hstem
  simp only [siblingSuffixes, List.mem_cons, List.not_mem_nil, or_false] at h
  rcases h with rfl | rfl
  · simp [pythonExtension] at hlast
  · simp [pythonExtension] at hlast

/-- What is written next to a module is no Python file. -/
theorem isPythonFile_siblingPath (h : suffix ∈ siblingSuffixes) (id : String) :
    isPythonFile (siblingPath id suffix) = false := by
  rw [← Bool.not_eq_true, isPythonFile, siblingPath, String.toList_append,
    List.isSuffixOf_iff_suffix]
  exact not_suffix_of_mem_siblingSuffixes h _

/-- The goal of a sibling does not have the name of a Python file. -/
theorem isPythonFile_of_goal?_siblingPath (h : suffix ∈ siblingSuffixes)
    (hg : fs.goal? (siblingPath id suffix) = some goal) :
    ∃ name parent, goal = .named name :: parent ∧ isPythonFile name = false := by
  obtain ⟨front, name, hname, hpath⟩ := exists_siblingPath id
  obtain ⟨parent, rfl⟩ := goal?_inDirectory hg (hpath suffix)
    (IsName.append hname (isName_of_mem_siblingSuffixes h)).goesDown
  refine ⟨_, parent, rfl, ?_⟩
  rw [← Bool.not_eq_true, isPythonFile_ofList]
  exact not_suffix_of_mem_siblingSuffixes h name

/-- No sibling is where the path of a Python file leads. -/
theorem goal?_ne_of_isPythonFile (h : suffix ∈ siblingSuffixes) (hp : isPythonFile text = true)
    (hg : fs.goal? (siblingPath id suffix) = some goal) : fs.goal? text ≠ some goal := by
  intro hg'
  obtain ⟨name, parent, rfl, hname⟩ := isPythonFile_of_goal? hp hg'
  obtain ⟨name', parent', he, hname'⟩ := isPythonFile_of_goal?_siblingPath h hg
  obtain ⟨he, -⟩ := List.cons.inj he
  rw [FileName.named.inj he, hname'] at hname
  cases hname

/-- Where a path starts does not depend on its last part. -/
theorem isAbsolute_inDirectory (h : text.toList = inDirectory front name) (hn : '/' ∉ name) :
    (Path.ofText text).isAbsolute = (front.elim false fun xs => (xs ++ ['/']).head? = some '/') := by
  rw [Path.ofText, h]
  cases front with
  | none =>
    have hhead : name.head? ≠ some '/' := fun he => hn (List.mem_of_mem_head? he)
    exact decide_eq_false hhead
  | some xs =>
    refine decide_eq_decide.2 ?_
    cases xs <;> simp [inDirectory]

/-- Paths with the same front lead to names in one directory. -/
theorem tail_eq_of_goal? {text' : String} {goal' : Place}
    (h : text.toList = inDirectory front name) (hn : GoesDown name)
    (h' : text'.toList = inDirectory front name') (hn' : GoesDown name')
    (hg : fs.goal? text = some goal) (hg' : fs.goal? text' = some goal') :
    goal.tail = goal'.tail := by
  have hdirectory {text : String} {name : List Char} {goal : Place}
      (h : text.toList = inDirectory front name) (hn : GoesDown name)
      (hg : fs.goal? text = some goal) :
      fs.directory (if (front.elim false fun xs => (xs ++ ['/']).head? = some '/') then []
        else fs.working) (stepsBefore front) = .ok goal.tail := by
    obtain ⟨path, parent, last, hp, ht, -, rfl, -⟩ := FileSystem.goal?_eq_some_iff.1 hg
    obtain ⟨-, -, -, rfl⟩ := ofText?_eq_ok_iff.1 hp
    obtain ⟨-, hparent, -⟩ := FileSystem.target_eq_named_iff.1 ht
    rw [FileSystem.start, isAbsolute_inDirectory h hn.no_slash, (ofText_inDirectory h hn).1,
      List.dropLast_concat] at hparent
    exact hparent
  exact Except.ok.inj ((hdirectory h hn hg).symm.trans (hdirectory h' hn' hg'))

/-- Where a module's sibling is, its source is too: their names differ by the suffix only. -/
theorem exists_source_of_goal? (hs : suffix ∈ siblingSuffixes) (hp : isPythonFile id = true)
    (hsource : fs.goal? id = some source) (hg : fs.goal? (siblingPath id suffix) = some goal) :
    ∃ front name parent, id.toList = inDirectory front name ∧
      isPythonFile (String.ofList name) = true ∧ source = .named (String.ofList name) :: parent ∧
      goal = .named (String.ofList (name ++ suffix.toList)) :: parent := by
  obtain ⟨front, name, hid, hname, hextension⟩ := exists_name_of_isPythonFile hp
  have hsibling : (siblingPath id suffix).toList = inDirectory front (name ++ suffix.toList) := by
    rw [siblingPath, String.toList_append, inDirectory_append, hid]
  have hdown := (IsName.append hname.no_slash (isName_of_mem_siblingSuffixes hs)).goesDown
  have htail := tail_eq_of_goal? hid hname.goesDown hsibling hdown hsource hg
  obtain ⟨parent, rfl⟩ := goal?_inDirectory hsource hid hname.goesDown
  obtain ⟨parent', rfl⟩ := goal?_inDirectory hg hsibling hdown
  cases htail
  exact ⟨front, name, _, hid, hextension, rfl, rfl⟩

/-- Names with suffixes of siblings are equal only if both parts are. -/
theorem append_suffix_inj (hs : suffix ∈ siblingSuffixes) (hs' : suffix' ∈ siblingSuffixes)
    (h : name ++ suffix.toList = name' ++ suffix'.toList) : name = name' ∧ suffix = suffix' := by
  have hreverse := congrArg List.reverse h
  simp only [siblingSuffixes, List.mem_cons, List.not_mem_nil, or_false] at hs hs'
  rcases hs with rfl | rfl <;> rcases hs' with rfl | rfl <;> simp at hreverse ⊢
  · exact hreverse
  · exact hreverse

end

end ModuleBridge.Files

namespace ModuleBridge.ModuleName

open Files (inDirectory)

/-- The name of a module does not depend on the directory of its file. -/
theorem ofId_inDirectory {id : String} {front : Option (List Char)} {name : List Char}
    (h : id.toList = inDirectory front name) (hp : isPythonFile (String.ofList name) = true) :
    ofId id = ofId (String.ofList name) := by
  obtain ⟨stem, rfl⟩ := Files.isPythonFile_ofList.1 hp
  have hstem (cs : List Char) : withoutExtension (cs ++ pythonExtension) = cs := by
    rw [withoutExtension, if_pos (List.isSuffixOf_iff_suffix.2 (List.suffix_append _ _)),
      List.length_append, Nat.add_sub_cancel, List.take_left]
  have hlast : lastPart (inDirectory front stem) = lastPart stem := by
    cases front with
    | none => rfl
    | some xs =>
      have hslash : isSeparator '/' = true := by decide
      have hreverse : (inDirectory (some xs) stem).reverse = stem.reverse ++ '/' :: xs.reverse := by
        simp [inDirectory]
      have hnone : ('/' :: xs.reverse).takeWhile (fun c => !isSeparator c) = [] :=
        List.takeWhile_cons_of_neg (by simp [hslash])
      rw [lastPart, lastPart, hreverse, List.takeWhile_append, hnone, List.append_nil]
      split
      · next hlength => rw [(List.takeWhile_prefix _).eq_of_length hlength]
      · rfl
  rw [ofId, ofId, h, String.toList_ofList, Files.inDirectory_append, hstem, hstem, hlast]

end ModuleBridge.ModuleName
