import ModuleBridge.Proofs.Files.Writing

/-!
# The files next to a module

A path whose last part is a name, and not a step that stays or goes up, has its file in the
directory where its temporary file is made: what is left of the path without the last part
(`Path.parentText`) walks like all of its steps but the last one. The two are written in different
ways, with and without slashes and staying steps at the end, but make the same moves
(`moves_trimEnd`). The path of a sibling ends in a suffix and so has a name as its last part,
whatever the module's path looks like. Hence it has a goal once it can be staged
(`goal?_isSome_of_canStage`).
-/

namespace ModuleBridge.Files

section
variable {fs : FileSystem} {xs ys name dir : List Char} {text : String}

/-! ## Parts and moves -/

/-- Between slashes there is at least one piece. -/
theorem splitAtSlashes_ne_nil (cs : List Char) : splitAtSlashes cs ≠ [] := by
  induction cs with
  | nil => simp [splitAtSlashes]
  | cons c cs ih =>
    unfold splitAtSlashes
    split
    · simp
    · split <;> simp

/-- A slash ends a part and begins another one. -/
theorem splitAtSlashes_append (xs ys : List Char) :
    splitAtSlashes (xs ++ '/' :: ys) = splitAtSlashes xs ++ splitAtSlashes ys := by
  induction xs with
  | nil => simp [splitAtSlashes]
  | cons c cs ih =>
    by_cases hc : c = '/'
    · simp [splitAtSlashes, hc, ih]
    · simp only [List.cons_append, splitAtSlashes, if_neg hc, ih]
      cases hs : splitAtSlashes cs with
      | nil => exact absurd hs (splitAtSlashes_ne_nil cs)
      | cons part parts => rfl

/-- Characters without a slash are one part. -/
theorem splitAtSlashes_of_no_slash (h : '/' ∉ name) : splitAtSlashes name = [name] := by
  induction name with
  | nil => rfl
  | cons c cs ih =>
    rw [List.mem_cons, not_or] at h
    simp [splitAtSlashes, Ne.symm h.1, ih h.2]

/-- The steps of the path that some characters are. -/
def stepsOf (cs : List Char) : List Step := (splitAtSlashes cs).filterMap Step.ofPart

/-- The steps without those that stay. -/
def moves (steps : List Step) : List Step := steps.filter (· ≠ .stay)

/-- The steps on both sides of a slash follow each other. -/
theorem stepsOf_append (xs ys : List Char) :
    stepsOf (xs ++ '/' :: ys) = stepsOf xs ++ stepsOf ys := by
  rw [stepsOf, splitAtSlashes_append, List.filterMap_append]
  rfl

/-- Moves are counted on each side. -/
theorem moves_append (s t : List Step) : moves (s ++ t) = moves s ++ moves t :=
  List.filter_append ..

/-- Slashes and staying steps at the end of a path are no moves. -/
theorem moves_trimEnd (cs : List Char) :
    moves (stepsOf (Path.trimEnd cs).reverse) = moves (stepsOf cs.reverse) := by
  fun_induction Path.trimEnd cs with
  | case1 cs ih =>
    rw [ih, List.reverse_cons, stepsOf_append, moves_append]
    exact (List.append_nil _).symm
  | case2 => rfl
  | case3 cs ih =>
    have he : ('.' :: '/' :: cs).reverse = cs.reverse ++ '/' :: ['.'] := by simp
    rw [ih, he, stepsOf_append, moves_append]
    exact (List.append_nil _).symm
  | case4 => rfl

/-- Steps that stay do not matter to a walk. -/
theorem directory_moves (place : Place) (steps : List Step) :
    fs.directory place (moves steps) = fs.directory place steps := by
  induction steps generalizing place with
  | nil => rfl
  | cons s rest ih =>
    by_cases hs : s = .stay
    · subst hs
      exact ih place
    · have hm : moves (s :: rest) = s :: moves rest := List.filter_cons_of_pos (by simpa using hs)
      simp only [hm, FileSystem.directory, List.foldlM_cons]
      cases fs.step place s with
      | error e => rfl
      | ok p => exact ih p

end

/-! ## The directory of a path -/

section
variable {fs : FileSystem} {cs xs ys w name : List Char} {front : Option (List Char)}
  {text : String}

/-- A part that goes down to the name it is: it has no slash in it and ends in another character
than a dot. -/
structure IsName (name : List Char) : Prop where
  no_slash : '/' ∉ name
  last : ∃ c rest, name.reverse = c :: rest ∧ c ≠ '.'

/-- A part, after some characters and a slash if they are given. -/
def inDirectory (front : Option (List Char)) (name : List Char) : List Char :=
  front.elim name fun xs => xs ++ '/' :: name

/-- What is added to a path in a directory is added to the name. -/
theorem inDirectory_append (front : Option (List Char)) (name suffix : List Char) :
    inDirectory front (name ++ suffix) = inDirectory front name ++ suffix := by
  cases front with
  | none => rfl
  | some xs => simp [inDirectory]

/-- All characters have a last part. -/
theorem exists_inDirectory (cs : List Char) :
    ∃ front name, cs = inDirectory front name ∧ '/' ∉ name := by
  induction cs with
  | nil => exact ⟨none, [], rfl, List.not_mem_nil⟩
  | cons c cs ih =>
    obtain ⟨front, name, rfl, hname⟩ := ih
    cases front with
    | some xs => exact ⟨some (c :: xs), name, rfl, hname⟩
    | none =>
      by_cases hc : c = '/'
      · exact ⟨some [], name, by rw [hc]; rfl, hname⟩
      · refine ⟨none, c :: name, rfl, ?_⟩
        rw [List.mem_cons, not_or]
        exact ⟨Ne.symm hc, hname⟩

/-- A name with a suffix that is a name is one. -/
theorem IsName.append {suffix : List Char} (h : '/' ∉ name) (hs : IsName suffix) :
    IsName (name ++ suffix) := by
  obtain ⟨c, rest, hr, hc⟩ := hs.last
  refine ⟨?_, c, rest ++ name.reverse, ?_, hc⟩
  · rw [List.mem_append, not_or]
    exact ⟨h, hs.no_slash⟩
  · rw [List.reverse_append, hr]
    rfl

/-- A part that goes down to the name it is, whatever it ends in: it is not empty, has no slash in
it and is no step that stays or goes up. -/
structure GoesDown (name : List Char) : Prop where
  no_slash : '/' ∉ name
  ne_nil : name ≠ []
  ne_stay : name ≠ ['.']
  ne_up : name ≠ ['.', '.']

/-- A name goes down. -/
theorem IsName.goesDown (h : IsName name) : GoesDown name := by
  obtain ⟨c, rest, hr, hc⟩ := h.last
  refine ⟨h.no_slash, ?_, ?_, ?_⟩
  · rintro rfl
    cases hr
  · rintro rfl
    cases hr
    exact hc rfl
  · rintro rfl
    cases hr
    exact hc rfl

/-- The last character of a name is no slash. -/
theorem GoesDown.reverse_eq (h : GoesDown name) :
    ∃ c rest, name.reverse = c :: rest ∧ c ≠ '/' := by
  obtain ⟨c, rest, hr⟩ := List.exists_cons_of_ne_nil (mt List.reverse_eq_nil_iff.1 h.ne_nil)
  refine ⟨c, rest, hr, fun he => h.no_slash ?_⟩
  rw [← List.mem_reverse, hr, ← he]
  exact List.mem_cons_self

/-- What goes down has no slash. -/
theorem GoesDown.reverse_ne_slash (h : GoesDown name) : ∀ c ∈ name.reverse, decide (c ≠ '/') := by
  intro c hc
  rw [List.mem_reverse] at hc
  exact decide_eq_true fun he => h.no_slash (he ▸ hc)

/-- What goes down is a single step. -/
theorem GoesDown.stepsOf (h : GoesDown name) : stepsOf name = [.down (String.ofList name)] := by
  simp [Files.stepsOf, splitAtSlashes_of_no_slash h.no_slash, Step.ofPart, h.ne_nil, h.ne_stay,
    h.ne_up]

/-- Nothing is trimmed after a name. -/
theorem GoesDown.trimEnd (h : GoesDown name) (cs : List Char) :
    Path.trimEnd (name.reverse ++ cs) = name.reverse ++ cs := by
  have hslash : '/' ∉ name.reverse := fun hm => h.no_slash (List.mem_reverse.1 hm)
  have hstay : name.reverse ≠ ['.'] := fun he => h.ne_stay (List.reverse_eq_cons_iff.1 he)
  obtain ⟨c, rest, hr, hs⟩ := h.reverse_eq
  rw [hr] at hslash hstay ⊢
  rw [List.cons_append]
  unfold Path.trimEnd
  split
  · next he => exact absurd (List.cons.inj he).1 hs
  · next he =>
    obtain ⟨rfl, hrest⟩ := List.cons.inj he
    rw [(List.append_eq_nil_iff.1 hrest).1] at hstay
    exact absurd rfl hstay
  · next he =>
    obtain ⟨rfl, hrest⟩ := List.cons.inj he
    cases rest with
    | nil => exact absurd rfl hstay
    | cons d rest =>
      rw [(List.cons.inj hrest).1] at hslash
      exact absurd (List.mem_cons_of_mem _ List.mem_cons_self) hslash
  · rfl

/-- What is left after trimming stood at the front. -/
theorem trimEnd_suffix (cs : List Char) : Path.trimEnd cs <:+ cs := by
  fun_induction Path.trimEnd cs with
  | case1 cs ih => exact ih.trans (List.suffix_cons _ _)
  | case2 => exact List.nil_suffix
  | case3 cs ih => exact ih.trans ((List.suffix_cons _ _).trans (List.suffix_cons _ _))
  | case4 => exact List.suffix_refl _

/-- The front of a path is a prefix of it. -/
theorem front_prefix (cs : List Char) : Path.front cs <+: cs := by
  unfold Path.front
  split <;> simp

/-- The front of a path is decided by what stands before its last slash. -/
theorem front_append (h : xs ≠ []) (ys : List Char) :
    Path.front (xs ++ '/' :: ys) = Path.front xs := by
  match xs with
  | [c] =>
    by_cases hs : c = '/'
    · simp [hs, Path.front]
    · by_cases hd : c = '.'
      · simp [hd, Path.front]
      · simp [Path.front, hs, hd]
  | c :: d :: xs =>
    by_cases hs : c = '/'
    · simp [hs, Path.front]
    · by_cases hd : c = '.'
      · by_cases hds : d = '/'
        · simp [hd, hds, Path.front]
        · simp [hd, hds, Path.front]
      · simp [Path.front, hs, hd]

/-- The front of a path makes no moves. -/
theorem moves_front (hx : Path.front xs ++ ys = xs) (hw : w <+: ys) :
    moves (stepsOf (Path.front xs ++ w)) = moves (stepsOf w) := by
  unfold Path.front at hx ⊢
  split at hx
  · exact congrArg moves (stepsOf_append [] w)
  · have hy : ys = [] := by simpa using hx
    rw [hy, List.prefix_nil] at hw
    rw [hw]
    rfl
  · have hy : ys = '/' :: _ := (List.cons.inj hx).2
    rw [hy] at hw
    rcases List.prefix_cons_iff.1 hw with rfl | ⟨v, rfl, -⟩
    · rfl
    · calc moves (stepsOf (['.'] ++ '/' :: v))
          = moves (stepsOf ['.']) ++ moves (stepsOf v) := by rw [stepsOf_append, moves_append]
        _ = moves (stepsOf ([] ++ '/' :: v)) := by rw [stepsOf_append, moves_append]; rfl
  · rfl

/-- What is kept of a path with its front begins at the root if the path does. -/
theorem head?_front (hx : Path.front xs ++ ys = xs) (hw : w <+: ys) :
    (Path.front xs ++ w).head? = some '/' ↔ xs.head? = some '/' := by
  unfold Path.front at hx ⊢
  split at hx
  · simp
  · simp
  · simp
  · next hroot _ _ =>
    have hy : ys = xs := hx
    have hhead : xs.head? ≠ some '/' := by
      intro he
      obtain ⟨cs, hcs⟩ := List.head?_eq_some_iff.1 he
      exact hroot cs hcs
    subst hy
    obtain ⟨v, rfl⟩ := hw
    cases w with
    | nil => simpa using hhead
    | cons c cs => simp

/-- The directory of a path below the root is what is left in front of its last slash. -/
theorem parentText_eq (h : text.toList = xs ++ '/' :: name) (hn : GoesDown name) (hne : xs ≠ [])
    (hx : Path.front xs ++ ys = xs) :
    Path.parentText text =
      if (Path.front xs ++ (Path.trimEnd ys.reverse).reverse).isEmpty then "."
      else String.ofList (Path.front xs ++ (Path.trimEnd ys.reverse).reverse) := by
  have hfront : Path.front text.toList = Path.front xs := by rw [h, front_append hne]
  have htext : text.toList = Path.front xs ++ (ys ++ '/' :: name) := by
    rw [← List.append_assoc, hx, h]
  have hdrop : text.toList.drop (Path.front xs).length = ys ++ '/' :: name := by
    rw [htext, List.drop_left]
  have hsteps : Path.trimEnd (ys ++ '/' :: name).reverse = name.reverse ++ '/' :: ys.reverse := by
    rw [List.reverse_append, List.reverse_cons, List.append_assoc]
    exact hn.trimEnd _
  have hparent : ((name.reverse ++ '/' :: ys.reverse).dropWhile (· ≠ '/')).drop 1 = ys.reverse := by
    rw [List.dropWhile_append_of_pos hn.reverse_ne_slash]
    simp
  simp only [Path.parentText, hfront, hdrop, hsteps, hparent]
  simp

/-- A name has no front. -/
theorem GoesDown.no_front (h : GoesDown name) : Path.front name = [] := by
  unfold Path.front
  split
  · exact absurd List.mem_cons_self h.no_slash
  · exact absurd rfl h.ne_stay
  · exact absurd (List.mem_cons_of_mem _ List.mem_cons_self) h.no_slash
  · rfl

/-- The directory of a name behind a front is the front. -/
theorem parentText_of_name (h : text.toList = Path.front text.toList ++ name) (hn : GoesDown name) :
    Path.parentText text =
      if (Path.front text.toList).isEmpty then "." else String.ofList (Path.front text.toList) := by
  generalize hf : Path.front text.toList = f at h
  have hdrop : text.toList.drop f.length = name := by rw [h, List.drop_left]
  have hsteps : Path.trimEnd name.reverse = name.reverse := by simpa using hn.trimEnd []
  have hparent : name.reverse.dropWhile (· ≠ '/') = [] := by
    rw [← List.append_nil name.reverse, List.dropWhile_append_of_pos hn.reverse_ne_slash]
    rfl
  obtain ⟨c, rest, hr, -⟩ := hn.reverse_eq
  simp only [Path.parentText, hf, hdrop, hsteps, hparent]
  simp [hr, Path.trimEnd]

/-- A path of no characters is as good as one that stays where it is. -/
theorem ofText_or_stay (cs : List Char) :
    (Path.ofText (if cs.isEmpty then "." else String.ofList cs)).isAbsolute =
        decide (cs.head? = some '/') ∧
      moves (Path.ofText (if cs.isEmpty then "." else String.ofList cs)).steps =
        moves (stepsOf cs) := by
  cases cs with
  | nil => exact ⟨rfl, rfl⟩
  | cons c cs => simp [Path.ofText, stepsOf]

/-- The steps of a path in front of its last part. -/
def stepsBefore (front : Option (List Char)) : List Step := front.elim [] stepsOf

/-- The directory of a path makes the moves in front of the last part, from the same start. -/
theorem ofText_parentText (h : text.toList = inDirectory front name) (hn : GoesDown name) :
    (Path.ofText (Path.parentText text)).isAbsolute = (Path.ofText text).isAbsolute ∧
      moves (Path.ofText (Path.parentText text)).steps = moves (stepsBefore front) := by
  have habsolute : (Path.ofText text).isAbsolute = decide (text.toList.head? = some '/') := rfl
  rw [habsolute, h]
  match front with
  | none =>
    have hname : text.toList = name := h
    have hf : Path.front text.toList = [] := by rw [hname, hn.no_front]
    have hhead : name.head? ≠ some '/' := fun he => hn.no_slash (List.mem_of_mem_head? he)
    rw [parentText_of_name (by rw [hf, hname]; rfl) hn, hf]
    exact ⟨(decide_eq_false hhead).symm, rfl⟩
  | some [] =>
    have hroot : text.toList = '/' :: name := h
    have hf : Path.front text.toList = ['/'] := by rw [hroot]; rfl
    rw [parentText_of_name (by rw [hf, hroot]; rfl) hn, hf]
    exact ⟨rfl, rfl⟩
  | some (c :: cs) =>
    have hne : c :: cs ≠ [] := List.cons_ne_nil c cs
    obtain ⟨ys, hx⟩ := front_prefix (c :: cs)
    have hw : (Path.trimEnd ys.reverse).reverse <+: ys := by
      rw [← List.reverse_suffix, List.reverse_reverse]
      exact trimEnd_suffix _
    rw [parentText_eq h hn hne hx]
    obtain ⟨hstart, hmoves⟩ :=
      ofText_or_stay (Path.front (c :: cs) ++ (Path.trimEnd ys.reverse).reverse)
    refine ⟨?_, ?_⟩
    · rw [hstart]
      exact decide_eq_decide.2 (head?_front hx hw)
    · rw [hmoves, moves_front hx hw, moves_trimEnd, List.reverse_reverse,
        ← moves_front hx (List.prefix_refl ys), hx]
      rfl

/-- A path that ends in a name goes down to it last. -/
theorem ofText_inDirectory (h : text.toList = inDirectory front name) (hn : GoesDown name) :
    (Path.ofText text).steps = stepsBefore front ++ [.down (String.ofList name)] ∧
      (Path.ofText text).endsInSlash = false := by
  have hends : ∃ xs, text.toList = xs ++ name ∧
      stepsOf (xs ++ name) = stepsBefore front ++ [.down (String.ofList name)] := by
    cases front with
    | none => exact ⟨[], h, hn.stepsOf⟩
    | some xs =>
      have hx : text.toList = (xs ++ ['/']) ++ name := by simpa [inDirectory] using h
      refine ⟨xs ++ ['/'], hx, ?_⟩
      rw [List.append_assoc, List.singleton_append, stepsOf_append, hn.stepsOf]
      rfl
  obtain ⟨xs, hx, hsteps⟩ := hends
  obtain ⟨c, rest, hr, hc⟩ := hn.reverse_eq
  rw [Path.ofText, hx]
  refine ⟨hsteps, ?_⟩
  rw [List.getLast?_eq_head?_reverse, List.reverse_append, hr]
  simpa using hc

/-- The file name of a path in a directory is the name there. -/
theorem fileName?_inDirectory (h : text.toList = inDirectory front name) (hn : GoesDown name) :
    (Path.ofText text).fileName? = some (String.ofList name) := by
  have hsteps := (ofText_inDirectory h hn).1
  have hlast : (Path.ofText text).properSteps.getLast? = some (.down (String.ofList name)) := by
    rw [Path.properSteps, hsteps]
    cases stepsBefore front with
    | nil => simp
    | cons s rest =>
      simp only [List.cons_append, List.filter_append]
      split
      · simp
      · exact List.getLast?_concat (l := s :: rest.filter (· ≠ .stay))
  rw [Path.fileName?, hlast]

/-- The system takes a path with a character and without NUL that is not too long. -/
theorem ofText?_eq_ok_iff {path : Path} :
    Path.ofText? text = .ok path ↔ '\x00' ∉ text.toList ∧ text.isEmpty = false ∧
      text.utf8ByteSize ≤ pathLimit ∧ path = Path.ofText text := by
  unfold Path.ofText?
  constructor
  · intro h
    split at h
    · cases h
    · next hnul =>
      split at h
      · cases h
      · next hempty =>
        split at h
        · cases h
        · next hlimit =>
          cases h
          exact ⟨by simpa using hnul, by simpa using hempty, Nat.le_of_not_lt hlimit, rfl⟩
  · rintro ⟨hnul, hempty, hlimit, rfl⟩
    simp [hnul, hempty, Nat.not_lt.2 hlimit]

/-- The name of a goal is the last part of the path. -/
theorem goal?_inDirectory {goal : Place} (hg : fs.goal? text = some goal)
    (h : text.toList = inDirectory front name) (hn : GoesDown name) :
    ∃ parent, goal = .named (String.ofList name) :: parent := by
  obtain ⟨path, parent, name', hp, ht, -, rfl, -⟩ := FileSystem.goal?_eq_some_iff.1 hg
  obtain ⟨-, -, -, rfl⟩ := ofText?_eq_ok_iff.1 hp
  obtain ⟨hlast, -, -⟩ := FileSystem.target_eq_named_iff.1 ht
  rw [(ofText_inDirectory h hn).1, List.getLast?_concat] at hlast
  cases hlast
  exact ⟨parent, rfl⟩

/-- A path with a goal ends in a part that goes down to a name. -/
theorem goesDown_of_goal? {goal : Place} (hg : fs.goal? text = some goal) :
    ∃ front name, text.toList = inDirectory front name ∧ GoesDown name := by
  obtain ⟨path, parent, name', hp, ht, hends, -, -⟩ := FileSystem.goal?_eq_some_iff.1 hg
  obtain ⟨-, hempty, -, rfl⟩ := ofText?_eq_ok_iff.1 hp
  obtain ⟨hlast, -, -⟩ := FileSystem.target_eq_named_iff.1 ht
  obtain ⟨front, name, h, hname⟩ := exists_inDirectory text.toList
  have hsteps : (Path.ofText text).steps = stepsBefore front ++ stepsOf name := by
    rw [Path.ofText, h]
    cases front with
    | none => rfl
    | some xs => exact stepsOf_append xs name
  rw [hsteps] at hlast
  refine ⟨front, name, h, hname, ?_, ?_, ?_⟩
  · rintro rfl
    cases front with
    | none => exact absurd (String.toList_eq_nil_iff.1 h) (String.isEmpty_eq_false_iff.1 hempty)
    | some xs => simp [Path.ofText, h, inDirectory] at hends
  · rintro rfl
    simp [stepsOf, splitAtSlashes, Step.ofPart] at hlast
  · rintro rfl
    simp [stepsOf, splitAtSlashes, Step.ofPart] at hlast

/-- The goal of a path lies in the directory of the path. -/
theorem tail_of_goal? {goal directory : Place} (hg : fs.goal? text = some goal)
    (hd : fs.directoryAt (Path.ofText (Path.parentText text)) = .ok directory) :
    goal.tail = directory := by
  obtain ⟨front, name, h, hn⟩ := goesDown_of_goal? hg
  obtain ⟨path, parent, name', hp, ht, -, rfl, -⟩ := FileSystem.goal?_eq_some_iff.1 hg
  obtain ⟨-, -, -, rfl⟩ := ofText?_eq_ok_iff.1 hp
  obtain ⟨-, hparent, -⟩ := FileSystem.target_eq_named_iff.1 ht
  obtain ⟨hstart, hmoves⟩ := ofText_parentText h hn
  rw [(ofText_inDirectory h hn).1, List.dropLast_concat, ← directory_moves, ← hmoves,
    directory_moves, FileSystem.start, ← hstart] at hparent
  exact Except.ok.inj (hparent.symm.trans hd)

/-- The name of a temporary file is longer than the name of its target. -/
theorem isTooLong_of_temporary {target : String} {draw : Nat}
    (h : FileSystem.isTooLong (FileName.temporary (some target) draw).text = false) :
    FileSystem.isTooLong target = false := by
  have htext : (FileName.temporary (some target) draw).text =
      "." ++ target ++ "." ++ "XXXXXX.tmp" := rfl
  have hsize := congrArg String.utf8ByteSize htext
  simp only [String.utf8ByteSize_append] at hsize
  rw [FileSystem.isTooLong, decide_eq_false_iff_not] at h ⊢
  omega

/-- A path that ends in a name is not empty. -/
theorem isEmpty_inDirectory (h : text.toList = inDirectory front name) (hn : GoesDown name) :
    text.isEmpty = false := by
  obtain ⟨c, rest, hr, -⟩ := hn.reverse_eq
  rw [String.isEmpty_eq_false_iff]
  rintro rfl
  cases front with
  | none =>
    subst h
    cases hr
  | some xs => simp [inDirectory] at h

/-- A path that ends in a name, and that the system takes, has a goal once it can be staged. -/
theorem goal?_isSome_of_canStage (hc : canStage fs text = true)
    (h : text.toList = inDirectory front name) (hn : GoesDown name)
    (hlimit : text.utf8ByteSize ≤ pathLimit) : (fs.goal? text).isSome := by
  simp only [canStage, Bool.and_eq_true, Bool.not_eq_true'] at hc
  obtain ⟨hdirectory, hdraw⟩ := hc
  cases hd : Staged.draw fs text with
  | error e =>
    rw [hd] at hdraw
    cases hdraw
  | ok place =>
    obtain ⟨parent, hnul, -, hparent, htemporary, -⟩ := draw_eq_ok_iff.1 hd
    rw [Staged.newName, fileName?_inDirectory h hn] at htemporary
    obtain ⟨hstart, hmoves⟩ := ofText_parentText h hn
    obtain ⟨hsteps, hslash⟩ := ofText_inDirectory h hn
    have hok : Path.ofText? text = .ok (Path.ofText text) :=
      ofText?_eq_ok_iff.2 ⟨hnul, isEmpty_inDirectory h hn, hlimit, rfl⟩
    have htarget : fs.target (Path.ofText text) = .ok (.named parent (String.ofList name)) := by
      refine FileSystem.target_eq_named_iff.2 ⟨?_, ?_, isTooLong_of_temporary htemporary⟩
      · rw [hsteps, List.getLast?_concat]
      · rw [hsteps, List.dropLast_concat, ← directory_moves, ← hmoves, directory_moves,
          FileSystem.start, ← hstart]
        exact hparent
    have hnone : fs.get? (.named (String.ofList name) :: parent) ≠ some .directory := by
      intro hg
      have hfind : fs.find text = .ok (.named (String.ofList name) :: parent, .directory) := by
        simp only [FileSystem.find, hok, htarget, hg, bind, Except.bind]
        rfl
      rw [FileSystem.isDirectory, hfind] at hdirectory
      cases hdirectory
    rw [FileSystem.goal?_eq_some_iff.2 ⟨_, parent, _, hok, htarget, hslash, rfl, hnone⟩]
    rfl

/-! ## The two siblings of a module -/

/-- The siblings of a module have the same directory and begin with the module's name. -/
theorem exists_siblingPath (id : String) :
    ∃ front name, '/' ∉ name ∧
      ∀ suffix, (siblingPath id suffix).toList = inDirectory front (name ++ suffix.toList) := by
  obtain ⟨front, name, hid, hname⟩ := exists_inDirectory id.toList
  refine ⟨front, name, hname, fun suffix => ?_⟩
  rw [siblingPath, String.toList_append, inDirectory_append, hid]

/-- The suffix of the code is a name. -/
theorem isName_code : IsName ".js".toList :=
  ⟨by decide, 's', ['j', '.'], rfl, by decide⟩

/-- The suffix of the declarations is a name. -/
theorem isName_declarations : IsName ".d.ts".toList :=
  ⟨by decide, 's', ['t', '.', 'd', '.'], rfl, by decide⟩

/-- A sibling that the system takes has a goal once it can be staged. -/
theorem goal?_siblingPath {id suffix : String} (hs : IsName suffix.toList)
    (hlimit : (siblingPath id suffix).utf8ByteSize ≤ pathLimit)
    (hc : canStage fs (siblingPath id suffix) = true) :
    (fs.goal? (siblingPath id suffix)).isSome := by
  obtain ⟨front, name, hname, hpath⟩ := exists_siblingPath id
  exact goal?_isSome_of_canStage hc (hpath suffix) (IsName.append hname hs).goesDown hlimit

/-- Two siblings with different suffixes have different goals. -/
theorem goal?_siblingPath_ne {id suffix suffix' : String} {goal goal' : Place}
    (hs : IsName suffix.toList) (hs' : IsName suffix'.toList) (hne : suffix ≠ suffix')
    (hg : fs.goal? (siblingPath id suffix) = some goal)
    (hg' : fs.goal? (siblingPath id suffix') = some goal') : goal ≠ goal' := by
  obtain ⟨front, name, hname, hpath⟩ := exists_siblingPath id
  obtain ⟨parent, rfl⟩ := goal?_inDirectory hg (hpath suffix) (IsName.append hname hs).goesDown
  obtain ⟨parent', rfl⟩ := goal?_inDirectory hg' (hpath suffix') (IsName.append hname hs').goesDown
  intro he
  apply hne
  simpa [String.ofList_inj, String.toList_inj] using (List.cons.inj he).1

end

end ModuleBridge.Files
