import Mathlib.Data.List.Basic
import ModuleBridge.Text.Lines

/-!
# Rows of a text

The rows of a text are what stands between its line feeds, so a text has one row more than line
feeds. Texts without line feeds, joined by line feeds, are the rows of what is joined
(`rows_joinWith`). The lines of a text have no line feed in them, and there is one at least if the
text has a line feed (`lines_ne_nil`).
-/

namespace ModuleBridge.Text

/-- The text stands on one row. -/
def OneRow (s : String) : Prop := '\n' ∉ s.toList

/-- What stands between the line feeds of a text. -/
def rows (s : String) : List String :=
  (s.toList.splitOn '\n').map String.ofList

/-- The characters of some texts, with a line feed after each. -/
def ended (texts : List String) : List Char :=
  texts.flatMap fun t => t.toList ++ ['\n']

/-- The text of `x` determines `x` and what follows it: no other text reads the same with something
behind it. -/
def Determines {α : Type} (text : α → List Char) (good : α → Prop) (follows : List Char → Prop)
    (x : α) : Prop :=
  ∀ y, good y → ∀ rest rest', follows rest → follows rest' →
    text x ++ rest = text y ++ rest' → x = y ∧ rest = rest'

section
variable {s t : String} {texts texts' : List String} {line : String}
  {cs ds begun rest rest' : List Char}

instance (s : String) : Decidable (OneRow s) :=
  inferInstanceAs (Decidable (¬ _))

/-- Two texts are on one row together exactly if each is on one row. -/
theorem oneRow_append_iff : OneRow (s ++ t) ↔ OneRow s ∧ OneRow t := by
  simp [OneRow]

/-- A mark that is none of some characters is the one behind them or stands behind that. -/
theorem append_cons_cases {mark : Char} (hcs : mark ∉ cs)
    (h : cs ++ mark :: rest = ds ++ mark :: rest') :
    ds = cs ∧ rest = rest' ∨
      ∃ more, ds = cs ++ mark :: more ∧ rest = more ++ mark :: rest' := by
  induction cs generalizing ds with
  | nil =>
    cases ds with
    | nil => exact .inl ⟨rfl, (List.cons.inj h).2⟩
    | cons d ds =>
      obtain ⟨rfl, hrest⟩ := List.cons.inj h
      exact .inr ⟨ds, rfl, hrest⟩
  | cons c cs ih =>
    cases ds with
    | nil => exact absurd ((List.cons.inj h).1 ▸ List.mem_cons_self) hcs
    | cons d ds =>
      obtain ⟨rfl, hothers⟩ := List.cons.inj h
      rcases ih (fun hmem => hcs (.tail _ hmem)) hothers with ⟨rfl, hrest⟩ | ⟨more, rfl, hrest⟩
      · exact .inl ⟨rfl, hrest⟩
      · exact .inr ⟨more, rfl, hrest⟩

/-- Characters end where a mark stands that is none of them. -/
theorem append_cons_inj {mark : Char} (hcs : mark ∉ cs) (hds : mark ∉ ds)
    (h : cs ++ mark :: rest = ds ++ mark :: rest') : cs = ds ∧ rest = rest' := by
  rcases append_cons_cases hcs h with ⟨rfl, hrest⟩ | ⟨more, rfl, -⟩
  · exact ⟨rfl, hrest⟩
  · exact absurd (by simp) hds

/-! ## Joining -/

/-- Rows are joined by line feeds. -/
theorem toList_joinRows (texts : List String) :
    (joinWith "\n" texts).toList = List.intercalate ['\n'] (texts.map String.toList) := by
  induction texts with
  | nil => rfl
  | cons t texts ih =>
    cases texts with
    | nil => simp [joinWith]
    | cons t' texts =>
      rw [joinWith, String.toList_append, String.toList_append, ih, List.map_cons, List.map_cons,
        List.map_cons, List.intercalate_cons_cons]
      · rfl
      · exact List.cons_ne_nil _ _

/-- Texts without line feeds are the rows of the text that they make. -/
theorem rows_joinWith (h : ∀ t ∈ texts, OneRow t) (hne : texts ≠ []) :
    rows (joinWith "\n" texts) = texts := by
  rw [rows, toList_joinRows, List.splitOn_intercalate '\n'
    (List.forall_mem_map.2 h) (by simpa using hne), List.map_map]
  simp [Function.comp_def]

/-- Rows that end in line feeds follow each other. -/
theorem ended_cons (t : String) (texts : List String) :
    ended (t :: texts) = t.toList ++ '\n' :: ended texts := by
  simp [ended]

theorem ended_append (texts texts' : List String) :
    ended (texts ++ texts') = ended texts ++ ended texts' :=
  List.flatMap_append

/-- The texts joined by line feeds, with one more at the end. -/
theorem toList_joinWith_append (hne : texts ≠ []) :
    (joinWith "\n" texts).toList ++ ['\n'] = ended texts := by
  induction texts with
  | nil => exact absurd rfl hne
  | cons t texts ih =>
    cases texts with
    | nil => simp [joinWith, ended]
    | cons t' texts =>
      have hjoin : (joinWith "\n" (t :: t' :: texts)).toList =
          t.toList ++ '\n' :: (joinWith "\n" (t' :: texts)).toList := by
        simp [joinWith]
      rw [hjoin, List.append_assoc, List.cons_append, ih (List.cons_ne_nil _ _), ← ended_cons]

/-- What is joined from texts with something in them but no line feed does not end in one. -/
theorem getLast?_joinWith_ne (h : ∀ t ∈ texts, OneRow t ∧ t ≠ "") :
    (joinWith "\n" texts).toList.getLast? ≠ some '\n' := by
  induction texts with
  | nil => simp [joinWith]
  | cons t texts ih =>
    obtain ⟨⟨hrow, -⟩, hothers⟩ := List.forall_mem_cons.1 h
    cases texts with
    | nil => exact fun hlast => hrow (List.mem_of_getLast? hlast)
    | cons t' texts =>
      have hsome : (joinWith "\n" (t' :: texts)).toList ≠ [] := by
        rw [Ne, String.toList_eq_nil_iff]
        have hne := (hothers t' List.mem_cons_self).2
        cases texts <;> simp [joinWith, hne]
      have hlast : (joinWith "\n" (t :: t' :: texts)).toList.getLast? =
          (joinWith "\n" (t' :: texts)).toList.getLast? := by
        rw [joinWith, String.toList_append, List.getLast?_append_of_ne_nil _ hsome]
        exact List.cons_ne_nil _ _
      rw [hlast]
      exact ih hothers

/-- Rows are joined to the same text exactly if they give the same text with line feeds at their
ends. -/
theorem joinWith_eq_iff (hne : texts ≠ []) (hne' : texts' ≠ []) :
    joinWith "\n" texts = joinWith "\n" texts' ↔ ended texts = ended texts' := by
  rw [← toList_joinWith_append hne, ← toList_joinWith_append hne', List.append_cancel_right_eq,
    String.toList_inj]

/-! ## The lines of a text -/

theorem mem_of_mem_dropCarriageReturn {c : Char} (h : c ∈ dropCarriageReturn cs) : c ∈ cs := by
  unfold dropCarriageReturn at h
  split at h
  · exact List.dropLast_subset _ h
  · exact h

/-- No line has a line feed. -/
theorem newline_not_mem_of_mem_linesFrom (hbegun : '\n' ∉ begun) {line : List Char}
    (h : line ∈ linesFrom begun cs) : '\n' ∉ line := by
  fun_induction linesFrom begun cs with
  | case1 begun => cases h
  | case2 begun hne =>
    rw [List.mem_singleton.1 h, List.mem_reverse]
    exact hbegun
  | case3 begun rest ih =>
    rcases List.mem_cons.1 h with rfl | h
    · exact fun hmem => hbegun (List.mem_reverse.1 (mem_of_mem_dropCarriageReturn hmem))
    · exact ih List.not_mem_nil h
  | case4 begun c rest hc ih =>
    refine ih (fun hmem => ?_) h
    rcases List.mem_cons.1 hmem with hmem | hmem
    · exact hc hmem.symm
    · exact hbegun hmem

/-- A line of a text stands on one row. -/
theorem oneRow_of_mem_lines (h : line ∈ lines s) : OneRow line := by
  obtain ⟨cs, hcs, rfl⟩ := List.mem_map.1 h
  rw [OneRow, String.toList_ofList]
  exact newline_not_mem_of_mem_linesFrom List.not_mem_nil hcs

/-- A text with a line feed has lines. -/
theorem linesFrom_ne_nil (h : '\n' ∈ cs) : linesFrom begun cs ≠ [] := by
  fun_induction linesFrom begun cs with
  | case1 | case2 => cases h
  | case3 => exact List.cons_ne_nil _ _
  | case4 begun c rest hc ih =>
    exact ih ((List.mem_cons.1 h).resolve_left fun e => hc e.symm)

/-- A text with a line feed has a line. -/
theorem lines_ne_nil (h : '\n' ∈ s.toList) : lines s ≠ [] := by
  rw [lines, Ne, List.map_eq_nil_iff]
  exact linesFrom_ne_nil h

end

end ModuleBridge.Text
