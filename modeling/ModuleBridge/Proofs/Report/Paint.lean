import ModuleBridge.Proofs.Text.Lines
import ModuleBridge.Report.Style

/-!
# Coloured texts read back

In colours a text stands between the sequence that begins its style and a reset. Each reset in the
text is followed by the sequence again, so the reset at the end is the first that is not
(`afterResets_append_inj`). A coloured text therefore determines its text, whatever follows that is
no sequence (`paint_append_inj`), and it shows its style (`style_eq_of_paint`).
-/

namespace ModuleBridge.Report

open Text (OneRow)

/-- What follows does not begin with a sequence. -/
def EndsPaint (rest : List Char) : Prop :=
  rest.head? ≠ some '\x1b'

section
variable {style style' : Style} {text text' : String} {more cs ds rest rest' : List Char}

/-! ## Resets -/

/-- The characters begin with a reset, with a character that begins none, or are none. -/
theorem afterResets_cases (more cs : List Char) :
    (∃ cs', cs = reset ++ cs' ∧ afterResets more cs = reset ++ (more ++ afterResets more cs')) ∨
    (∃ c cs', cs = c :: cs' ∧ ¬ reset <+: cs ∧ afterResets more cs = c :: afterResets more cs') ∨
    cs = [] ∧ afterResets more cs = [] := by
  fun_cases afterResets more cs with
  | case1 cs' => exact .inl ⟨cs', rfl, List.append_assoc _ _ _⟩
  | case2 c cs' hreset =>
    refine .inr (.inl ⟨c, cs', rfl, ?_, rfl⟩)
    rintro ⟨cs'', hcs⟩
    exact hreset cs'' (List.cons.inj hcs).1.symm (List.cons.inj hcs).2.symm
  | case3 => exact .inr (.inr ⟨rfl, rfl⟩)

/-- A character that begins no sequence is one of the text. -/
theorem exists_of_afterResets_cons {c : Char} (hc : c ≠ '\x1b')
    (h : afterResets more cs ++ (reset ++ rest) = c :: rest') :
    ∃ cs', cs = c :: cs' ∧ afterResets more cs' ++ (reset ++ rest) = rest' := by
  rcases afterResets_cases more cs with ⟨cs', rfl, he⟩ | ⟨d, cs', rfl, -, he⟩ | ⟨rfl, he⟩
  · rw [he] at h
    exact absurd (List.cons.inj h).1.symm hc
  · rw [he, List.cons_append] at h
    obtain ⟨rfl, htail⟩ := List.cons.inj h
    exact ⟨cs', rfl, htail⟩
  · rw [he] at h
    exact absurd (List.cons.inj h).1.symm hc

/-- Where a reset is written for a character of the text, the text has a reset. -/
theorem reset_prefix_of_afterResets {c : Char}
    (h : c :: (afterResets more cs ++ (reset ++ rest)) = reset ++ rest') : reset <+: c :: cs := by
  obtain ⟨rfl, hbracket⟩ := List.cons.inj h
  obtain ⟨cs, rfl, hzero⟩ := exists_of_afterResets_cons (c := '[') (by decide) hbracket
  obtain ⟨cs, rfl, hletter⟩ := exists_of_afterResets_cons (c := '0') (by decide) hzero
  obtain ⟨cs, rfl, -⟩ := exists_of_afterResets_cons (c := 'm') (by decide) hletter
  exact List.prefix_append reset cs

/-- The text ends at the first reset that no sequence follows. -/
theorem afterResets_append_inj (hmore : more.head? = some '\x1b') (hrest : EndsPaint rest)
    (hrest' : EndsPaint rest')
    (h : afterResets more cs ++ (reset ++ rest) = afterResets more ds ++ (reset ++ rest')) :
    cs = ds ∧ rest = rest' := by
  -- What is written after a reset in the text does not follow the one at its end.
  have hends {rest : List Char} (hrest : EndsPaint rest) (cs : List Char) : more ++ cs ≠ rest := by
    rintro rfl
    exact hrest (by rw [List.head?_append, hmore]; rfl)
  induction hn : cs.length using Nat.strongRecOn generalizing cs ds with
  | ind n ih =>
    subst hn
    rcases afterResets_cases more cs with ⟨cs', rfl, he⟩ | ⟨c, cs', rfl, hc, he⟩ | ⟨rfl, he⟩ <;>
      rcases afterResets_cases more ds with ⟨ds', rfl, hd⟩ | ⟨d, ds', rfl, hd', hd⟩ | ⟨rfl, hd⟩ <;>
      simp only [he, hd] at h
    · simp only [List.append_assoc, List.append_cancel_left_eq] at h
      obtain ⟨rfl, htail⟩ := ih _ (by simp [reset]; omega) h rfl
      exact ⟨rfl, htail⟩
    · rw [List.append_assoc, List.cons_append] at h
      exact absurd (reset_prefix_of_afterResets h.symm) hd'
    · simp only [List.append_assoc, List.append_cancel_left_eq, List.nil_append] at h
      exact absurd h (hends hrest' _)
    · rw [List.append_assoc, List.cons_append] at h
      exact absurd (reset_prefix_of_afterResets h) hc
    · obtain ⟨rfl, hothers⟩ := List.cons.inj h
      obtain ⟨rfl, htail⟩ := ih _ (Nat.lt_succ_self _) hothers rfl
      exact ⟨rfl, htail⟩
    · exact absurd (reset_prefix_of_afterResets h) hc
    · simp only [List.append_assoc, List.append_cancel_left_eq, List.nil_append] at h
      exact absurd h.symm (hends hrest _)
    · exact absurd (reset_prefix_of_afterResets h.symm) hd'
    · exact ⟨rfl, List.append_cancel_left h⟩

/-! ## Painted texts -/

/-- A painted text begins with its style and ends with the reset. -/
theorem toList_paint (style : Style) (text : String) :
    (paint true style text).toList =
      style.opening ++ (afterResets style.opening text.toList ++ reset) := by
  rw [paint, if_pos rfl, String.toList_ofList, List.append_assoc]

/-- A coloured text determines its text, whatever follows that is no sequence. -/
theorem paint_append_inj (hrest : EndsPaint rest) (hrest' : EndsPaint rest')
    (h : (paint true style text).toList ++ rest = (paint true style text').toList ++ rest') :
    text = text' ∧ rest = rest' := by
  rw [toList_paint, toList_paint] at h
  simp only [List.append_assoc, List.append_cancel_left_eq] at h
  obtain ⟨htext, hrest⟩ := afterResets_append_inj rfl hrest hrest' h
  exact ⟨String.toList_inj.1 htext, hrest⟩

/-- A text in a style determines the text, with colours and without. -/
theorem paint_inj {isColoured : Bool}
    (h : paint isColoured style text = paint isColoured style text') : text = text' := by
  cases isColoured with
  | false => exact h
  | true =>
    have hends : EndsPaint [] := nofun
    have hchars := congrArg (fun text : String => text.toList ++ []) h
    exact (paint_append_inj hends hends hchars).1

/-- A coloured text shows its style. -/
theorem style_eq_of_paint (h : paint true style text = paint true style' text') :
    style = style' := by
  have hchars := congrArg String.toList h
  rw [toList_paint, toList_paint] at hchars
  revert hchars
  cases style <;> cases style' <;> simp [Style.opening, Style.parameters]

theorem newline_not_mem_afterResets (hmore : '\n' ∉ more) (hcs : '\n' ∉ cs) :
    '\n' ∉ afterResets more cs := by
  fun_induction afterResets more cs with
  | case1 cs ih =>
    have hinside : '\n' ∉ afterResets more cs := ih fun h => hcs (by simp [h])
    simp [reset, hmore, hinside]
  | case2 c cs _ ih =>
    have hc : '\n' ≠ c := fun h => hcs (h ▸ .head _)
    have hinside : '\n' ∉ afterResets more cs := ih fun h => hcs (.tail _ h)
    simp [hc, hinside]
  | case3 => exact List.not_mem_nil

/-- Colours add no line feed. -/
theorem oneRow_paint (isColoured : Bool) (style : Style) (h : OneRow text) :
    OneRow (paint isColoured style text) := by
  cases isColoured with
  | false => exact h
  | true =>
    have hopening : '\n' ∉ style.opening := by
      cases style <;> decide
    have hinside := newline_not_mem_afterResets hopening h
    rw [OneRow, toList_paint]
    simp [hopening, hinside, reset]

end

end ModuleBridge.Report
