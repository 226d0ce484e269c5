import ModuleBridge.Proofs.Json.Keys
import ModuleBridge.Proofs.Report.View

/-!
# Reading an outline back

What is written for an entry ends where something follows that is not deeper (`Ends`). So the view
of a value can be read back from what is written under its label, whatever follows that is not
deeper (`View.determines`, by induction on the view), which for the lines of a string, items and
members alike is a matter of texts one after the other (`flatMap_append_inj`). Two objects have the
same outline if the same is written for their members (`outline_object_iff`), and two arrays if
their items have the same views (`outline_array_iff`).
-/

namespace ModuleBridge.Report

open Text (OneRow ended Determines append_cons_inj)

/-- What follows is not as deep. -/
def Ends (depth : Nat) (rest : List Char) : Prop :=
  rest ≠ [] → ¬ (indent depth).toList <+: rest

/-- The views that can be read back. -/
inductive View.Fits (isColoured : Bool) : View → Prop
  | inline {v : Json} (inline : IsInline isColoured v) : Fits isColoured (.inline v)
  | block {lines : List String} (some : lines ≠ []) (rows : ∀ line ∈ lines, OneRow line) :
    Fits isColoured (.block lines)
  | items {views : List View} (some : views ≠ []) (fits : ∀ v ∈ views, Fits isColoured v) :
    Fits isColoured (.items views)
  | members {views : List (String × View)} (some : views ≠ [])
    (keys : ∀ m ∈ views, isColoured = false → Legible m.1)
    (fits : ∀ m ∈ views, Fits isColoured m.2) : Fits isColoured (.members views)

section
variable {isColoured : Bool} {depth : Nat} {v w : Json} {rest rest' : List Char}

/-! ## Depths -/

/-- What is not as deep is not deeper. -/
theorem Ends.succ (h : Ends depth rest) : Ends (depth + 1) rest := by
  intro hne hdeeper
  rw [indent_add] at hdeeper
  exact h hne ((List.prefix_append _ _).trans hdeeper)

/-- What begins behind the spaces of a depth is not deeper. -/
theorem ends_indent {cs : List Char} (hcs : ¬ [' ', ' '] <+: cs) :
    Ends (depth + 1) ((indent depth).toList ++ cs) := by
  intro _ hdeeper
  rw [indent_add, List.prefix_append_right_inj] at hdeeper
  exact hcs hdeeper

theorem Ends.of_nil : Ends depth [] := fun h => absurd rfl h

/-- Texts one after the other end where something follows that is not as deep, if each begins with
the spaces of the depth and is determined when what may follow it is another one or the end. -/
theorem flatMap_append_inj {α : Type} {text : α → List Char} {good : α → Prop}
    {follows : List Char → Prop} {xs ys : List α}
    (hstart : ∀ x, ∃ cs, cs ≠ [] ∧ text x = (indent depth).toList ++ cs)
    (hnext : ∀ x, good x → ∀ rest, follows (text x ++ rest))
    (hend : ∀ rest, Ends depth rest → follows rest)
    (hxs : ∀ x ∈ xs, good x ∧ Determines text good follows x) (hys : ∀ y ∈ ys, good y)
    (hrest : Ends depth rest) (hrest' : Ends depth rest')
    (h : xs.flatMap text ++ rest = ys.flatMap text ++ rest') : xs = ys ∧ rest = rest' := by
  -- What follows is no further text.
  have hmore {x : α} {xs : List α} {rest rest' : List Char} (hrest : Ends depth rest) :
      rest ≠ (x :: xs).flatMap text ++ rest' := by
    rintro rfl
    obtain ⟨cs, hne, htext⟩ := hstart x
    rw [List.flatMap_cons, htext, List.append_assoc, List.append_assoc] at hrest
    exact hrest (by simp [hne]) (List.prefix_append _ _)
  have hfollows {xs : List α} {rest : List Char} (hxs : ∀ x ∈ xs, good x)
      (hrest : Ends depth rest) : follows (xs.flatMap text ++ rest) := by
    cases xs with
    | nil => exact hend rest hrest
    | cons x xs =>
      rw [List.flatMap_cons, List.append_assoc]
      exact hnext x (hxs x (.head _)) _
  induction xs generalizing ys with
  | nil =>
    cases ys with
    | nil => exact ⟨rfl, h⟩
    | cons y ys => exact absurd h (hmore hrest)
  | cons x xs ih =>
    obtain ⟨⟨hx, hdetermined⟩, hothers⟩ := List.forall_mem_cons.1 hxs
    cases ys with
    | nil => exact absurd h.symm (hmore hrest')
    | cons y ys =>
      obtain ⟨hy, hothers'⟩ := List.forall_mem_cons.1 hys
      rw [List.flatMap_cons, List.flatMap_cons, List.append_assoc, List.append_assoc] at h
      obtain ⟨rfl, htail⟩ := hdetermined y hy _ _ (hfollows (fun x hx => (hothers x hx).1) hrest)
        (hfollows hothers' hrest') h
      obtain ⟨rfl, hafter⟩ := ih hothers hothers' htail
      exact ⟨rfl, hafter⟩

/-! ## Reading a view back -/

/-- A row of a string ends where its line does. -/
theorem determines_row (line : String) (hline : OneRow line) :
    Determines (rowText isColoured depth) OneRow (fun _ => True) line := by
  intro line' hline' rest rest' _ _ h
  simp only [rowText, List.append_assoc, List.append_cancel_left_eq, List.singleton_append] at h
  obtain ⟨htext, hrest⟩ := append_cons_inj (oneRow_paint _ _ hline) (oneRow_paint _ _ hline') h
  exact ⟨paint_inj (String.toList_inj.1 htext), hrest⟩

/-- Rows are read back in front of what ends them. -/
theorem rows_append_inj {lines lines' : List String} (hlines : ∀ line ∈ lines, OneRow line)
    (hlines' : ∀ line ∈ lines', OneRow line) (hrest : Ends depth rest) (hrest' : Ends depth rest')
    (h : lines.flatMap (rowText isColoured depth) ++ rest =
      lines'.flatMap (rowText isColoured depth) ++ rest') : lines = lines' ∧ rest = rest' := by
  exact flatMap_append_inj (fun line => ⟨_, by simp, rfl⟩) (fun _ _ _ => trivial)
    (fun _ _ => trivial)
    (fun line hmem => ⟨hlines line hmem, determines_row line (hlines line hmem)⟩)
    hlines' hrest hrest' h

/-- An item is determined if its value is. -/
theorem determines_item {v : View}
    (hv : Determines (View.text isColoured depth) (View.Fits isColoured) (Ends (depth + 1)) v) :
    Determines (itemText isColoured depth) (View.Fits isColoured) (Ends (depth + 1)) v := by
  intro w hw rest rest' hrest hrest' h
  simp only [itemText, List.append_assoc, List.append_cancel_left_eq, List.cons_append] at h
  exact hv w hw rest rest' hrest hrest' (List.cons.inj h).2

/-- The key can be told from what follows it, and the value of the member from what follows that. -/
def MemberFits (isColoured : Bool) (m : String × View) : Prop :=
  (isColoured = false → Legible m.1) ∧ m.2.Fits isColoured

/-- A member is determined if its value is. -/
theorem determines_member {m : String × View} (hkey : isColoured = false → Legible m.1)
    (hm : Determines (View.text isColoured depth) (View.Fits isColoured) (Ends (depth + 1)) m.2) :
    Determines (memberText isColoured depth) (MemberFits isColoured) (Ends (depth + 1)) m := by
  intro m' hm' rest rest' hrest hrest' h
  obtain ⟨key, v⟩ := m
  obtain ⟨key', v'⟩ := m'
  simp only [memberText, List.append_assoc, List.append_cancel_left_eq, List.cons_append] at h
  obtain ⟨rfl, hvalue⟩ := key_append_inj hkey hm'.1 h
  obtain ⟨rfl, htail⟩ := hm v' hm'.2 rest rest' hrest hrest' hvalue
  exact ⟨rfl, htail⟩

/-- Items one after the other. -/
theorem items_append_inj {views views' : List View}
    (hviews : ∀ v ∈ views, v.Fits isColoured ∧
      Determines (View.text isColoured depth) (View.Fits isColoured) (Ends (depth + 1)) v)
    (hviews' : ∀ v ∈ views', v.Fits isColoured) (hrest : Ends depth rest)
    (hrest' : Ends depth rest')
    (h : itemsText isColoured depth views ++ rest = itemsText isColoured depth views' ++ rest') :
    views = views' ∧ rest = rest' := by
  have hnext (v : View) (rest : List Char) :
      Ends (depth + 1) (itemText isColoured depth v ++ rest) := by
    rw [itemText, List.append_assoc]
    exact ends_indent fun h => absurd (List.cons_prefix_cons.1 h).1 (by decide)
  rw [itemsText_eq, itemsText_eq] at h
  exact flatMap_append_inj (fun v => ⟨_, by simp, rfl⟩) (fun v _ => hnext v) (fun _ => Ends.succ)
    (fun v hv => ⟨(hviews v hv).1, determines_item (hviews v hv).2⟩) hviews' hrest hrest' h

/-- Members one after the other. -/
theorem members_append_inj {views views' : List (String × View)}
    (hviews : ∀ m ∈ views, MemberFits isColoured m ∧
      Determines (View.text isColoured depth) (View.Fits isColoured) (Ends (depth + 1)) m.2)
    (hviews' : ∀ m ∈ views', MemberFits isColoured m) (hrest : Ends depth rest)
    (hrest' : Ends depth rest')
    (h : membersText isColoured depth views ++ rest =
      membersText isColoured depth views' ++ rest') :
    views = views' ∧ rest = rest' := by
  have hnext (m : String × View) (hm : MemberFits isColoured m) (rest : List Char) :
      Ends (depth + 1) (memberText isColoured depth m ++ rest) := by
    rw [memberText, List.append_assoc, List.append_assoc]
    exact ends_indent (not_prefix_key isColoured hm.1 _).1
  rw [membersText_eq, membersText_eq] at h
  exact flatMap_append_inj (fun m => ⟨_, by simp, rfl⟩) hnext (fun _ => Ends.succ)
    (fun m hm => ⟨(hviews m hm).1, determines_member (hviews m hm).1.1 (hviews m hm).2⟩)
    hviews' hrest hrest' h

/-- The rows of a string are not what follows a value. -/
theorem not_ends_rows {lines : List String} (hsome : lines ≠ []) :
    ¬ Ends depth (lines.flatMap (rowText isColoured depth) ++ rest) := by
  obtain ⟨line, lines, rfl⟩ := List.exists_cons_of_ne_nil hsome
  intro h
  rw [List.flatMap_cons, rowText, List.append_assoc, List.append_assoc] at h
  exact h (by simp) (List.prefix_append _ _)

/-- A value behind a label is not the bar above the rows of a string, unless they are missing. -/
theorem inline_ne_block {lines : List String} (hv : IsInline isColoured v) (hsome : lines ≠ [])
    (hrest : Ends (depth + 1) rest) :
    (View.inline v).text isColoured depth ++ rest ≠
      (View.block lines).text isColoured depth ++ rest' := by
  intro h
  rw [View.text, View.text, List.cons_append, List.cons_append, List.append_assoc] at h
  have hbar : '\n' ∉ ['|'] := by decide
  have hbelow : rest = lines.flatMap (rowText isColoured (depth + 1)) ++ rest' :=
    (append_cons_inj (oneRow_scalarText hv) hbar (List.cons.inj h).2).2
  rw [hbelow] at hrest
  exact not_ends_rows hsome hrest

/-- Items do not begin as members do. -/
theorem items_ne_members {views : List View} {members : List (String × View)} (hsome : views ≠ [])
    (hsome' : members ≠ []) (hmembers : ∀ m ∈ members, MemberFits isColoured m) :
    itemsText isColoured depth views ++ rest ≠ membersText isColoured depth members ++ rest' := by
  obtain ⟨v, views, rfl⟩ := List.exists_cons_of_ne_nil hsome
  obtain ⟨m, members, rfl⟩ := List.exists_cons_of_ne_nil hsome'
  obtain ⟨c, cs, hcs, hc⟩ := exists_text_start isColoured depth v
  intro h
  rw [itemsText_eq, membersText_eq, List.flatMap_cons, List.flatMap_cons, itemText, memberText,
    hcs] at h
  simp only [List.append_assoc, List.append_cancel_left_eq, List.cons_append] at h
  have hkey : isColoured = false → Legible m.1 := (hmembers m (.head _)).1
  exact (not_prefix_key isColoured hkey _).2 c hc ⟨_, h⟩

/-- **The view can be read back** from what is written under a label, whatever follows that is not
deeper. -/
theorem View.determines {v : View} (hv : v.Fits isColoured) (depth : Nat) :
    Determines (View.text isColoured depth) (View.Fits isColoured) (Ends (depth + 1)) v := by
  induction hv generalizing depth with
  | inline hinline =>
    intro w hw rest rest' hrest hrest' h
    cases hw with
    | inline hinline' =>
      simp only [View.text, List.cons_append, List.append_assoc] at h
      obtain ⟨rfl, htail⟩ := inline_append_inj hinline hinline' (List.cons.inj h).2
      exact ⟨rfl, htail⟩
    | block some => exact absurd h (inline_ne_block hinline some hrest)
    | items | members => simp [View.text] at h
  | block some rows =>
    intro w hw rest rest' hrest hrest' h
    cases hw with
    | inline hinline => exact absurd h.symm (inline_ne_block hinline some hrest')
    | block _ rows' =>
      simp only [View.text, List.cons_append, List.cons.injEq, true_and] at h
      obtain ⟨rfl, htail⟩ := rows_append_inj rows rows' hrest hrest' h
      exact ⟨rfl, htail⟩
    | items | members => simp [View.text] at h
  | items some fits ih =>
    intro w hw rest rest' hrest hrest' h
    cases hw with
    | inline | block => simp [View.text] at h
    | items _ fits' =>
      simp only [View.text, List.cons_append, List.cons.injEq, true_and] at h
      obtain ⟨rfl, htail⟩ := items_append_inj (fun v hv => ⟨fits v hv, ih v hv (depth + 1)⟩) fits'
        hrest hrest' h
      exact ⟨rfl, htail⟩
    | members some' keys' fits' =>
      simp only [View.text, List.cons_append, List.cons.injEq, true_and] at h
      exact absurd h (items_ne_members some some' fun m hm => ⟨keys' m hm, fits' m hm⟩)
  | members some keys fits ih =>
    intro w hw rest rest' hrest hrest' h
    cases hw with
    | inline | block => simp [View.text] at h
    | items some' =>
      simp only [View.text, List.cons_append, List.cons.injEq, true_and] at h
      exact absurd h.symm (items_ne_members some' some fun m hm => ⟨keys m hm, fits m hm⟩)
    | members _ keys' fits' =>
      simp only [View.text, List.cons_append, List.cons.injEq, true_and] at h
      obtain ⟨rfl, htail⟩ := members_append_inj
        (fun m hm => ⟨⟨keys m hm, fits m hm⟩, ih m hm (depth + 1)⟩)
        (fun m hm => ⟨keys' m hm, fits' m hm⟩) hrest hrest' h
      exact ⟨rfl, htail⟩

/-! ## The views of values -/

/-- What items show is what one of them shows. -/
theorem mem_itemViews {items : List Json} {u : View} (h : u ∈ itemViews isColoured items) :
    ∃ v ∈ items, u = view isColoured v := by
  induction items with
  | nil => cases h
  | cons v rest ih =>
    rw [itemViews] at h
    rcases List.mem_cons.1 h with rfl | h
    · exact ⟨v, .head _, rfl⟩
    · obtain ⟨w, hw, rfl⟩ := ih h
      exact ⟨w, .tail _ hw, rfl⟩

/-- What members show is what one of them shows under its key. -/
theorem mem_memberViews {members : List (String × Json)} {u : String × View}
    (h : u ∈ memberViews isColoured members) :
    ∃ m ∈ members, u = (m.1, view isColoured m.2) := by
  induction members with
  | nil => cases h
  | cons m rest ih =>
    rw [memberViews] at h
    rcases List.mem_cons.1 h with rfl | h
    · exact ⟨m, .head _, rfl⟩
    · obtain ⟨m', hm', rfl⟩ := ih h
      exact ⟨m', .tail _ hm', rfl⟩

/-- What is shown of a scalar stands behind its label. -/
theorem isInline_bare (h : IsInline true v) : IsInline isColoured (bare isColoured v) := by
  cases isColoured with
  | true => exact h
  | false => exact .string false (oneRow_scalarText h)

/-- The view of a value can be read back, without colours if its keys are legible. -/
theorem fits_view (hv : v.IsHeld) (hkeys : isColoured = false → v.AllKeys Legible) :
    (view isColoured v).Fits isColoured := by
  induction hv with
  | null =>
    rw [view]
    exact .inline (isInline_bare .null)
  | bool value =>
    rw [view]
    exact .inline (isInline_bare (.bool value))
  | number held =>
    rw [view]
    exact .inline (isInline_bare (.number held))
  | string s =>
    rw [view]
    split
    · next h =>
      exact .block (Text.lines_ne_nil (hasLineFeed_iff.1 h)) fun _ => Text.oneRow_of_mem_lines
    · next h => exact .inline (.string _ fun hmem => h (hasLineFeed_iff.2 hmem))
  | @array items held ih =>
    cases items with
    | nil =>
      rw [view]
      exact .inline (isInline_bare .array)
    | cons v rest =>
      rw [view]
      refine .items (List.cons_ne_nil _ _) fun u hu => ?_
      obtain ⟨w, hw, rfl⟩ := mem_itemViews hu
      exact ih w hw fun hc => Json.allKeys_array.1 (hkeys hc) w hw
  | @object members held ih =>
    cases members with
    | nil =>
      rw [view]
      exact .inline (isInline_bare .object)
    | cons m rest =>
      rw [view]
      refine .members (List.cons_ne_nil _ _) (fun u hu hc => ?_) fun u hu => ?_
      · obtain ⟨m', hm', rfl⟩ := mem_memberViews hu
        exact (Json.allKeys_object.1 (hkeys hc) m' hm').1
      · obtain ⟨m', hm', rfl⟩ := mem_memberViews hu
        exact ih m' hm' fun hc => (Json.allKeys_object.1 (hkeys hc) m' hm').2

/-! ## Whole outlines -/

/-- The value can be read back from its outline: a program can hold its numbers, and without colours
its keys are legible. -/
structure Readable (isColoured : Bool) (v : Json) : Prop where
  held : v.IsHeld
  keys : isColoured = false → v.AllKeys Legible

/-- What can be read shows something that is read back. -/
theorem Readable.fits (h : Readable isColoured v) : (view isColoured v).Fits isColoured :=
  fits_view h.held h.keys

/-- The order of members does not matter for what can be read. -/
theorem Readable.sorted (h : Readable isColoured v) : Readable isColoured v.sorted :=
  ⟨Json.isHeld_sorted h.held, fun hc => Json.allKeys_sorted v (h.keys hc)⟩

/-- A view has a text. -/
theorem text_ne_nil (isColoured : Bool) (depth : Nat) (u : View) :
    u.text isColoured depth ≠ [] := by
  cases u <;> simp [View.text]

/-- Two values take the same rows under a label if the same is written for their views. -/
theorem joinWith_entryLines_eq_iff (label : String) :
    Text.joinWith "\n" (entryLines isColoured depth label v) =
        Text.joinWith "\n" (entryLines isColoured depth label w) ↔
      (view isColoured v).text isColoured depth = (view isColoured w).text isColoured depth := by
  have hne (v : Json) : entryLines isColoured depth label v ≠ [] := by
    intro h
    have htext := ended_entryLines isColoured depth label v
    rw [h] at htext
    exact text_ne_nil _ _ _ (List.append_eq_nil_iff.1 htext.symm).2
  rw [Text.joinWith_eq_iff (hne v) (hne w), ended_entryLines, ended_entryLines,
    List.append_cancel_left_eq]

/-- What is written under a label determines what can be read back. -/
theorem text_eq_iff (hv : Readable isColoured v) (hw : Readable isColoured w) :
    (view isColoured v).text isColoured depth = (view isColoured w).text isColoured depth ↔
      view isColoured v = view isColoured w := by
  refine ⟨fun h => ?_, fun h => by rw [h]⟩
  exact (View.determines hv.fits depth _ hw.fits [] [] Ends.of_nil Ends.of_nil (by rw [h])).1

/-- The outlines of two objects are the same exactly if their members have the same text. -/
theorem outline_object_iff {members members' : List (String × Json)}
    (hv : v.sorted = .object members) (hw : w.sorted = .object members') (hne : members ≠ [])
    (hne' : members' ≠ []) :
    outline isColoured v = outline isColoured w ↔
      membersText isColoured 0 (memberViews isColoured members) =
        membersText isColoured 0 (memberViews isColoured members') := by
  have htext {members : List (String × Json)} (hne : members ≠ []) :
      memberLines isColoured 0 members ≠ [] ∧
        outlineOf isColoured (.object members) =
          Text.joinWith "\n" (memberLines isColoured 0 members) := by
    obtain ⟨⟨key, v⟩, rest, rfl⟩ := List.exists_cons_of_ne_nil hne
    refine ⟨fun h => ?_, by rw [outlineOf]⟩
    have hended := ended_memberLines isColoured 0 ((key, v) :: rest)
    rw [h, memberViews, membersText] at hended
    simp [ended] at hended
  rw [outline, outline, hv, hw, (htext hne).2, (htext hne').2,
    Text.joinWith_eq_iff (htext hne).1 (htext hne').1, ended_memberLines, ended_memberLines]

/-- Readable members have the same text exactly if they show the same. -/
theorem members_eq_iff {members members' : List (String × Json)}
    (h : Readable isColoured (.object members)) (h' : Readable isColoured (.object members')) :
    membersText isColoured depth (memberViews isColoured members) =
        membersText isColoured depth (memberViews isColoured members') ↔
      memberViews isColoured members = memberViews isColoured members' := by
  have hfits {members : List (String × Json)} (h : Readable isColoured (.object members)) :
      ∀ m ∈ memberViews isColoured members, MemberFits isColoured m := by
    intro u hu
    obtain ⟨m, hm, rfl⟩ := mem_memberViews hu
    exact ⟨fun hc => (Json.allKeys_object.1 (h.keys hc) m hm).1,
      fits_view (Json.isHeld_object.1 h.held m hm) fun hc =>
        (Json.allKeys_object.1 (h.keys hc) m hm).2⟩
  refine ⟨fun htext => ?_, fun hviews => by rw [hviews]⟩
  exact (members_append_inj
    (fun m hm => ⟨hfits h m hm, View.determines (hfits h m hm).2 depth⟩) (hfits h')
    Ends.of_nil Ends.of_nil (by rw [htext])).1

/-- Readable items have the same text exactly if they show the same. -/
theorem items_eq_iff {items items' : List Json} (h : Readable isColoured (.array items))
    (h' : Readable isColoured (.array items')) :
    itemsText isColoured depth (itemViews isColoured items) =
        itemsText isColoured depth (itemViews isColoured items') ↔
      itemViews isColoured items = itemViews isColoured items' := by
  have hfits {items : List Json} (h : Readable isColoured (.array items)) :
      ∀ u ∈ itemViews isColoured items, u.Fits isColoured := by
    intro u hu
    obtain ⟨v, hv, rfl⟩ := mem_itemViews hu
    exact fits_view (Json.isHeld_array.1 h.held v hv) fun hc =>
      Json.allKeys_array.1 (h.keys hc) v hv
  refine ⟨fun htext => ?_, fun hviews => by rw [hviews]⟩
  exact (items_append_inj (fun u hu => ⟨hfits h u hu, View.determines (hfits h u hu) depth⟩)
    (hfits h') Ends.of_nil Ends.of_nil (by rw [htext])).1

/-- Two arrays have the same outline if their items show the same. -/
theorem outline_array_iff {items items' : List Json} (hv : v.sorted = .array items)
    (hw : w.sorted = .array items') (h : Readable isColoured (.array items))
    (h' : Readable isColoured (.array items')) :
    outline isColoured v = outline isColoured w ↔
      itemViews isColoured items = itemViews isColoured items' := by
  have htext (v : Json) (rest : List Json) :
      (outlineOf isColoured (.array (v :: rest))).toList ++ ['\n'] =
        itemsText isColoured 0 (itemViews isColoured (v :: rest)) := by
    have hended := ended_itemLines isColoured 0 (v :: rest)
    have hne : itemLines isColoured 0 (v :: rest) ≠ [] := by
      intro hnil
      rw [hnil, itemViews, itemsText] at hended
      simp [ended] at hended
    rw [outlineOf, Text.toList_joinWith_append hne, hended]
  -- The outline of an array with nothing in it is no item.
  have hempty (v : Json) (rest : List Json) :
      outlineOf isColoured (.array []) ≠ outlineOf isColoured (.array (v :: rest)) := by
    intro hsame
    have hbrackets : (outlineOf isColoured (.array [])).toList = ['[', ']'] := by simp [outlineOf]
    have hindent : (indent 0).toList = [] := rfl
    have hchars := htext v rest
    rw [← hsame, hbrackets, itemViews, itemsText, hindent] at hchars
    simp at hchars
  rw [outline, outline, hv, hw]
  cases items with
  | nil =>
    cases items' with
    | nil => exact ⟨fun _ => rfl, fun _ => rfl⟩
    | cons v' rest' => simp [hempty v' rest', itemViews]
  | cons v rest =>
    cases items' with
    | nil => simp [(hempty v rest).symm, itemViews]
    | cons v' rest' =>
      rw [← items_eq_iff h h', ← htext v rest, ← htext v' rest', List.append_cancel_right_eq,
        String.toList_inj]

end

end ModuleBridge.Report
