import ModuleBridge.Proofs.Json.Texts
import ModuleBridge.Proofs.Report.Outline
import ModuleBridge.Proofs.Report.Paint

/-!
# What an outline shows

The view of a value is what an outline shows of it. A string with line feeds is shown by its lines,
without the ends of the lines. With colours everything else is shown in full; without colours a
value without brackets is shown by its text alone, so that a number shows like the string of its
digits, and an empty array or object like the string of its brackets. What is written under a label
is a function of the view (`ended_entryLines`). A value behind a label is determined by what stands
there (`inline_append_inj`), and a key by what stands up to its colon (`key_append_inj`): with
colours because it is painted, without them if nothing in it looks like an outline (`Legible`).
-/

namespace ModuleBridge.Report

open Text (OneRow ended append_cons_inj)

/-! ## Views -/

/-- What an outline shows of a value. -/
inductive View
  /-- A value behind its label. -/
  | inline (v : Json)
  /-- The lines of a string, each on a row of its own. -/
  | block (lines : List String)
  | items (views : List View)
  | members (views : List (String × View))

/-- A value behind its label: as it is with colours, by its text without. -/
def bare (isColoured : Bool) (v : Json) : Json :=
  if isColoured then v else .string (scalarText false v)

mutual

/-- The view of a value. -/
def view (isColoured : Bool) : Json → View
  | .object [] => .inline (bare isColoured (.object []))
  | .array [] => .inline (bare isColoured (.array []))
  | .object (m :: ms) => .members (memberViews isColoured (m :: ms))
  | .array (v :: vs) => .items (itemViews isColoured (v :: vs))
  | .string s => if hasLineFeed s then .block (Text.lines s) else .inline (.string s)
  | .null => .inline (bare isColoured .null)
  | .bool b => .inline (bare isColoured (.bool b))
  | .number n => .inline (bare isColoured (.number n))

/-- The views of items. -/
def itemViews (isColoured : Bool) : List Json → List View
  | [] => []
  | v :: rest => view isColoured v :: itemViews isColoured rest

/-- The views of members, under their keys. -/
def memberViews (isColoured : Bool) : List (String × Json) → List (String × View)
  | [] => []
  | (key, v) :: rest => (key, view isColoured v) :: memberViews isColoured rest

end

/-- What is written for a line of a string. -/
def rowText (isColoured : Bool) (depth : Nat) (line : String) : List Char :=
  (indent depth).toList ++ ((paint isColoured .string line).toList ++ ['\n'])

mutual

/-- What is written behind a label and under it. -/
def View.text (isColoured : Bool) (depth : Nat) : View → List Char
  | .inline v => ' ' :: ((scalarText isColoured v).toList ++ ['\n'])
  | .block lines => ' ' :: '|' :: '\n' :: lines.flatMap (rowText isColoured (depth + 1))
  | .items views => '\n' :: itemsText isColoured (depth + 1) views
  | .members views => '\n' :: membersText isColoured (depth + 1) views

/-- What is written for items. -/
def itemsText (isColoured : Bool) (depth : Nat) : List View → List Char
  | [] => []
  | v :: rest =>
    (indent depth).toList ++ ('-' :: v.text isColoured depth) ++ itemsText isColoured depth rest

/-- What is written for members. -/
def membersText (isColoured : Bool) (depth : Nat) : List (String × View) → List Char
  | [] => []
  | (key, v) :: rest =>
    (indent depth).toList ++
      ((paint isColoured .key key).toList ++ ':' :: v.text isColoured depth) ++
      membersText isColoured depth rest

end

/-- What is written for an item. -/
def itemText (isColoured : Bool) (depth : Nat) (v : View) : List Char :=
  (indent depth).toList ++ ('-' :: v.text isColoured depth)

/-- What is written for a member. -/
def memberText (isColoured : Bool) (depth : Nat) (m : String × View) : List Char :=
  (indent depth).toList ++ ((paint isColoured .key m.1).toList ++ ':' :: m.2.text isColoured depth)

/-- The key can be told from what stands around it, without colours too: it takes one row, a blank
behind a colon is never its own, and it begins neither like what is deeper nor like an item. -/
structure Legible (key : String) : Prop where
  row : OneRow key
  colons : key.toList.IsChain fun c d => ¬ (c = ':' ∧ d = ' ')
  blanks : ¬ [' ', ' '] <+: key.toList
  dash : ¬ ['-', ' '] <+: key.toList

instance (key : String) : Decidable (Legible key) :=
  decidable_of_iff (OneRow key ∧ (key.toList.IsChain fun c d => ¬ (c = ':' ∧ d = ' ')) ∧
      ¬ [' ', ' '] <+: key.toList ∧ ¬ ['-', ' '] <+: key.toList)
    ⟨fun ⟨row, colons, blanks, dash⟩ => ⟨row, colons, blanks, dash⟩,
      fun h => ⟨h.row, h.colons, h.blanks, h.dash⟩⟩

/-- The values that stand behind a label. -/
inductive IsInline : Bool → Json → Prop
  | string (isColoured : Bool) {s : String} (row : OneRow s) : IsInline isColoured (.string s)
  | null : IsInline true .null
  | bool (value : Bool) : IsInline true (.bool value)
  | number {n : JsonNumber} (held : n.IsHeld) : IsInline true (.number n)
  | array : IsInline true (.array [])
  | object : IsInline true (.object [])

section
variable {isColoured : Bool} {depth : Nat} {v w : Json} {key key' : String}
  {rest rest' : List Char}

/-! ## What is written is a function of the view -/

/-- The text of a scalar is that of what is shown of it. -/
theorem scalarText_bare (isColoured : Bool) (v : Json) :
    scalarText isColoured (bare isColoured v) = scalarText isColoured v := by
  cases isColoured <;> rfl

/-- The text of items is that of one after the other. -/
theorem itemsText_eq (isColoured : Bool) (depth : Nat) (views : List View) :
    itemsText isColoured depth views = views.flatMap (itemText isColoured depth) := by
  induction views with
  | nil => rw [itemsText]; rfl
  | cons v rest ih => rw [itemsText, ih]; rfl

/-- The text of members is that of one after the other. -/
theorem membersText_eq (isColoured : Bool) (depth : Nat) (views : List (String × View)) :
    membersText isColoured depth views = views.flatMap (memberText isColoured depth) := by
  induction views with
  | nil => rw [membersText]; rfl
  | cons m rest ih => rw [membersText, ih]; rfl

/-- The lines of a block as rows. -/
theorem ended_rows (isColoured : Bool) (depth : Nat) (lines : List String) :
    ended (lines.map fun line => indent depth ++ paint isColoured .string line) =
      lines.flatMap (rowText isColoured depth) := by
  rw [ended, List.flatMap_map]
  congr 1
  funext line
  rw [rowText, String.toList_append, List.append_assoc]

theorem scalarText_array (isColoured : Bool) : scalarText isColoured (.array []) = "[]" := rfl

theorem scalarText_object (isColoured : Bool) : scalarText isColoured (.object []) = "\x7b\x7d" :=
  rfl

/-- The line of a label with a scalar behind it. -/
theorem ended_inline (label : String) (v : Json) :
    ended [label ++ " " ++ scalarText isColoured v] =
      label.toList ++ (View.inline v).text isColoured depth := by
  rw [View.text]
  simp [ended]

/-- A scalar has the text of what is shown of it. -/
theorem text_bare (isColoured : Bool) (depth : Nat) (v : Json) :
    (View.inline (bare isColoured v)).text isColoured depth =
      (View.inline v).text isColoured depth := by
  rw [View.text, scalarText_bare, View.text]

mutual

/-- What is written under a label is a function of the view. -/
theorem ended_entryLines (isColoured : Bool) (depth : Nat) (label : String) : (v : Json) →
    ended (entryLines isColoured depth label v) =
      label.toList ++ (view isColoured v).text isColoured depth
  | .null | .bool _ | .number _ => by
    rw [entryLines, view, text_bare]
    exact ended_inline label _
  | .string s => by
    rw [entryLines, view]
    split
    · rw [Text.ended_cons, ended_rows, View.text]
      simp
    · exact ended_inline label _
  | .array [] => by
    rw [entryLines, view, text_bare, View.text, scalarText_array]
    simp [ended]
  | .object [] => by
    rw [entryLines, view, text_bare, View.text, scalarText_object]
    simp [ended]
  | .array (v :: vs) => by
    rw [entryLines, view, Text.ended_cons, ended_itemLines, View.text]
  | .object (m :: ms) => by
    rw [entryLines, view, Text.ended_cons, ended_memberLines, View.text]

/-- The lines of items are the text of their views. -/
theorem ended_itemLines (isColoured : Bool) (depth : Nat) : (items : List Json) →
    ended (itemLines isColoured depth items) =
      itemsText isColoured depth (itemViews isColoured items)
  | [] => rfl
  | v :: rest => by
    rw [itemLines, Text.ended_append, ended_entryLines, ended_itemLines, itemViews, itemsText]
    simp

/-- The lines of members are the text of their views. -/
theorem ended_memberLines (isColoured : Bool) (depth : Nat) : (members : List (String × Json)) →
    ended (memberLines isColoured depth members) =
      membersText isColoured depth (memberViews isColoured members)
  | [] => rfl
  | (key, v) :: rest => by
    rw [memberLines, Text.ended_append, ended_entryLines, ended_memberLines, memberViews,
      membersText]
    simp

end

/-! ## Values behind a label -/

/-- The style of a value behind a label, if it has one. -/
def styleOf : Json → Option Style
  | .null => some .null
  | .bool _ => some .bool
  | .number _ => some .number
  | .string _ => some .string
  | _ => none

/-- A coloured scalar is painted in the style of its kind, or it begins with no colour. -/
theorem scalarText_style (h : IsInline true v) :
    (∃ style text, styleOf v = some style ∧ scalarText true v = paint true style text) ∨
      styleOf v = none ∧ (scalarText true v).toList.head? ≠ some '\x1b' := by
  cases h with
  | array => exact .inr ⟨rfl, by rw [scalarText_array]; decide⟩
  | object => exact .inr ⟨rfl, by rw [scalarText_object]; decide⟩
  | _ => exact .inl ⟨_, _, rfl, rfl⟩

/-- With colours the style of a value can be seen. -/
theorem styleOf_eq (hv : IsInline true v) (hw : IsInline true w)
    (h : scalarText true v = scalarText true w) : styleOf v = styleOf w := by
  have hpaint (style : Style) (text : String) :
      (paint true style text).toList.head? = some '\x1b' := by
    rw [toList_paint]
    rfl
  rcases scalarText_style hv with ⟨style, text, hs, ht⟩ | ⟨hs, ht⟩ <;>
    rcases scalarText_style hw with ⟨style', text', hs', ht'⟩ | ⟨hs', ht'⟩
  · rw [ht, ht'] at h
    rw [hs, hs', style_eq_of_paint h]
  · rw [← h, ht] at ht'
    exact absurd (hpaint style text) ht'
  · rw [h, ht'] at ht
    exact absurd (hpaint style' text') ht
  · rw [hs, hs']

/-- What stands behind a label determines the value. -/
theorem scalarText_inj (hv : IsInline isColoured v) (hw : IsInline isColoured w)
    (h : scalarText isColoured v = scalarText isColoured w) : v = w := by
  cases isColoured with
  | false =>
    cases hv with
    | string =>
      cases hw with
      | string => exact congrArg Json.string h
  | true =>
    have hstyle := styleOf_eq hv hw h
    cases hv with
    | string =>
      cases hw with
      | string => exact congrArg Json.string (paint_inj h)
      | _ => simp [styleOf] at hstyle
    | null =>
      cases hw with
      | null => rfl
      | _ => simp [styleOf] at hstyle
    | bool value =>
      cases hw with
      | bool value' =>
        have htext := paint_inj h
        cases value <;> cases value' <;> first | rfl | exact absurd htext (by decide)
      | _ => simp [styleOf] at hstyle
    | number held =>
      cases hw with
      | number held' =>
        have htext := String.ofList_injective (paint_inj h)
        rw [JsonNumber.render_inj held held' htext]
      | _ => simp [styleOf] at hstyle
    | array =>
      cases hw with
      | array => rfl
      | object => exact absurd h (by rw [scalarText_array, scalarText_object]; decide)
      | _ => simp [styleOf] at hstyle
    | object =>
      cases hw with
      | object => rfl
      | array => exact absurd h (by rw [scalarText_array, scalarText_object]; decide)
      | _ => simp [styleOf] at hstyle

/-- A scalar that stands behind its label is on one row. -/
theorem oneRow_scalarText {isColoured' : Bool} (h : IsInline isColoured v) :
    OneRow (scalarText isColoured' v) := by
  cases h with
  | string _ row => exact oneRow_paint _ _ row
  | null => exact oneRow_paint _ _ (by decide)
  | bool value => exact oneRow_paint _ _ (by cases value <;> decide)
  | number => exact oneRow_paint _ _ (oneRow_number _)
  | array => exact (by decide : OneRow "[]")
  | object => exact (by decide : OneRow "\x7b\x7d")

/-- A value behind a label ends where its row does. -/
theorem inline_append_inj (hv : IsInline isColoured v) (hw : IsInline isColoured w)
    (h : (scalarText isColoured v).toList ++ '\n' :: rest =
      (scalarText isColoured w).toList ++ '\n' :: rest') : v = w ∧ rest = rest' := by
  obtain ⟨htext, hrest⟩ := append_cons_inj (oneRow_scalarText hv) (oneRow_scalarText hw) h
  exact ⟨scalarText_inj hv hw (String.toList_inj.1 htext), hrest⟩

/-! ## Keys -/

/-- Behind a label stands a blank or the end of its row. -/
theorem exists_text_start (isColoured : Bool) (depth : Nat) (u : View) :
    ∃ c cs, u.text isColoured depth = c :: cs ∧ (c = ' ' ∨ c = '\n') := by
  cases u with
  | inline | block => exact ⟨_, _, by rw [View.text], .inl rfl⟩
  | items | members => exact ⟨_, _, by rw [View.text], .inr rfl⟩

/-- A colon in the key is not its last one, as no blank and no end of a row follows it there. -/
theorem Legible.eq_nil {front more : List Char} {c : Char} (hkey : Legible key)
    (hchars : key.toList = front ++ more) (hc : c = ' ' ∨ c = '\n')
    (h : ':' :: c :: rest = more ++ ':' :: rest') : more = [] := by
  match more, h with
  | [], _ => rfl
  | [_], h =>
    have hcolon : c = ':' := (List.cons.inj (List.cons.inj h).2).1
    exact absurd hcolon (by rcases hc with rfl | rfl <;> decide)
  | d :: e :: more, h =>
    obtain ⟨rfl, hothers⟩ := List.cons.inj h
    obtain ⟨rfl, -⟩ := List.cons.inj hothers
    rcases hc with rfl | rfl
    · have hcolons := hkey.colons
      rw [hchars, List.isChain_append, List.isChain_cons_cons] at hcolons
      exact absurd ⟨rfl, rfl⟩ hcolons.2.1.1
    · exact absurd (by simp [hchars]) hkey.row

/-- A key ends where its colon stands. -/
theorem key_append_inj {u u' : View} (hkey : isColoured = false → Legible key)
    (hkey' : isColoured = false → Legible key')
    (h : (paint isColoured .key key).toList ++ ':' :: (u.text isColoured depth ++ rest) =
      (paint isColoured .key key').toList ++ ':' :: (u'.text isColoured depth ++ rest')) :
    key = key' ∧ u.text isColoured depth ++ rest = u'.text isColoured depth ++ rest' := by
  cases isColoured with
  | true =>
    obtain ⟨hsame, hrest⟩ := paint_append_inj (by simp [EndsPaint]) (by simp [EndsPaint]) h
    exact ⟨hsame, (List.cons.inj hrest).2⟩
  | false =>
    obtain ⟨c, cs, hcs, hc⟩ := exists_text_start false depth u
    obtain ⟨d, ds, hds, hd⟩ := exists_text_start false depth u'
    rw [hcs, hds, paint, paint, if_neg (by decide), if_neg (by decide)] at h
    rw [hcs, hds]
    rcases List.append_eq_append_iff.1 h with ⟨more, hmore, hrest⟩ | ⟨more, hmore, hrest⟩
    · obtain rfl := (hkey' rfl).eq_nil hmore hc hrest
      rw [List.append_nil] at hmore
      exact ⟨(String.toList_inj.1 hmore).symm, (List.cons.inj hrest).2⟩
    · obtain rfl := (hkey rfl).eq_nil hmore hd hrest
      rw [List.append_nil] at hmore
      exact ⟨String.toList_inj.1 hmore, (List.cons.inj hrest).2.symm⟩

/-- Two characters that begin a key with its colon, and are no colon, begin the key. -/
theorem pair_prefix_of_colon {c d : Char} {cs : List Char} (hc : c ≠ ':') (hd : d ≠ ':')
    (h : [c, d] <+: cs ++ ':' :: rest) : [c, d] <+: cs := by
  match cs, h with
  | [], h => exact absurd (List.cons_prefix_cons.1 h).1 hc
  | [_], h =>
    exact absurd (List.cons_prefix_cons.1 (List.cons_prefix_cons.1 h).2).1 hd
  | e :: e' :: cs, h =>
    obtain ⟨rfl, hothers⟩ := List.cons_prefix_cons.1 h
    obtain ⟨rfl, -⟩ := List.cons_prefix_cons.1 hothers
    exact List.prefix_append [c, d] cs

/-- A member begins neither like what is deeper nor like an item. -/
theorem not_prefix_key (isColoured : Bool) (hkey : isColoured = false → Legible key)
    (rest : List Char) :
    ¬ [' ', ' '] <+: (paint isColoured .key key).toList ++ ':' :: rest ∧
      ∀ c, c = ' ' ∨ c = '\n' →
        ¬ ['-', c] <+: (paint isColoured .key key).toList ++ ':' :: rest := by
  cases isColoured with
  | true =>
    have hfirst {c d : Char} (hc : c ≠ '\x1b') :
        ¬ [c, d] <+: (paint true .key key).toList ++ ':' :: rest := by
      rw [toList_paint]
      exact fun h => hc (List.cons_prefix_cons.1 h).1
    exact ⟨hfirst (by decide), fun c _ => hfirst (by decide)⟩
  | false =>
    have hlegible := hkey rfl
    rw [paint, if_neg (by decide)]
    refine ⟨fun h => ?_, fun c hc h => ?_⟩
    · exact hlegible.blanks (pair_prefix_of_colon (by decide) (by decide) h)
    · rcases hc with rfl | rfl
      · exact hlegible.dash (pair_prefix_of_colon (by decide) (by decide) h)
      · have hbegins := pair_prefix_of_colon (by decide) (by decide) h
        exact hlegible.row (hbegins.subset (by simp))

end

end ModuleBridge.Report
