import ModuleBridge.Proofs.Decimal.Text
import ModuleBridge.Proofs.Json.Keys
import ModuleBridge.Proofs.Json.Values
import ModuleBridge.Proofs.Text.Lines

/-!
# The text of a value determines it

The first character of a text tells what kind of value it is of (`exists_lead`). A string ends at
its own quote, an array or object at its own bracket and a number where no character of numbers
follows, so two texts in one layout that go on differently are still texts of the same value
(`determines_renderIn`, by induction on the value). The members of an object may be in any order
here.
-/

namespace ModuleBridge.Json

open Decimal (inNumber)
open Text (Determines)

/-- The values whose numbers are ones that a program can hold. -/
inductive IsHeld : Json → Prop
  | null : IsHeld .null
  | bool (value : Bool) : IsHeld (.bool value)
  | number {n : JsonNumber} (held : n.IsHeld) : IsHeld (.number n)
  | string (s : String) : IsHeld (.string s)
  | array {items : List Json} (held : ∀ v ∈ items, IsHeld v) : IsHeld (.array items)
  | object {members : List (String × Json)} (held : ∀ m ∈ members, IsHeld m.2) :
    IsHeld (.object members)

/-- What follows does not go on with a number. -/
def EndsNumber (rest : List Char) : Prop :=
  ∀ c ∈ rest.head?, inNumber c = false

/-- What the layout puts in front of items and closing brackets begins with a line feed, if there is
anything. -/
structure Layout.IsRows (layout : Layout) : Prop where
  beforeItem : ∀ depth, ∀ c ∈ (layout.beforeItem depth).head?, c = '\n'
  beforeEnd : ∀ depth, ∀ c ∈ (layout.beforeEnd depth).head?, c = '\n'

/-- What a text that begins with the character is a text of: any number is told by a zero and either
truth value by one letter. -/
def kind (c : Char) : Char :=
  if inNumber c then '0' else if c = 'f' then 't' else c

/-- What kind of value it is. -/
def lead : Json → Char
  | .null => 'n'
  | .bool _ => 't'
  | .number _ => '0'
  | .string _ => '"'
  | .array _ => '['
  | .object _ => '\x7b'

section
variable {layout : Layout} {depth : Nat} {v : Json} {s t : String} {rest rest' : List Char}

theorem Layout.isRows_compact : Layout.compact.IsRows :=
  ⟨fun _ => nofun, fun _ => nofun⟩

theorem Layout.isRows_indented : Layout.indented.IsRows :=
  ⟨fun _ _ h => (Option.some.inj h).symm, fun _ _ h => (Option.some.inj h).symm⟩

@[simp] theorem isHeld_array {items : List Json} :
    IsHeld (.array items) ↔ ∀ v ∈ items, v.IsHeld :=
  ⟨fun | .array held => held, .array⟩

@[simp] theorem isHeld_object {members : List (String × Json)} :
    IsHeld (.object members) ↔ ∀ m ∈ members, m.2.IsHeld :=
  ⟨fun | .object held => held, .object⟩

/-! ## Strings and numbers -/

/-- A string ends at its own quote. -/
theorem renderString_append_inj (h : renderString s ++ rest = renderString t ++ rest') :
    s = t ∧ rest = rest' := by
  have hread (s : String) (rest : List Char) :
      Reader.string (Text.Utf8.encode (renderString s ++ rest)).tail =
        .ok (s, Text.Utf8.encode rest) := by
    rw [Text.Utf8.encode_append, Reader.encode_renderString, List.cons_append, List.tail_cons,
      List.append_assoc]
    exact Reader.string_escaped s (Text.Utf8.encode rest)
  have hboth := (hread s rest).symm.trans (h ▸ hread t rest')
  obtain ⟨rfl, hbytes⟩ := Prod.mk.inj (Except.ok.inj hboth)
  have hrest := congrArg Text.Utf8.decode? hbytes
  rw [Text.Utf8.decode?_encode, Text.Utf8.decode?_encode] at hrest
  exact ⟨rfl, Option.some.inj hrest⟩

/-- A number has a text. -/
theorem render_ne_nil {n : JsonNumber} (hn : n.IsHeld) : n.render ≠ [] := by
  cases n with
  | integer k =>
    have hdigits : Decimal.natDigits k.natAbs ≠ [] :=
      List.ne_nil_of_length_pos Nat.length_toDigits_pos
    exact List.append_ne_nil_of_right_ne_nil _ hdigits
  | real x =>
    rcases Decimal.Binary64.exists_mark hn with h | h
    · exact List.ne_nil_of_mem h
    · exact List.ne_nil_of_mem h

/-- A number ends where no character of numbers follows. -/
theorem number_append_inj {n n' : JsonNumber} (hn : n.IsHeld) (hn' : n'.IsHeld)
    (hrest : EndsNumber rest) (hrest' : EndsNumber rest')
    (h : n.render ++ rest = n'.render ++ rest') : n = n' ∧ rest = rest' := by
  have htake {n : JsonNumber} {rest : List Char} (hrest : EndsNumber rest) :
      (n.render ++ rest).takeWhile inNumber = n.render := by
    rw [List.takeWhile_append_of_pos fun c hc => JsonNumber.inNumber_of_mem_render hc]
    cases rest with
    | nil => rw [List.takeWhile_nil, List.append_nil]
    | cons c rest =>
      rw [List.takeWhile_cons_of_neg (by rw [hrest c rfl]; decide), List.append_nil]
  have hsame : n.render = n'.render := by
    rw [← htake hrest, h, htake hrest']
  obtain rfl := JsonNumber.render_inj hn hn' hsame
  exact ⟨rfl, List.append_cancel_left h⟩

/-! ## Lists -/

/-- Texts with commas between them end where another mark follows. -/
theorem separated_append_inj {α : Type} {text : α → List Char} {good : α → Prop}
    (before : List Char) {x y : α} {xs ys : List α} {mark : Char}
    (hx : ∀ z ∈ x :: xs, Determines text good EndsNumber z) (hy : ∀ z ∈ y :: ys, good z)
    (hcomma : mark ≠ ',') (hmark : inNumber mark = false)
    (h : separated [','] ((x :: xs).map (before ++ text ·)) ++ mark :: rest =
      separated [','] ((y :: ys).map (before ++ text ·)) ++ mark :: rest') :
    x :: xs = y :: ys ∧ rest = rest' := by
  have hends {rest : List Char} : EndsNumber (mark :: rest) := fun c hc => by
    cases hc
    exact hmark
  have hgoes {rest : List Char} : EndsNumber (',' :: rest) := fun c hc => by
    cases hc
    rfl
  induction xs generalizing x y ys with
  | nil =>
    cases ys with
    | nil =>
      simp only [List.map_cons, List.map_nil, separated, List.append_assoc,
        List.append_cancel_left_eq] at h
      obtain ⟨rfl, hrest⟩ := hx x (.head _) y (hy y (.head _)) _ _ hends hends h
      exact ⟨rfl, (List.cons.inj hrest).2⟩
    | cons y' ys =>
      simp only [List.map_cons, List.map_nil, separated_cons_cons, separated, List.append_assoc,
        List.append_cancel_left_eq] at h
      obtain ⟨-, hrest⟩ := hx x (.head _) y (hy y (.head _)) _ _ hends hgoes h
      exact absurd (List.cons.inj hrest).1 hcomma
  | cons x' xs ih =>
    cases ys with
    | nil =>
      simp only [List.map_cons, List.map_nil, separated_cons_cons, separated, List.append_assoc,
        List.append_cancel_left_eq] at h
      obtain ⟨-, hrest⟩ := hx x (.head _) y (hy y (.head _)) _ _ hgoes hends h
      exact absurd (List.cons.inj hrest).1.symm hcomma
    | cons y' ys =>
      simp only [List.map_cons, separated_cons_cons, List.append_assoc,
        List.append_cancel_left_eq] at h
      obtain ⟨rfl, hrest⟩ := hx x (.head _) y (hy y (.head _)) _ _ hgoes hgoes h
      obtain ⟨hothers, hrest⟩ := ih (fun z hz => hx z (.tail _ hz)) (fun z hz => hy z (.tail _ hz))
        (List.cons.inj hrest).2
      exact ⟨congrArg _ hothers, hrest⟩

/-! ## Brackets -/

/-- The text of a container that is not empty, with its first item apart. -/
theorem bracket_cons (layout : Layout) (depth : Nat) (opening closing : Char) (t : List Char)
    (ts : List (List Char)) :
    layout.bracket depth opening closing (t :: ts) =
      opening :: (separated [','] ((t :: ts).map (layout.beforeItem depth ++ ·)) ++
        (layout.beforeEnd depth ++ [closing])) := by
  rw [Layout.bracket, if_neg (by simp), List.cons_append, List.cons_append, List.append_assoc]

/-- Texts with separators begin with the first of them. -/
theorem exists_separated (separator t : List Char) (ts : List (List Char)) :
    ∃ more, separated separator (t :: ts) = t ++ more := by
  cases ts with
  | nil => exact ⟨[], (List.append_nil t).symm⟩
  | cons t' ts => exact ⟨_, separated_cons_cons separator t t' ts⟩

/-- Behind an opening bracket stands its closing one, or an item that does not begin with it. -/
theorem bracket_nil_ne {opening closing : Char} {t : List Char} {ts : List (List Char)}
    (hl : layout.IsRows) (ht : ∃ c cs, t = c :: cs ∧ c ≠ closing) (hclosing : closing ≠ '\n') :
    layout.bracket depth opening closing [] ++ rest ≠
      layout.bracket depth opening closing (t :: ts) ++ rest' := by
  obtain ⟨c, cs, rfl, hc⟩ := ht
  have hfirst : ∃ d ds, layout.beforeItem depth ++ c :: cs = d :: ds ∧ d ≠ closing := by
    cases hbefore : layout.beforeItem depth with
    | nil => exact ⟨c, cs, rfl, hc⟩
    | cons d ds =>
      obtain rfl := hl.beforeItem depth d (by rw [hbefore]; rfl)
      exact ⟨_, _, rfl, hclosing.symm⟩
  obtain ⟨d, ds, hd, hne⟩ := hfirst
  obtain ⟨more, hmore⟩ :=
    exists_separated [','] (layout.beforeItem depth ++ c :: cs)
      (ts.map (layout.beforeItem depth ++ ·))
  intro h
  rw [bracket_cons, List.map_cons, hmore, hd] at h
  exact hne (List.cons.inj (List.cons.inj h).2).1.symm

/-- What stands behind the last item goes on neither with a number nor with another item. -/
theorem exists_mark (hl : layout.IsRows) (depth : Nat) {closing : Char} (hcomma : closing ≠ ',')
    (hnumber : inNumber closing = false) :
    ∃ mark after, layout.beforeEnd depth ++ [closing] = mark :: after ∧ mark ≠ ',' ∧
      inNumber mark = false := by
  cases hend : layout.beforeEnd depth with
  | nil => exact ⟨closing, [], rfl, hcomma, hnumber⟩
  | cons c cs =>
    obtain rfl := hl.beforeEnd depth c (by rw [hend]; rfl)
    exact ⟨_, _, rfl, by decide, rfl⟩

/-- What stands between brackets ends at the closing one. -/
theorem bracket_append_inj {α : Type} {text : α → List Char} {good : α → Prop} {xs ys : List α}
    {opening closing : Char} (hl : layout.IsRows) (hxs : ∀ x ∈ xs, good x)
    (hys : ∀ y ∈ ys, good y) (hx : ∀ x ∈ xs, Determines text good EndsNumber x)
    (hstart : ∀ x, good x → ∃ c cs, text x = c :: cs ∧ c ≠ closing)
    (hclosing : closing = ']' ∨ closing = '\x7d')
    (h : layout.bracket depth opening closing (xs.map text) ++ rest =
      layout.bracket depth opening closing (ys.map text) ++ rest') : xs = ys ∧ rest = rest' := by
  have hmarks : closing ≠ '\n' ∧ closing ≠ ',' ∧ inNumber closing = false := by
    rcases hclosing with rfl | rfl <;> decide
  cases xs with
  | nil =>
    cases ys with
    | nil => exact ⟨rfl, List.append_cancel_left h⟩
    | cons y ys => exact absurd h (bracket_nil_ne hl (hstart y (hys y (.head _))) hmarks.1)
  | cons x xs =>
    cases ys with
    | nil => exact absurd h.symm (bracket_nil_ne hl (hstart x (hxs x (.head _))) hmarks.1)
    | cons y ys =>
      obtain ⟨mark, after, hafter, hcomma, hnumber⟩ := exists_mark hl depth hmarks.2.1 hmarks.2.2
      have hsplit (z : α) (zs : List α) (rest : List Char) :
          layout.bracket depth opening closing ((z :: zs).map text) ++ rest =
            opening :: (separated [','] ((z :: zs).map (layout.beforeItem depth ++ text ·)) ++
              mark :: (after ++ rest)) := by
        rw [List.map_cons, bracket_cons, hafter, ← List.map_cons, List.map_map, List.cons_append,
          List.append_assoc]
        rfl
      rw [hsplit, hsplit] at h
      obtain ⟨hall, hrest⟩ := separated_append_inj _ hx hys hcomma hnumber (List.cons.inj h).2
      exact ⟨hall, List.append_cancel_left hrest⟩

/-! ## Values -/

/-- The first character of a text tells the kind of the value. -/
theorem exists_lead (hv : v.IsHeld) (layout : Layout) (depth : Nat) :
    ∃ c cs, renderIn layout depth v = c :: cs ∧ kind c = lead v := by
  have hbracket (opening closing : Char) (texts : List (List Char)) :
      ∃ cs, layout.bracket depth opening closing texts = opening :: cs := by
    cases texts with
    | nil => exact ⟨_, rfl⟩
    | cons t ts => exact ⟨_, bracket_cons layout depth opening closing t ts⟩
  cases hv with
  | null => exact ⟨_, _, rfl, rfl⟩
  | bool value => cases value <;> exact ⟨_, _, rfl, rfl⟩
  | @number n hn =>
    obtain ⟨c, cs, hcs⟩ := List.exists_cons_of_ne_nil (render_ne_nil hn)
    have hc : inNumber c = true := JsonNumber.inNumber_of_mem_render (by rw [hcs]; exact .head _)
    exact ⟨c, cs, by rw [renderIn, hcs], if_pos hc⟩
  | string s => exact ⟨_, _, rfl, rfl⟩
  | array =>
    obtain ⟨cs, hcs⟩ := hbracket '[' ']' _
    exact ⟨_, cs, by rw [renderIn, hcs], rfl⟩
  | object =>
    obtain ⟨cs, hcs⟩ := hbracket '\x7b' '\x7d' _
    exact ⟨_, cs, by rw [renderIn, hcs], rfl⟩

/-- The text of a member of an object. -/
def memberText (layout : Layout) (depth : Nat) (m : String × Json) : List Char :=
  renderString m.1 ++ layout.afterKey ++ renderIn layout depth m.2

/-- A key ends at its own quote, so a member is determined if its value is. -/
theorem determines_member {m : String × Json}
    (hm : Determines (renderIn layout depth) IsHeld EndsNumber m.2) :
    Determines (memberText layout depth) (fun m => m.2.IsHeld) EndsNumber m := by
  intro m' hm' rest rest' hrest hrest' h
  obtain ⟨key, v⟩ := m
  obtain ⟨key', v'⟩ := m'
  simp only [memberText, List.append_assoc] at h
  obtain ⟨rfl, hvalue⟩ := renderString_append_inj h
  obtain ⟨rfl, htail⟩ := hm v' hm' rest rest' hrest hrest' (List.append_cancel_left hvalue)
  exact ⟨rfl, htail⟩

/-- Values whose texts begin alike are of the same kind. -/
theorem lead_eq (hv : v.IsHeld) {w : Json} (hw : w.IsHeld)
    (h : renderIn layout depth v ++ rest = renderIn layout depth w ++ rest') : lead v = lead w := by
  obtain ⟨c, cs, hcs, hc⟩ := exists_lead hv layout depth
  obtain ⟨d, ds, hds, hd⟩ := exists_lead hw layout depth
  rw [hcs, hds] at h
  rw [← hc, ← hd, (List.cons.inj h).1]

/-- No text begins with a closing bracket. -/
theorem exists_start (hv : v.IsHeld) (layout : Layout) (depth : Nat) :
    ∃ c cs, renderIn layout depth v = c :: cs ∧ c ≠ ']' := by
  obtain ⟨c, cs, hcs, hc⟩ := exists_lead hv layout depth
  refine ⟨c, cs, hcs, ?_⟩
  rintro rfl
  have hlead : ']' = lead v := hc
  cases hv <;> simp [lead] at hlead

/-- **The text of a value determines it**, whatever follows, if a number does not go on. -/
theorem determines_renderIn (hl : layout.IsRows) (hv : v.IsHeld) (depth : Nat) :
    Determines (renderIn layout depth) IsHeld EndsNumber v := by
  -- in each case the first character leaves only one kind for the other value
  induction hv generalizing depth with
  | null =>
    intro w hw rest rest' _ _ h
    have hlead := lead_eq .null hw h
    cases hw with
    | null => exact ⟨rfl, List.append_cancel_left h⟩
    | _ => simp [lead] at hlead
  | bool value =>
    intro w hw rest rest' _ _ h
    have hlead := lead_eq (.bool value) hw h
    cases hw with
    | bool value' =>
      cases value <;> cases value' <;> simp [renderIn] at h
      · exact ⟨rfl, h⟩
      · exact ⟨rfl, h⟩
    | _ => simp [lead] at hlead
  | number hn =>
    intro w hw rest rest' hrest hrest' h
    have hlead := lead_eq (.number hn) hw h
    cases hw with
    | number hn' =>
      simp only [renderIn] at h
      obtain ⟨rfl, htail⟩ := number_append_inj hn hn' hrest hrest' h
      exact ⟨rfl, htail⟩
    | _ => simp [lead] at hlead
  | string s =>
    intro w hw rest rest' _ _ h
    have hlead := lead_eq (.string s) hw h
    cases hw with
    | string t =>
      obtain ⟨rfl, htail⟩ := renderString_append_inj h
      exact ⟨rfl, htail⟩
    | _ => simp [lead] at hlead
  | array held ih =>
    intro w hw rest rest' _ _ h
    have hlead := lead_eq (.array held) hw h
    cases hw with
    | array held' =>
      simp only [renderIn, renderItems_eq] at h
      obtain ⟨rfl, htail⟩ := bracket_append_inj hl held held' (fun v hv => ih v hv (depth + 1))
        (fun v hv => exists_start hv layout (depth + 1)) (.inl rfl) h
      exact ⟨rfl, htail⟩
    | _ => simp [lead] at hlead
  | object held ih =>
    intro w hw rest rest' _ _ h
    have hlead := lead_eq (.object held) hw h
    cases hw with
    | object held' =>
      simp only [renderIn, renderMembers_eq] at h
      obtain ⟨rfl, htail⟩ := bracket_append_inj hl held held'
        (fun m hm => determines_member (ih m hm (depth + 1)))
        (fun m _ => ⟨'"', _, rfl, by decide⟩) (.inr rfl) h
      exact ⟨rfl, htail⟩
    | _ => simp [lead] at hlead

/-- Values with the same text are the same, on one line or indented. -/
theorem renderIn_inj (hl : layout.IsRows) (hv : v.IsHeld) {w : Json} (hw : w.IsHeld)
    (h : renderIn layout depth v = renderIn layout depth w) : v = w :=
  (determines_renderIn hl hv depth w hw [] [] nofun nofun (congrArg (· ++ []) h)).1

/-- Values with the same text on one line are the same. -/
theorem compact_inj (hv : v.IsHeld) {w : Json} (hw : w.IsHeld) (h : v.compact = w.compact) :
    v = w :=
  renderIn_inj Layout.isRows_compact hv hw (String.ofList_injective h)

/-- Values with the same indented text are the same. -/
theorem indented_inj (hv : v.IsHeld) {w : Json} (hw : w.IsHeld) (h : v.indented = w.indented) :
    v = w :=
  renderIn_inj Layout.isRows_indented hv hw (String.ofList_injective h)

/-! ## Held values in order -/

/-- Items are put in order one by one. -/
theorem sortedItems_eq (items : List Json) : sortedItems items = items.map sorted := by
  induction items with
  | nil => rw [sortedItems]; rfl
  | cons v rest ih => rw [sortedItems, ih]; rfl

/-- The members of an object in order are its members with their values in order. -/
theorem mem_sortedMembers {members done : List (String × Json)} {m : String × Json}
    (h : m ∈ sortedMembers members done) :
    (∃ m' ∈ members, m = (m'.1, m'.2.sorted)) ∨ m ∈ done := by
  induction members generalizing done with
  | nil =>
    rw [sortedMembers] at h
    exact .inr h
  | cons m' rest ih =>
    obtain ⟨key, v⟩ := m'
    rw [sortedMembers] at h
    rcases ih h with ⟨m', hm', rfl⟩ | h
    · exact .inl ⟨m', .tail _ hm', rfl⟩
    · rcases mem_insert h with rfl | h
      · exact .inl ⟨(key, v), .head _, rfl⟩
      · exact .inr h

/-- A value in the order of its keys has the same numbers. -/
theorem isHeld_sorted (hv : v.IsHeld) : v.sorted.IsHeld := by
  induction hv with
  | null => exact .null
  | bool value => exact .bool value
  | number held => exact .number held
  | string s => exact .string s
  | array held ih =>
    rw [sorted, sortedItems_eq]
    exact .array (List.forall_mem_map.2 ih)
  | object held ih =>
    rw [sorted]
    refine .object fun m hm => ?_
    rcases mem_sortedMembers hm with ⟨m', hm', rfl⟩ | hnone
    · exact ih m' hm'
    · cases hnone

end

end ModuleBridge.Json
