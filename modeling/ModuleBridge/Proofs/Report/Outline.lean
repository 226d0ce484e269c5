import ModuleBridge.Proofs.Decimal.Text
import ModuleBridge.Proofs.Json.Keys
import ModuleBridge.Proofs.Text.Lines
import ModuleBridge.Report.Outline

/-!
# The rows of an outline

An entry of a value is a member of an object or an item of an array in it, at any depth; `entries`
lists them, each in front of those inside it. Without colours each entry has a row for its label,
and a string of several lines has one more row for each line, deeper than the label (`Entry.rows`).
The outline has these rows in the order of the entries and no others (`rows_outline`), which is an
induction over the value (`entryLines_eq`): what is written under a label are the rows of the entry
and of all entries inside it. Only a key could break a row, since what else is written on one has no
line feed (`oneRow_heading`).
-/

namespace ModuleBridge.Report

open Text (OneRow oneRow_append_iff)

/-! ## Entries -/

/-- A member of an object or an item of an array. -/
structure Entry where
  /-- How many members and items it is inside of. -/
  depth : Nat
  /-- A key with a colon, or a dash for an item. -/
  label : String
  value : Json

mutual

/-- The entries of a value in pre-order, those at its top at the given depth. -/
def entries (depth : Nat) : Json → List Entry
  | .array items => itemEntries depth items
  | .object members => memberEntries depth members
  | _ => []

/-- The entries of items, each in front of those inside it. -/
def itemEntries (depth : Nat) : List Json → List Entry
  | [] => []
  | v :: rest => ⟨depth, "-", v⟩ :: (entries (depth + 1) v ++ itemEntries depth rest)

/-- The entries of members, each in front of those inside it. -/
def memberEntries (depth : Nat) : List (String × Json) → List Entry
  | [] => []
  | (key, v) :: rest =>
    ⟨depth, key ++ ":", v⟩ :: (entries (depth + 1) v ++ memberEntries depth rest)

end

namespace Entry

/-- What follows the label on its row. -/
def remark (e : Entry) : String :=
  match e.value with
  | .object [] => " \x7b\x7d"
  | .array [] => " []"
  | .object _ | .array _ => ""
  | .string s => if hasLineFeed s then " |" else " " ++ s
  | .null => " null"
  | .bool value => if value then " true" else " false"
  | .number n => " " ++ String.ofList n.render

/-- The row of the label. -/
def heading (e : Entry) : String :=
  indent e.depth ++ e.label ++ e.remark

/-- The rows of the lines of a string of several lines, one level deeper than its label. -/
def block (e : Entry) : List String :=
  match e.value with
  | .string s =>
    if hasLineFeed s then (Text.lines s).map (indent (e.depth + 1) ++ ·) else []
  | _ => []

/-- The rows of an entry, without those inside it. -/
def rows (e : Entry) : List String :=
  e.heading :: e.block

end Entry

/-- A value with brackets. -/
inductive IsContainer : Json → Prop
  | array (items : List Json) : IsContainer (.array items)
  | object (members : List (String × Json)) : IsContainer (.object members)

/-- The rows of the entries of a value, or the one row of a value with nothing in it. -/
def outlineRows : Json → List String
  | .object [] => ["\x7b\x7d"]
  | .array [] => ["[]"]
  | v => (entries 0 v.sorted).flatMap Entry.rows

/-- The row stands where an entry at the depth would stand: behind its spaces and no others. -/
def StandsAt (depth : Nat) (row : String) : Prop :=
  ∃ c cs, c ≠ ' ' ∧ row.toList = (indent depth).toList ++ c :: cs

section
variable {depth : Nat} {label key : String} {v : Json} {e : Entry} {row : String}
  {members : List (String × Json)} {items : List Json}

/-- A text has a line feed exactly if one is among its characters. -/
theorem hasLineFeed_iff {s : String} : hasLineFeed s = true ↔ '\n' ∈ s.toList := by
  rw [hasLineFeed, List.contains_eq_mem, decide_eq_true_eq]

/-! ## What is written under a label -/

mutual

/-- Under a label stand the rows of the entry and those of the entries inside it. -/
theorem entryLines_eq (depth : Nat) (label : String) : (v : Json) →
    entryLines false depth (indent depth ++ label) v =
      Entry.rows ⟨depth, label, v⟩ ++ (entries (depth + 1) v).flatMap Entry.rows
  | .null | .number _ | .bool true | .bool false => by
    simp [entryLines, entries, Entry.rows, Entry.heading, Entry.remark, Entry.block, scalarText,
      paint, String.append_assoc]
  | .string s => by
    by_cases h : hasLineFeed s <;>
      simp [entryLines, entries, Entry.rows, Entry.heading, Entry.remark, Entry.block, scalarText,
        paint, String.append_assoc, h]
  | .array [] | .object [] => by
    simp [entryLines, entries, itemEntries, memberEntries, Entry.rows, Entry.heading, Entry.remark,
      Entry.block]
  | .array (v :: vs) => by
    rw [entryLines, itemLines_eq]
    simp [Entry.rows, Entry.heading, Entry.remark, Entry.block, entries]
  | .object (m :: ms) => by
    rw [entryLines, memberLines_eq]
    simp [Entry.rows, Entry.heading, Entry.remark, Entry.block, entries]

/-- The lines of items are the rows of their entries. -/
theorem itemLines_eq (depth : Nat) : (items : List Json) →
    itemLines false depth items = (itemEntries depth items).flatMap Entry.rows
  | [] => rfl
  | v :: rest => by
    rw [itemLines, entryLines_eq, itemLines_eq, itemEntries, List.flatMap_cons, List.flatMap_append,
      List.append_assoc]

/-- The lines of members are the rows of their entries. -/
theorem memberLines_eq (depth : Nat) : (members : List (String × Json)) →
    memberLines false depth members = (memberEntries depth members).flatMap Entry.rows
  | [] => rfl
  | (key, v) :: rest => by
    have hlabel : indent depth ++ paint false .key key ++ ":" = indent depth ++ (key ++ ":") :=
      String.append_assoc
    rw [memberLines, hlabel, entryLines_eq, memberLines_eq, memberEntries, List.flatMap_cons,
      List.flatMap_append, List.append_assoc]

end

/-! ## Each row stands alone -/

/-- A text in front of a value, on one row. -/
def IsLabel (label : String) : Prop :=
  OneRow label ∧ label ≠ ""

theorem isLabel_dash : IsLabel "-" := ⟨by decide, by decide⟩

/-- A key on one row makes a label. -/
theorem isLabel_key (h : OneRow key) : IsLabel (key ++ ":") :=
  ⟨oneRow_append_iff.2 ⟨h, by decide⟩, by simp⟩

mutual

/-- If no key has a line feed, every label is a text without one. -/
theorem isLabel_of_mem_entries {depth : Nat} : {v : Json} → v.AllKeys OneRow →
    ∀ e ∈ entries depth v, IsLabel e.label
  | .null, _ | .bool _, _ | .number _, _ | .string _, _ => nofun
  | .array _, h => isLabel_of_mem_itemEntries h
  | .object _, h => isLabel_of_mem_memberEntries h

/-- All entries of items have labels, if the keys below them are on one row. -/
theorem isLabel_of_mem_itemEntries {depth : Nat} : {items : List Json} →
    Json.ItemsKeys OneRow items → ∀ e ∈ itemEntries depth items, IsLabel e.label
  | [], _ => nofun
  | v :: rest, h => by
    rw [itemEntries, List.forall_mem_cons, List.forall_mem_append]
    exact ⟨isLabel_dash, isLabel_of_mem_entries h.1, isLabel_of_mem_itemEntries h.2⟩

/-- All entries of members have labels, if their keys and those below are on one row. -/
theorem isLabel_of_mem_memberEntries {depth : Nat} : {members : List (String × Json)} →
    Json.MembersKeys OneRow members → ∀ e ∈ memberEntries depth members, IsLabel e.label
  | [], _ => nofun
  | (key, v) :: rest, h => by
    rw [memberEntries, List.forall_mem_cons, List.forall_mem_append]
    exact ⟨isLabel_key h.1, isLabel_of_mem_entries h.2.1, isLabel_of_mem_memberEntries h.2.2⟩

end

/-- Indentation stays on its row. -/
theorem oneRow_indent (depth : Nat) : OneRow (indent depth) := by
  rw [OneRow, indent, String.toList_ofList]
  exact fun h => absurd (List.eq_of_mem_replicate h) (by decide)

/-- A number stays on its row. -/
theorem oneRow_number (n : JsonNumber) : OneRow (String.ofList n.render) := by
  rw [OneRow, String.toList_ofList]
  intro h
  have hnumber := JsonNumber.inNumber_of_mem_render h
  revert hnumber
  decide

/-- A string with line feeds does not stand behind its label, and nothing else that does has any. -/
theorem oneRow_remark (e : Entry) : OneRow e.remark := by
  unfold Entry.remark
  split
  · decide
  · decide
  · decide
  · decide
  · next s _ =>
    split
    · decide
    · next h =>
      rw [oneRow_append_iff]
      exact ⟨by decide, fun hmem => h (hasLineFeed_iff.2 hmem)⟩
  · decide
  · split <;> decide
  · rw [oneRow_append_iff]
    exact ⟨by decide, oneRow_number _⟩

/-- The heading of an entry is one row that is not empty. -/
theorem heading_spec (h : IsLabel e.label) : OneRow e.heading ∧ e.heading ≠ "" := by
  have hindent := oneRow_append_iff.2 ⟨oneRow_indent e.depth, h.1⟩
  exact ⟨oneRow_append_iff.2 ⟨hindent, oneRow_remark e⟩, by simp [Entry.heading, h.2]⟩

/-- Indentation grows by two blanks for each level. -/
theorem indent_add (depth n : Nat) :
    (indent (depth + n)).toList = (indent depth).toList ++ List.replicate (2 * n) ' ' := by
  simp only [indent, String.toList_ofList]
  rw [Nat.mul_add, List.replicate_add]

/-- What stands deeper begins with a blank after the indentation. -/
theorem indent_succ (depth n : Nat) :
    ∃ cs, (indent (depth + n + 1)).toList = (indent depth).toList ++ ' ' :: cs :=
  ⟨List.replicate (2 * n + 1) ' ', indent_add depth (n + 1)⟩

/-- The rows of a block are its lines, indented once more than the entry. -/
theorem mem_block (h : row ∈ e.block) :
    ∃ line, OneRow line ∧ row = indent (e.depth + 1) ++ line := by
  unfold Entry.block at h
  split at h
  · split at h
    · obtain ⟨line, hline, rfl⟩ := List.mem_map.1 h
      exact ⟨line, Text.oneRow_of_mem_lines hline, rfl⟩
    · cases h
  · cases h

/-- The rows of a block are single rows that are not empty. -/
theorem block_spec (h : row ∈ e.block) : OneRow row ∧ row ≠ "" := by
  obtain ⟨line, hline, rfl⟩ := mem_block h
  refine ⟨oneRow_append_iff.2 ⟨oneRow_indent _, hline⟩, fun hempty => ?_⟩
  obtain ⟨cs, hcs⟩ := indent_succ e.depth 0
  have hnil := congrArg String.toList hempty
  rw [String.toList_append, hcs] at hnil
  simp at hnil

/-- The row of a label stands at the depth of its entry, unless a key begins with spaces. -/
theorem standsAt_heading (hlabel : e.label ≠ "") (hfirst : e.label.toList.head? ≠ some ' ') :
    StandsAt e.depth e.heading := by
  obtain ⟨c, cs, hcs⟩ : ∃ c cs, e.label.toList = c :: cs :=
    List.exists_cons_of_ne_nil (by rwa [Ne, String.toList_eq_nil_iff])
  rw [hcs] at hfirst
  refine ⟨c, cs ++ e.remark.toList, fun h => hfirst (by rw [h]; rfl), ?_⟩
  rw [Entry.heading, String.toList_append, String.toList_append, hcs, List.append_assoc]
  rfl

/-- The rows of a string of several lines stand deeper than any entry around them. -/
theorem not_standsAt_of_mem_block (h : row ∈ e.block) (hdepth : depth ≤ e.depth) :
    ¬ StandsAt depth row := by
  obtain ⟨line, -, rfl⟩ := mem_block h
  obtain ⟨n, hn⟩ := Nat.exists_eq_add_of_le hdepth
  obtain ⟨cs, hcs⟩ := indent_succ depth n
  rintro ⟨c, cs', hc, hrow⟩
  rw [String.toList_append, hn, hcs, List.append_assoc, List.append_cancel_left_eq] at hrow
  exact hc (List.cons.inj hrow).1.symm

/-- The rows of all entries are single rows that are not empty. -/
theorem rows_spec (depth : Nat) (hkeys : v.AllKeys OneRow) :
    ∀ row ∈ (entries depth v).flatMap Entry.rows, OneRow row ∧ row ≠ "" := by
  intro row hrow
  obtain ⟨e, he, hrow⟩ := List.mem_flatMap.1 hrow
  rcases List.mem_cons.1 hrow with rfl | hrow
  · exact heading_spec (isLabel_of_mem_entries hkeys e he)
  · exact block_spec hrow

/-! ## The whole outline -/

/-- The outline of a value with something in it is its rows, joined. -/
theorem outline_eq (hv : IsContainer v) (hsome : v ≠ .array [] ∧ v ≠ .object []) :
    entries 0 v.sorted ≠ [] ∧
      outline false v = Text.joinWith "\n" ((entries 0 v.sorted).flatMap Entry.rows) := by
  cases hv with
  | array items =>
    cases items with
    | nil => exact absurd rfl hsome.1
    | cons v rest =>
      refine ⟨List.cons_ne_nil _ _, ?_⟩
      rw [outline, Json.sorted, Json.sortedItems, outlineOf, itemLines_eq, entries]
  | object members =>
    cases members with
    | nil => exact absurd rfl hsome.2
    | cons m rest =>
      obtain ⟨key, v⟩ := m
      have hne : Json.sortedMembers ((key, v) :: rest) [] ≠ [] := by
        rw [Json.sortedMembers]
        exact Json.sortedMembers_ne_nil (Json.insert_ne_nil [])
      rw [outline, Json.sorted]
      obtain ⟨m, ms, hms⟩ := List.exists_cons_of_ne_nil hne
      rw [hms]
      refine ⟨List.cons_ne_nil _ _, ?_⟩
      rw [outlineOf, memberLines_eq, entries]

/-- **What an outline shows.** The rows of the outline of an object or an array are those of its
entries: one for each label and one for each line of a string of several lines. It does not end in a
line feed. The row of a label stands at the depth of the entry, and no line of a string stands where
an entry around it would. Reference: `pretty::format`. -/
theorem rows_outline (v : Json) (hv : IsContainer v) (hkeys : v.AllKeys OneRow) :
    Text.rows (outline false v) = outlineRows v ∧
    (outline false v).toList.getLast? ≠ some '\n' ∧
    ∀ e ∈ entries 0 v.sorted,
      (e.label.toList.head? ≠ some ' ' → StandsAt e.depth e.heading) ∧
      ∀ row ∈ e.block, ∀ depth ≤ e.depth, ¬ StandsAt depth row := by
  have hkeys' := Json.allKeys_sorted v hkeys
  have hstands : ∀ e ∈ entries 0 v.sorted,
      (e.label.toList.head? ≠ some ' ' → StandsAt e.depth e.heading) ∧
      ∀ row ∈ e.block, ∀ depth ≤ e.depth, ¬ StandsAt depth row := fun e he =>
    ⟨standsAt_heading (isLabel_of_mem_entries hkeys' e he).2,
      fun _ hrow _ hdepth => not_standsAt_of_mem_block hrow hdepth⟩
  by_cases hsome : v ≠ .array [] ∧ v ≠ .object []
  · obtain ⟨hne, houtline⟩ := outline_eq hv hsome
    have hall : outlineRows v = (entries 0 v.sorted).flatMap Entry.rows := by
      unfold outlineRows
      split
      · exact absurd rfl hsome.2
      · exact absurd rfl hsome.1
      · rfl
    have hrows := rows_spec 0 hkeys'
    have hnonempty : (entries 0 v.sorted).flatMap Entry.rows ≠ [] := by
      obtain ⟨e, rest, he⟩ := List.exists_cons_of_ne_nil hne
      rw [he, List.flatMap_cons]
      exact List.cons_ne_nil _ _
    rw [hall, houtline]
    exact ⟨Text.rows_joinWith (fun row hrow => (hrows row hrow).1) hnonempty,
      Text.getLast?_joinWith_ne hrows, hstands⟩
  · obtain rfl | rfl : v = .array [] ∨ v = .object [] := by
      by_contra hnot
      exact hsome ⟨fun h => hnot (.inl h), fun h => hnot (.inr h)⟩
    · exact ⟨by rfl, by decide, hstands⟩
    · exact ⟨by rfl, by decide, hstands⟩

/-- The second line of the log looks like an item, but is deeper than one. -/
theorem rows_outline_log :
    Text.rows (outline false (.object [("log", .string "one\n- two\n"),
        ("items", .array [.null, .object []])])) =
      ["items:", "  - null", "  - \x7b\x7d", "log: |", "  one", "  - two"] :=
  (rows_outline (.object [("log", .string "one\n- two\n"), ("items", .array [.null, .object []])])
    (.object _) ⟨by decide, trivial, by decide, ⟨trivial, trivial, trivial⟩, trivial⟩).1.trans
    (by decide)

end

end ModuleBridge.Report
