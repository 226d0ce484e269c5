import ModuleBridge.Proofs.Json.Characters
import ModuleBridge.Proofs.Source.Literals

/-!
# What a JSON text denotes as a literal

A value of strings, integers of 64 bits, arrays and objects denotes a value of its own shape
(`value?`). Its text without blanks is an expression made of literals, from which just that value is
taken, however deep it nests (`exists_takes`). No line ends in the text, since it has no character
below U+0020 (`notMem_compact`), so as a line of its own it is read as the value
(`readLiteral_compact`).
-/

namespace ModuleBridge.Json

open Source (Takes Value readLiteral takeValue)

/-- The values made of strings, integers of 64 bits, arrays and objects. No key of an object is
there twice. -/
inductive IsArgument : Json → Prop
  | integer {n : Int} (fits : FitsBits n) : IsArgument (.number (.integer n))
  | string (s : String) : IsArgument (.string s)
  | array {items : List Json} (parts : ∀ v ∈ items, IsArgument v) : IsArgument (.array items)
  | object {members : List (String × Json)} (keys : (members.map (·.1)).Nodup)
    (parts : ∀ m ∈ members, IsArgument m.2) : IsArgument (.object members)

mutual

/-- What a value denotes: an integer, a text, a list of what the items denote, or a dict of what the
members denote. The other scalars are no literals, or no integers. -/
def value? : Json → Option Value
  | .number (.integer n) => some (.integer n)
  | .string s => some (.text s)
  | .array items => (itemValues? items).map .list
  | .object members => (memberValues? members).map .dict
  | _ => none

/-- What the items of an array denote. -/
def itemValues? : List Json → Option (List Value)
  | [] => some []
  | v :: rest => v.value?.bind fun w => (itemValues? rest).map (w :: ·)

/-- The entries that the members of an object denote. -/
def memberValues? : List (String × Json) → Option (List (String × Value))
  | [] => some []
  | (key, v) :: rest => v.value?.bind fun w => (memberValues? rest).map ((key, w) :: ·)

end

section
variable {depth : Nat} {c : Char} {v : Json} {items : List Json} {members : List (String × Json)}
  {text : List Char} {texts : List (List Char)} {w : Value} {values : List Value}
  {entries : List (String × Value)}

/-! ## Values -/

/-- The key is the same, and the value is what the other one denotes. -/
def Denotes (m : String × Json) (e : String × Value) : Prop := e.1 = m.1 ∧ m.2.value? = some e.2

/-- Items have values if each of them has one. -/
theorem itemValues?_eq (h : List.Forall₂ (fun v w => v.value? = some w) items values) :
    itemValues? items = some values := by
  induction h with
  | nil => rfl
  | cons hv _ ih => rw [itemValues?, hv, Option.bind_some, ih, Option.map_some]

/-- Members have values if each of them has one. -/
theorem memberValues?_eq (h : List.Forall₂ Denotes members entries) :
    memberValues? members = some entries := by
  induction h with
  | nil => rfl
  | cons hm _ ih =>
    rw [memberValues?, hm.2, Option.bind_some, ih, Option.map_some, ← hm.1]

/-- Entries have the keys of the members. -/
theorem keys_of_denotes (h : List.Forall₂ Denotes members entries) :
    entries.map (·.1) = members.map (·.1) := by
  induction h with
  | nil => rfl
  | cons hm _ ih => rw [List.map_cons, List.map_cons, hm.1, ih]

theorem exists_forall₂ {α β : Type} {R : α → β → Prop} {xs : List α}
    (h : ∀ x ∈ xs, ∃ y, R x y) : ∃ ys, List.Forall₂ R xs ys := by
  induction xs with
  | nil => exact ⟨[], .nil⟩
  | cons x xs ih =>
    obtain ⟨⟨y, hy⟩, h⟩ := List.forall_mem_cons.1 h
    obtain ⟨ys, hys⟩ := ih h
    exact ⟨y :: ys, .cons hy hys⟩

/-- An integer of 64 bits has less digits than a source may have in one. -/
theorem FitsBits.length_le {n : Int} (h : FitsBits n) :
    (Decimal.natDigits n.natAbs).length ≤ Source.integerDigitLimit := by
  have hbits : Nat.pow 2 63 < 10 ^ 20 ∧ Nat.pow 2 64 < 10 ^ 20 := by decide
  have habs : n.natAbs < 10 ^ 20 := by
    obtain ⟨hlow, hhigh⟩ := h
    omega
  exact Nat.le_trans ((Nat.length_toDigits_le_iff (by decide) (by decide)).2 habs) (by decide)

/-- **An argument denotes a value, which is taken from its text.** -/
theorem exists_takes (h : v.IsArgument) : ∃ w, v.value? = some w ∧ ∀ nesting depth,
    v.nesting ≤ nesting → Takes (takeValue nesting) (renderIn .compact depth v) w := by
  induction h with
  | integer fits =>
    exact ⟨_, rfl, fun _ _ _ => (Source.takes_integer fits.length_le).ofScalar⟩
  | string s => exact ⟨_, rfl, fun _ _ _ => (Source.takes_text s).ofScalar⟩
  | @array items _ ih =>
    obtain ⟨values, hvalues⟩ := exists_forall₂ fun v hv => (ih v hv).imp fun _ => And.intro hv
    refine ⟨.list values, ?_, fun nesting depth hnesting => ?_⟩
    · rw [value?, itemValues?_eq (hvalues.imp fun _ _ h => h.2.1), Option.map_some]
    · obtain ⟨k, rfl, hitems⟩ := nesting_array_le.1 hnesting
      rw [renderIn, renderItems_eq]
      refine Source.takes_list (List.forall₂_map_left_iff.2 (hvalues.imp fun v _ h => ?_))
      exact h.2.2 k _ (hitems v h.1)
  | @object members keys _ ih =>
    obtain ⟨entries, hentries⟩ : ∃ entries : List (String × Value), List.Forall₂ (fun m e =>
        m ∈ members ∧ Denotes m e ∧ ∀ nesting depth, m.2.nesting ≤ nesting →
          Takes (takeValue nesting) (renderIn .compact depth m.2) e.2) members entries :=
      exists_forall₂ fun m hm => (ih m hm).elim fun w hw => ⟨(m.1, w), hm, ⟨rfl, hw.1⟩, hw.2⟩
    have hdenotes : List.Forall₂ Denotes members entries := hentries.imp fun _ _ h => h.2.1
    refine ⟨.dict entries, ?_, fun nesting depth hnesting => ?_⟩
    · rw [value?, memberValues?_eq hdenotes, Option.map_some]
    · obtain ⟨k, rfl, hmembers⟩ := nesting_object_le.1 hnesting
      rw [renderIn, renderMembers_eq]
      refine Source.takes_dict ?_ (keys_of_denotes hdenotes ▸ keys)
      refine List.forall₂_map_left_iff.2 (hentries.imp ?_)
      rintro m ⟨_, w⟩ ⟨hm, ⟨rfl, -⟩, htakes⟩
      exact Source.takes_entry m.1 (htakes k _ (hmembers m hm))

/-- The text of an argument is read as the value that it denotes. -/
theorem IsArgument.takes {nesting : Nat} (h : v.IsArgument) (hw : v.value? = some w)
    (hn : v.nesting ≤ nesting) (depth : Nat) :
    Takes (takeValue nesting) (renderIn .compact depth v) w := by
  obtain ⟨w', hw', htakes⟩ := exists_takes h
  cases hw.symm.trans hw'
  exact htakes nesting depth hn

/-! ## Texts -/

/-- No more brackets are open at once than the text has characters. -/
theorem nesting_le_chars (h : v.IsArgument) (depth : Nat) :
    v.nesting ≤ (renderIn .compact depth v).length := by
  induction h generalizing depth with
  | integer | string => exact Nat.zero_le _
  | @array items _ ih =>
    rw [renderIn, renderItems_eq, bracket_compact, nesting_array_le]
    refine ⟨_, List.length_cons, fun v hv => Nat.le_trans (ih v hv (depth + 1)) ?_⟩
    have hle := length_le_separated [',']
      (List.mem_map_of_mem (f := renderIn Layout.compact (depth + 1)) hv)
    rw [List.length_append]
    exact Nat.le_add_right_of_le hle
  | @object members _ _ ih =>
    rw [renderIn, renderMembers_eq, bracket_compact, nesting_object_le]
    refine ⟨_, List.length_cons, fun m hm => Nat.le_trans (ih m hm (depth + 1)) ?_⟩
    have hle := length_le_separated [','] (List.mem_map_of_mem (f := fun m : String × Json =>
      renderString m.1 ++ Layout.compact.afterKey ++ renderIn .compact (depth + 1) m.2) hm)
    rw [List.length_append] at hle ⊢
    omega

/-- The text of an argument has no character below U+0020. -/
theorem notMem_compact (h : v.IsArgument) (hc : c.toNat < 0x20) (depth : Nat) :
    c ∉ renderIn .compact depth v := by
  have hprintable : isPrintable c = false := by
    rw [← Bool.not_eq_true]
    exact fun hp => absurd (le_of_isPrintable hp) (Nat.not_le.2 hc)
  have hstring (s : String) : c ∉ renderString s := by
    rw [mem_renderString_iff hprintable]
    exact fun hmem => Nat.not_le.2 hc hmem.2
  induction h generalizing depth with
  | integer =>
    intro hmem
    cases hprintable.symm.trans (isPrintable_of_mem_integer hmem)
  | string s => exact hstring s
  | @array items _ ih =>
    rw [renderIn, renderItems_eq, mem_bracket_iff hprintable rfl rfl]
    rintro ⟨t, ht, hmem⟩
    obtain ⟨v, hv, rfl⟩ := List.mem_map.1 ht
    exact ih v hv _ hmem
  | @object members _ _ ih =>
    have hcolon : c ∉ Layout.compact.afterKey := by
      intro hmem
      rw [List.mem_singleton.1 hmem] at hprintable
      cases hprintable
    rw [renderIn, renderMembers_eq, mem_bracket_iff hprintable rfl rfl]
    rintro ⟨t, ht, hmem⟩
    obtain ⟨m, hm, rfl⟩ := List.mem_map.1 ht
    rw [List.mem_append, List.mem_append, or_iff_right (hstring m.1), or_iff_right hcolon] at hmem
    exact ih m hm _ hmem

/-- As a line of its own, the text is read as what the value denotes. -/
theorem readLiteral_compact (h : v.IsArgument) (hw : v.value? = some w) :
    readLiteral v.compact = some w := by
  have htext : v.compact.toList = renderIn .compact 0 v := String.toList_ofList
  have hdeep : v.nesting ≤ v.compact.length := by
    rw [← String.length_toList, htext]
    exact nesting_le_chars h 0
  have htakes := h.takes hw hdeep 0
  obtain ⟨c, cs, hcs, hc⟩ := htakes.starts
  refine Source.readLine_eq ?_ ?_ ?_
  · rw [htext]
    exact fun c hc => Nat.le_of_not_lt fun hlow => notMem_compact h hlow 0 hc
  · rw [htext, hcs]
    exact List.cons_ne_nil c cs
  · rw [htext, hcs, List.cons_append, Source.afterBlanks_cons (Source.beginsLiteral_iff.1 hc).1,
      ← List.cons_append, ← hcs]
    exact htakes.takes _ (.cons rfl)

end

end ModuleBridge.Json
