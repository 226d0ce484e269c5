import ModuleBridge.Proofs.Json.Numbers

/-!
# Values read back

A value without doubles, whose integers fit in 64 bits and whose objects have their keys in order,
is read back from its text in any layout that adds blanks only, if its brackets do not nest too deep
(`takes_value`).
-/

namespace ModuleBridge.Json

open Text.Utf8

/-! ## Values and layouts -/

/-- The values without doubles that can have been read. -/
inductive IsPlain : Json → Prop
  | null : IsPlain .null
  | bool (value : Bool) : IsPlain (.bool value)
  | integer {n : Int} (fits : FitsBits n) : IsPlain (.number (.integer n))
  | string (s : String) : IsPlain (.string s)
  | array {items : List Json} (plain : ∀ v ∈ items, IsPlain v) : IsPlain (.array items)
  | object {members : List (String × Json)} (sorted : members.Pairwise (·.1 < ·.1))
    (plain : ∀ m ∈ members, IsPlain m.2) : IsPlain (.object members)

mutual

/-- How many brackets are open at once. -/
def nesting : Json → Nat
  | .array items => itemsNesting items + 1
  | .object members => membersNesting members + 1
  | _ => 0

/-- How many brackets are open at once in the items of an array. -/
def itemsNesting : List Json → Nat
  | [] => 0
  | v :: rest => max (nesting v) (itemsNesting rest)

/-- How many brackets are open at once in the members of an object. -/
def membersNesting : List (String × Json) → Nat
  | [] => 0
  | (_, v) :: rest => max (nesting v) (membersNesting rest)

end

/-- The layout adds blanks only. -/
structure Layout.IsBlank (layout : Layout) : Prop where
  beforeItem : ∀ depth, Blank (encode (layout.beforeItem depth))
  beforeEnd : ∀ depth, Blank (encode (layout.beforeEnd depth))
  afterKey : ∃ blank, encode layout.afterKey = 0x3A :: blank ∧ Blank blank

/-- On one line there is nothing but blanks between tokens. -/
theorem Layout.isBlank_compact : Layout.compact.IsBlank :=
  ⟨fun _ => .nil, fun _ => .nil, [], rfl, .nil⟩

/-- A line feed and spaces are blanks. -/
theorem isGap_newline (count : Nat) : IsGap ('\n' :: List.replicate count ' ') := by
  intro c hc
  rcases List.mem_cons.1 hc with rfl | hc
  · decide
  · rw [(List.mem_replicate.1 hc).2]
    decide

/-- On indented lines there is nothing but blanks between tokens. -/
theorem Layout.isBlank_indented : Layout.indented.IsBlank :=
  ⟨fun _ => (isGap_newline _).blank, fun _ => (isGap_newline _).blank, [0x20], rfl,
    by simp [Blank, Reader.isSpace]⟩

section
variable {layout : Layout} {depth nesting n : Nat} {v : Json} {items : List Json}
  {members : List (String × Json)} {rest : List UInt8}

/-- Items are nested at most so deep if each of them is. -/
theorem itemsNesting_le : itemsNesting items ≤ n ↔ ∀ v ∈ items, v.nesting ≤ n := by
  induction items with
  | nil => simp [itemsNesting]
  | cons v rest ih => rw [itemsNesting, Nat.max_le, ih, List.forall_mem_cons]

/-- Members are nested at most so deep if the value of each is. -/
theorem membersNesting_le : membersNesting members ≤ n ↔ ∀ m ∈ members, m.2.nesting ≤ n := by
  induction members with
  | nil => simp [membersNesting]
  | cons m rest ih => rw [membersNesting, Nat.max_le, ih, List.forall_mem_cons]

/-- Around the items of an array one more bracket is open. -/
theorem nesting_array_le :
    (Json.array items).nesting ≤ n ↔ ∃ k, n = k + 1 ∧ ∀ v ∈ items, v.nesting ≤ k := by
  rw [Json.nesting]
  constructor
  · intro h
    exact ⟨n - 1, by omega, itemsNesting_le.1 (by omega)⟩
  · rintro ⟨k, rfl, h⟩
    exact Nat.succ_le_succ (itemsNesting_le.2 h)

/-- Around the members of an object one more bracket is open. -/
theorem nesting_object_le :
    (Json.object members).nesting ≤ n ↔ ∃ k, n = k + 1 ∧ ∀ m ∈ members, m.2.nesting ≤ k := by
  rw [Json.nesting]
  constructor
  · intro h
    exact ⟨n - 1, by omega, membersNesting_le.1 (by omega)⟩
  · rintro ⟨k, rfl, h⟩
    exact Nat.succ_le_succ (membersNesting_le.2 h)

/-- The texts of items and members are those of their values. -/
theorem renderItems_eq (layout : Layout) (depth : Nat) (items : List Json) :
    renderItems layout depth items = items.map (renderIn layout depth) := by
  induction items with
  | nil => rw [renderItems]; rfl
  | cons v rest ih => rw [renderItems, ih]; rfl

/-- Members are written one by one. -/
theorem renderMembers_eq (layout : Layout) (depth : Nat) (members : List (String × Json)) :
    renderMembers layout depth members = members.map fun m =>
      renderString m.1 ++ layout.afterKey ++ renderIn layout depth m.2 := by
  induction members with
  | nil => rw [renderMembers]; rfl
  | cons m rest ih => rw [renderMembers, ih]; rfl

/-! ## Separators and brackets -/

/-- A separator stands between the first two texts. -/
theorem separated_cons_cons (separator text text' : List Char) (texts : List (List Char)) :
    separated separator (text :: text' :: texts) =
      text ++ (separator ++ separated separator (text' :: texts)) := by
  rw [separated, List.append_assoc]
  rintro ⟨⟩

/-- None of the texts is longer than all of them together. -/
theorem length_le_separated {text : List Char} {texts : List (List Char)} (separator : List Char)
    (h : text ∈ texts) :
    text.length ≤ (separated separator texts).length := by
  induction texts with
  | nil => cases h
  | cons text' texts ih =>
    cases texts with
    | nil => exact Nat.le_of_eq (congrArg List.length (List.mem_singleton.1 h))
    | cons text'' texts =>
      rw [separated_cons_cons, List.length_append, List.length_append]
      rcases List.mem_cons.1 h with rfl | h
      · exact Nat.le_add_right _ _
      · exact Nat.le_trans (ih h) (by omega)

/-- There is a comma for each item but the first. -/
theorem count_le_separated (gap : List Char) (texts : List (List Char)) :
    texts.length ≤ (separated (',' :: gap) texts).length + 1 := by
  induction texts with
  | nil => exact Nat.zero_le _
  | cons text texts ih =>
    cases texts with
    | nil => exact Nat.succ_le_succ (Nat.zero_le _)
    | cons text' texts =>
      rw [separated_cons_cons]
      simp only [List.length_cons, List.length_append] at ih ⊢
      omega

/-- What stands between brackets without blanks. -/
theorem bracket_compact (depth : Nat) (opening closing : Char) (texts : List (List Char)) :
    Layout.compact.bracket depth opening closing texts =
      opening :: (separated [','] texts ++ [closing]) := by
  cases texts with
  | nil => rfl
  | cons text texts =>
    have hbefore : (text :: texts).map (Layout.compact.beforeItem depth ++ ·) =
        text :: texts :=
      List.map_id' _
    rw [Layout.bracket, if_neg (by simp), hbefore]
    simp [Layout.compact]

/-- Texts between commas, as bytes. -/
theorem encode_separated_listed (texts : List (List Char)) :
    encode (separated [','] texts) = Reader.listed (texts.map encode) := by
  induction texts with
  | nil => rfl
  | cons text texts ih =>
    cases texts with
    | nil => simp [separated, Reader.listed, Reader.others]
    | cons text' texts =>
      rw [separated_cons_cons, encode_append, encode_append, ih]
      rfl

/-- Texts between commas, each behind the same blanks, as bytes. -/
theorem encode_separated (before : List Char) (text : List Char) (texts : List (List Char)) :
    encode (separated [','] ((text :: texts).map (before ++ ·))) =
      encode (before ++ text) ++ Reader.others (encode before) (texts.map encode) := by
  rw [encode_separated_listed, Reader.others_eq, List.map_cons, List.map_cons, Reader.listed]
  simp [Function.comp_def]

/-- What is written between brackets. -/
theorem encode_bracket (layout : Layout) (depth : Nat) (opening closing : Char)
    (texts : List (List Char)) :
    encode (layout.bracket depth opening closing texts) =
      String.utf8EncodeChar opening ++ (Reader.inside (encode (layout.beforeItem depth))
        (encode (layout.beforeEnd depth)) (texts.map encode) ++ String.utf8EncodeChar closing) := by
  cases texts with
  | nil => simp [Layout.bracket, encode_cons, Reader.inside]
  | cons text texts =>
    rw [Layout.bracket, if_neg (by simp), encode_append, List.cons_append, encode_cons,
      encode_append, encode_separated, List.map_cons, Reader.inside]
    simp [encode_cons]

/-- The key of a member and the text that follows it. -/
def valueText (layout : Layout) (depth : Nat) (m : String × Json) : String × List UInt8 :=
  (m.1, encode (layout.afterKey ++ renderIn layout depth m.2))

/-- The text of a member is its key between quotes and what follows. -/
theorem encode_member (layout : Layout) (depth : Nat) (m : String × Json) :
    encode (renderString m.1 ++ layout.afterKey ++ renderIn layout depth m.2) =
      Reader.memberText (valueText layout depth m) := by
  simp [Reader.encode_renderString, Reader.memberText, valueText]

/-- The text of an array. -/
theorem encode_array (layout : Layout) (depth : Nat) (items : List Json) :
    encode (renderIn layout depth (.array items)) =
      0x5B :: (Reader.inside (encode (layout.beforeItem depth)) (encode (layout.beforeEnd depth))
        (items.map fun v => encode (renderIn layout (depth + 1) v)) ++ [0x5D]) := by
  rw [renderIn, encode_bracket, renderItems_eq, List.map_map]
  rfl

/-- The text of an object. -/
theorem encode_object (layout : Layout) (depth : Nat) (members : List (String × Json)) :
    encode (renderIn layout depth (.object members)) =
      0x7B :: (Reader.inside (encode (layout.beforeItem depth)) (encode (layout.beforeEnd depth))
        ((members.map (valueText layout (depth + 1))).map Reader.memberText) ++ [0x7D]) := by
  rw [renderIn, encode_bracket, renderMembers_eq, List.map_map, List.map_map]
  simp only [Function.comp_def, encode_member]
  rfl

/-- What follows a key is taken by a reader that takes a colon and then the value. -/
theorem takes_colon {α β : Type} {r : Reader α} {f : α → Reader β} {x : α} {y : β}
    {gap text : List UInt8} (hgap : Blank gap) (h : r.Takes text x)
    (hf : ∀ rest, f x rest = .ok (y, rest)) :
    Reader.Takes (do Reader.colon; let x ← r; f x) (0x3A :: (gap ++ text)) y := by
  refine ⟨⟨0x3A, _, rfl, rfl⟩, fun front rest hfront hrest => ?_⟩
  simp only [List.cons_append, List.append_assoc]
  refine (Reader.bind_ok (Reader.colon_eq hfront)).trans ?_
  exact (Reader.bind_ok (h.reads gap rest hgap hrest)).trans (hf rest)

/-- Behind its key the value of a member is read with the colon and the blanks. -/
theorem takes_afterKey {α β : Type} {r : Reader α} {f : α → Reader β} {x : α} {y : β}
    {text : List Char} (hl : layout.IsBlank) (h : r.Takes (encode text) x)
    (hf : ∀ rest, f x rest = .ok (y, rest)) :
    Reader.Takes (do Reader.colon; let x ← r; f x) (encode (layout.afterKey ++ text)) y := by
  obtain ⟨gap, hkey, hgap⟩ := hl.afterKey
  rw [encode_append, hkey]
  exact takes_colon hgap h hf

/-! ## Scalars -/

/-- A value whose text begins with no bracket is read as a scalar. -/
theorem value_scalar {blank : List UInt8} {b : UInt8} (hb : Blank blank)
    (hs : Reader.isSpace b = false) (harray : b ≠ 0x5B) (hobject : b ≠ 0x7B) :
    Reader.value nesting (blank ++ b :: rest) = Reader.scalar b (b :: rest) := by
  cases nesting with
  | zero =>
    refine (Reader.bind_ok (Reader.peek_eq hb hs)).trans ?_
    simp [harray, hobject]
  | succ nesting =>
    refine (Reader.bind_ok (Reader.peek_eq hb hs)).trans ?_
    simp [harray, hobject]

/-- A scalar is taken as a value if it is read where its text begins. -/
theorem takes_of_scalar {b : UInt8} {bs : List UInt8} (hb : begins b = true)
    (harray : b ≠ 0x5B) (hobject : b ≠ 0x7B)
    (h : ∀ rest, Ends rest → Reader.scalar b (b :: (bs ++ rest)) = .ok (v, rest)) :
    (Reader.value nesting).Takes (b :: bs) v := by
  refine ⟨⟨b, bs, rfl, hb⟩, fun blank rest hblank hrest => ?_⟩
  rw [List.cons_append, value_scalar hblank (Reader.begins_iff.1 hb).1 harray hobject]
  exact h rest hrest

/-- `null` is read back. -/
theorem takes_null : (Reader.value nesting).Takes (encode (renderIn layout depth .null)) .null := by
  refine takes_of_scalar (b := 0x6E) rfl (by decide) (by decide) fun rest _ => ?_
  rw [Reader.scalar, if_pos rfl]
  refine (Reader.bind_ok Reader.skip_cons).trans ?_
  exact Reader.bind_ok (Reader.word_append Reader.nullTail rest)

/-- A truth value is read where its word begins. -/
theorem scalar_bool (layout : Layout) (depth : Nat) (value : Bool) :
    ∃ b bs, encode (renderIn layout depth (.bool value)) = b :: bs ∧ (b = 0x74 ∨ b = 0x66) ∧
      ∀ rest, Reader.scalar b (b :: (bs ++ rest)) = .ok (.bool value, rest) := by
  cases value with
  | true =>
    refine ⟨0x74, Reader.trueTail, rfl, .inl rfl, fun rest => ?_⟩
    rw [Reader.scalar, if_neg (by decide), if_pos rfl]
    refine (Reader.bind_ok Reader.skip_cons).trans ?_
    exact Reader.bind_ok (Reader.word_append Reader.trueTail rest)
  | false =>
    refine ⟨0x66, Reader.falseTail, rfl, .inr rfl, fun rest => ?_⟩
    rw [Reader.scalar, if_neg (by decide), if_neg (by decide), if_pos rfl]
    refine (Reader.bind_ok Reader.skip_cons).trans ?_
    exact Reader.bind_ok (Reader.word_append Reader.falseTail rest)

/-- A truth value is read back. -/
theorem takes_bool (value : Bool) :
    (Reader.value nesting).Takes (encode (renderIn layout depth (.bool value))) (.bool value) := by
  obtain ⟨b, bs, hb, hfirst, hscalar⟩ := scalar_bool layout depth value
  rw [hb]
  rcases hfirst with rfl | rfl
  · exact takes_of_scalar rfl (by decide) (by decide) fun rest _ => hscalar rest
  · exact takes_of_scalar rfl (by decide) (by decide) fun rest _ => hscalar rest

/-- A text is read back. -/
theorem takes_string (s : String) :
    (Reader.value nesting).Takes (encode (renderIn layout depth (.string s))) (.string s) := by
  rw [renderIn, Reader.encode_renderString]
  refine takes_of_scalar rfl (by decide) (by decide) fun rest _ => ?_
  rw [Reader.scalar]
  simp only [List.append_assoc]
  refine (Reader.bind_ok Reader.skip_cons).trans ?_
  exact Reader.bind_ok (Reader.string_escaped s rest)

/-- A byte that is no digit is different from each digit. -/
theorem ne_of_isDigit {b c : UInt8} (h : isDigit b = true) (hc : isDigit c = false) : b ≠ c := by
  rintro rfl
  rw [h] at hc
  cases hc

/-- An item may begin with a digit. -/
theorem begins_of_isDigit {b : UInt8} (h : isDigit b = true) : begins b = true := by
  simp only [isDigit, Bool.and_eq_true, decide_eq_true_eq, UInt8.le_iff_toNat_le] at h
  simp only [Reader.begins_iff, Reader.isSpace, Bool.or_eq_false_iff, decide_eq_false_iff_not,
    ne_eq, ← UInt8.toNat_inj]
  simp at h ⊢
  omega

/-- An integer that fits 64 bits is read back. -/
theorem takes_integer {n : Int} (hn : FitsBits n) :
    (Reader.value nesting).Takes (encode (renderIn layout depth (.number (.integer n))))
      (.number (.integer n)) := by
  rw [renderIn]
  rcases Int.lt_or_le n 0 with hneg | hpos
  · rw [render_of_neg hneg]
    refine takes_of_scalar rfl (by decide) (by decide) fun rest hrest => ?_
    rw [Reader.scalar]
    refine (Reader.bind_ok Reader.skip_cons).trans ?_
    exact Reader.bind_ok (number_of_neg hn hneg hrest)
  · obtain ⟨b, bs, hb, hdigit⟩ := render_of_nonneg hpos
    have hne {c : UInt8} (hc : isDigit c = false) : b ≠ c := ne_of_isDigit hdigit hc
    rw [hb]
    refine takes_of_scalar (begins_of_isDigit hdigit) (hne rfl) (hne rfl) fun rest hrest => ?_
    rw [Reader.scalar, if_neg (hne rfl), if_neg (hne rfl), if_neg (hne rfl), if_neg (hne rfl),
      if_pos hdigit, ← List.cons_append, ← hb]
    exact Reader.bind_ok (number_of_nonneg hn hpos hrest)

/-! ## Arrays and objects -/

/-- A reader that opens a bracket takes what it takes inside. -/
theorem value_array {blank : List UInt8} (hb : Blank blank) (rest : List UInt8) :
    Reader.value (nesting + 1) (blank ++ 0x5B :: rest) =
      (do let vs ← Reader.items (Reader.value nesting)
          Reader.skip
          return Json.array vs : Reader Json) rest :=
  Reader.bind_ok (Reader.peek_eq hb rfl)

/-- An array is read back if each of its items is, however deep it stands. -/
theorem takes_array (hl : layout.IsBlank)
    (h : ∀ v ∈ items, ∀ depth, (Reader.value nesting).Takes (encode (renderIn layout depth v)) v) :
    (Reader.value (nesting + 1)).Takes (encode (renderIn layout depth (.array items)))
      (.array items) := by
  rw [encode_array]
  refine ⟨⟨0x5B, _, rfl, rfl⟩, fun blank rest hblank _ => ?_⟩
  have hitems : List.Forall₂ (Reader.value nesting).Takes
      (items.map fun v => encode (renderIn layout (depth + 1) v)) items :=
    List.forall₂_map_left_iff.2 (List.forall₂_same.2 fun v hv => h v hv _)
  simp only [List.cons_append, List.append_assoc]
  rw [value_array hblank]
  refine (Reader.bind_ok (Reader.items_inside hitems (hl.beforeItem _) (hl.beforeEnd _))).trans ?_
  exact Reader.bind_ok Reader.skip_cons

/-- A key after all others is put at the end. -/
theorem insert_of_lt {key : String} {α : Type} {x : α} {done : List (String × α)}
    (h : ∀ m ∈ done, m.1 < key) : insert key x done = done ++ [(key, x)] := by
  induction done with
  | nil => rfl
  | cons m done ih =>
    have hm := h m List.mem_cons_self
    have hne : key ≠ m.1 := fun e => String.lt_irrefl m.1 (e ▸ hm)
    rw [insert, if_neg (String.lt_asymm hm), if_neg hne, ih fun m' hm' => h m' (.tail _ hm')]
    rfl

/-- The members of an object are taken in the order of their keys. -/
theorem takesMembers_insert (depth : Nat) (hl : layout.IsBlank) (done : List (String × Json))
    (hsorted : (done ++ members).Pairwise (·.1 < ·.1))
    (h : ∀ m ∈ members, ∀ depth,
      (Reader.value nesting).Takes (encode (renderIn layout depth m.2)) m.2) :
    Reader.TakesMembers (fun key ms => do
        Reader.colon
        let v ← Reader.value nesting
        return insert key v ms)
      (members.map (valueText layout depth)) done (done ++ members) := by
  induction members generalizing done with
  | nil =>
    rw [List.append_nil]
    exact .nil done
  | cons m members ih =>
    have hm : insert m.1 m.2 done = done ++ [m] :=
      insert_of_lt fun m' hm' => (List.pairwise_append.1 hsorted).2.2 m' hm' m List.mem_cons_self
    rw [List.append_cons] at hsorted ⊢
    have hfirst := takes_afterKey (f := fun v => pure (insert m.1 v done)) hl
      (h m List.mem_cons_self depth) fun rest => rfl
    rw [hm] at hfirst
    exact .cons hfirst (ih _ hsorted fun m' hm' => h m' (.tail _ hm'))

/-- Behind an opening brace an object is read member by member. -/
theorem value_object {blank : List UInt8} (hb : Blank blank) (rest : List UInt8) :
    Reader.value (nesting + 1) (blank ++ 0x7B :: rest) =
      (do let ms ← Reader.members Reader.string (fun key ms => do
            Reader.colon
            let v ← Reader.value nesting
            return insert key v ms) []
          Reader.skip
          return Json.object ms : Reader Json) rest :=
  Reader.bind_ok (Reader.peek_eq hb rfl)

/-- An object whose members are in the order of their names is read back if each value is. -/
theorem takes_object (hl : layout.IsBlank) (hsorted : members.Pairwise (·.1 < ·.1))
    (h : ∀ m ∈ members, ∀ depth,
      (Reader.value nesting).Takes (encode (renderIn layout depth m.2)) m.2) :
    (Reader.value (nesting + 1)).Takes (encode (renderIn layout depth (.object members)))
      (.object members) := by
  rw [encode_object]
  refine ⟨⟨0x7B, _, rfl, rfl⟩, fun blank rest hblank _ => ?_⟩
  have hmembers := takesMembers_insert (depth + 1) hl [] hsorted h
  simp only [List.cons_append, List.append_assoc]
  rw [value_object hblank]
  refine (Reader.bind_ok
    (Reader.members_inside hmembers (hl.beforeItem _) (hl.beforeEnd _))).trans ?_
  exact Reader.bind_ok Reader.skip_cons

/-- A plain value is taken if its brackets do not nest too deep. -/
theorem takes_value (hl : layout.IsBlank) (h : v.IsPlain) (hn : v.nesting ≤ nesting)
    (depth : Nat) : (Reader.value nesting).Takes (encode (renderIn layout depth v)) v := by
  induction h generalizing nesting depth with
  | null => exact takes_null
  | bool value => exact takes_bool value
  | integer fits => exact takes_integer fits
  | string s => exact takes_string s
  | array _ ih =>
    obtain ⟨k, rfl, hitems⟩ := nesting_array_le.1 hn
    exact takes_array hl fun v hv depth => ih v hv (hitems v hv) depth
  | object sorted _ ih =>
    obtain ⟨k, rfl, hmembers⟩ := nesting_object_le.1 hn
    exact takes_object hl sorted fun m hm depth => ih m hm (hmembers m hm) depth

end

end ModuleBridge.Json
