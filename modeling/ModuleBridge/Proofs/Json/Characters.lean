import ModuleBridge.Proofs.Json.Values

/-!
# The characters of a JSON text

The text of a plain value without blanks is made of printable characters of ASCII, but for what its
strings and keys hold. Of these characters, those from U+0020 on are written as they are, and those
below are escaped (`mem_escaped`). So a character that is not printable ASCII is in the text exactly
if a string or a key holds it and it is none of those below U+0020 (`mem_compact_iff`).

In any layout, no more brackets are open at once than the text has bytes (`nesting_le_length`).
-/

namespace ModuleBridge.Json

open Text.Utf8 (encode)

/-- Is the character one of ASCII, and no control character? -/
def isPrintable (c : Char) : Bool :=
  0x20 ≤ c.toNat && c.toNat < 0x7F

/-- The character is in a string of the value, or in a key of one of its objects. -/
inductive Holds (c : Char) : Json → Prop
  | string {s : String} (h : c ∈ s.toList) : Holds c (.string s)
  | item {items : List Json} {v : Json} (hv : v ∈ items) (h : Holds c v) : Holds c (.array items)
  | key {members : List (String × Json)} {m : String × Json} (hm : m ∈ members)
    (h : c ∈ m.1.toList) : Holds c (.object members)
  | member {members : List (String × Json)} {m : String × Json} (hm : m ∈ members)
    (h : Holds c m.2) : Holds c (.object members)

section
variable {c d : Char} {depth : Nat} {v : Json} {s : String} {texts : List (List Char)}

/-! ## Strings -/

theorem le_of_isPrintable (h : isPrintable c = true) : 0x20 ≤ c.toNat := by
  simp only [isPrintable, Bool.and_eq_true, decide_eq_true_eq] at h
  exact h.1

/-- Hexadecimal digits are printable. -/
theorem isPrintable_hexDigit (n : Nat) : isPrintable (hexDigit n) = true := by
  have hall : ∀ d < 16, isPrintable (Nat.digitChar d) = true := by decide
  exact hall (n % 16) (Nat.mod_lt n (by decide))

/-- A character is escaped with printable characters, or is written as it is. -/
theorem mem_escaped (h : d ∈ escaped c) :
    isPrintable d = true ∨ d = c ∧ 0x20 ≤ c.toNat := by
  have hpair (e : Char) (he : isPrintable e = true) (hd : d ∈ ['\\', e]) :
      isPrintable d = true := by
    rw [List.mem_cons, List.mem_singleton] at hd
    rcases hd with rfl | rfl
    · rfl
    · exact he
  unfold escaped at h
  split at h
  · exact .inl (hpair _ rfl h)
  · exact .inl (hpair _ rfl h)
  · exact .inl (hpair _ rfl h)
  · exact .inl (hpair _ rfl h)
  · exact .inl (hpair _ rfl h)
  · exact .inl (hpair _ rfl h)
  · exact .inl (hpair _ rfl h)
  · split at h
    · simp only [List.mem_cons, List.not_mem_nil, or_false] at h
      rcases h with rfl | rfl | rfl | rfl | rfl | rfl
      · exact .inl rfl
      · exact .inl rfl
      · exact .inl rfl
      · exact .inl rfl
      · exact .inl (isPrintable_hexDigit _)
      · exact .inl (isPrintable_hexDigit _)
    · next hlow => exact .inr ⟨List.mem_singleton.1 h, Nat.le_of_not_lt hlow⟩

/-- A character that is no printable one of ASCII is written as it is from U+0020 on. -/
theorem escaped_eq_self (h : isPrintable c = false) (hc : 0x20 ≤ c.toNat) : escaped c = [c] := by
  unfold escaped
  split
  · cases h
  · cases h
  · exact absurd hc (by decide)
  · exact absurd hc (by decide)
  · exact absurd hc (by decide)
  · exact absurd hc (by decide)
  · exact absurd hc (by decide)
  · rw [if_neg (Nat.not_lt.2 hc)]

/-- A character that is no printable one of ASCII is written as it is in a string, from U+0020
on. -/
theorem mem_renderString_iff (h : isPrintable c = false) :
    c ∈ renderString s ↔ c ∈ s.toList ∧ 0x20 ≤ c.toNat := by
  have hquote : c ≠ '"' := by
    rintro rfl
    cases h
  rw [renderString, List.mem_append, List.mem_cons, List.mem_singleton, or_iff_left hquote,
    or_iff_right hquote, List.mem_flatMap]
  constructor
  · rintro ⟨d, hd, hc⟩
    rcases mem_escaped hc with hc | ⟨rfl, hc⟩
    · cases h.symm.trans hc
    · exact ⟨hd, hc⟩
  · rintro ⟨hmem, hc⟩
    exact ⟨c, hmem, by rw [escaped_eq_self h hc, List.mem_singleton]⟩

/-! ## Brackets -/

/-- A character that is not printable comes from one of the separated texts. -/
theorem mem_separated_iff (h : isPrintable c = false) :
    c ∈ separated [','] texts ↔ ∃ t ∈ texts, c ∈ t := by
  have hcomma : c ≠ ',' := by
    rintro rfl
    cases h
  induction texts with
  | nil => simp [separated]
  | cons t rest ih =>
    cases rest with
    | nil => simp [separated]
    | cons t' rest =>
      rw [separated, List.mem_append, List.mem_append, List.mem_singleton, or_iff_left hcomma,
        List.exists_mem_cons_iff]
      · exact or_congr_right ih
      · simp

/-- A character that is not printable comes from one of the items of a container. -/
theorem mem_bracket_iff {opening closing : Char} (h : isPrintable c = false)
    (ho : isPrintable opening = true) (hc : isPrintable closing = true) :
    c ∈ Layout.compact.bracket depth opening closing texts ↔ ∃ t ∈ texts, c ∈ t := by
  have hne {d : Char} (hd : isPrintable d = true) : c ≠ d := by
    rintro rfl
    cases h.symm.trans hd
  have hbefore : texts.map (Layout.compact.beforeItem depth ++ ·) = texts :=
    List.map_id' texts
  rw [Layout.bracket]
  split
  · next hempty => simp [List.isEmpty_iff.1 hempty, hne ho, hne hc]
  · rw [hbefore, List.mem_append, List.mem_append, List.mem_cons, List.mem_singleton,
      or_iff_left (hne hc), or_iff_right (hne ho), mem_separated_iff h]
    exact or_iff_left List.not_mem_nil

/-! ## Values -/

theorem isPrintable_natDigits (n : Nat) (hc : c ∈ Decimal.natDigits n) : isPrintable c = true := by
  have hdigit : c.isDigit = true := Nat.isDigit_of_mem_toDigits (by decide) (by decide) hc
  simp only [Char.isDigit, Bool.and_eq_true, decide_eq_true_eq, UInt32.le_iff_toNat_le] at hdigit
  simp only [isPrintable, Bool.and_eq_true, decide_eq_true_eq]
  have hlow : 0x30 ≤ c.toNat := hdigit.1
  have hhigh : c.toNat ≤ 0x39 := hdigit.2
  omega

/-- A number without a fraction is written with printable characters. -/
theorem isPrintable_of_mem_integer {n : Int} (hc : c ∈ (JsonNumber.integer n).render) :
    isPrintable c = true := by
  rw [JsonNumber.render, List.mem_append] at hc
  rcases hc with hc | hc
  · split at hc
    · rw [List.mem_singleton.1 hc]
      rfl
    · cases hc
  · exact isPrintable_natDigits _ hc

/-- **The characters of a text without blanks.** A character that is no printable one of ASCII is in
the text of a plain value exactly if a string or a key of the value holds it and it is none of those
below U+0020, which are escaped. -/
theorem mem_compact_iff (hv : v.IsPlain) (h : isPrintable c = false) :
    c ∈ renderIn .compact depth v ↔ v.Holds c ∧ 0x20 ≤ c.toNat := by
  have hword {cs : List Char} {v : Json} (hcs : cs.all isPrintable = true) (hv : ¬v.Holds c) :
      c ∈ cs ↔ v.Holds c ∧ 0x20 ≤ c.toNat := by
    refine ⟨fun hc => ?_, fun hc => absurd hc.1 hv⟩
    cases h.symm.trans (List.all_eq_true.1 hcs c hc)
  induction hv generalizing depth with
  | null => exact hword rfl (by rintro ⟨⟩)
  | bool value => cases value <;> exact hword rfl (by rintro ⟨⟩)
  | integer fits =>
    rw [renderIn]
    exact hword (List.all_eq_true.2 fun _ => isPrintable_of_mem_integer) (by rintro ⟨⟩)
  | string s =>
    rw [renderIn, mem_renderString_iff h]
    refine and_congr_left' ⟨.string, ?_⟩
    rintro ⟨hs⟩
    exact hs
  | @array items _ ih =>
    rw [renderIn, renderItems_eq, mem_bracket_iff h rfl rfl]
    constructor
    · rintro ⟨t, ht, hc⟩
      obtain ⟨v, hv, rfl⟩ := List.mem_map.1 ht
      obtain ⟨hheld, hlow⟩ := (ih v hv).1 hc
      exact ⟨.item hv hheld, hlow⟩
    · rintro ⟨hheld, hlow⟩
      cases hheld with
      | item hv hheld => exact ⟨_, List.mem_map_of_mem hv, (ih _ hv).2 ⟨hheld, hlow⟩⟩
  | @object members _ _ ih =>
    have hcolon : c ∉ Layout.compact.afterKey := by
      intro hc
      rw [List.mem_singleton.1 hc] at h
      cases h
    rw [renderIn, renderMembers_eq, mem_bracket_iff h rfl rfl]
    constructor
    · rintro ⟨t, ht, hc⟩
      obtain ⟨m, hm, rfl⟩ := List.mem_map.1 ht
      rw [List.mem_append, List.mem_append, or_iff_left hcolon, mem_renderString_iff h] at hc
      rcases hc with ⟨hkey, hlow⟩ | hc
      · exact ⟨.key hm hkey, hlow⟩
      · obtain ⟨hheld, hlow⟩ := (ih m hm).1 hc
        exact ⟨.member hm hheld, hlow⟩
    · rintro ⟨hheld, hlow⟩
      cases hheld with
      | key hm hkey =>
        refine ⟨_, List.mem_map_of_mem hm, List.mem_append_left _ (List.mem_append_left _ ?_)⟩
        exact (mem_renderString_iff h).2 ⟨hkey, hlow⟩
      | member hm hheld =>
        refine ⟨_, List.mem_map_of_mem hm, List.mem_append_right _ ?_⟩
        exact (ih _ hm).2 ⟨hheld, hlow⟩

/-! ## Lengths -/

/-- No item is longer than its container. -/
theorem Reader.length_le_inside {text : List UInt8} {texts : List (List UInt8)}
    (h : text ∈ texts) (before after : List UInt8) :
    text.length ≤ (Reader.inside before after texts).length := by
  have hothers {texts : List (List UInt8)} (h : text ∈ texts) :
      text.length ≤ (Reader.others before texts).length := by
    have hsub := List.sublist_flatten_of_mem
      (List.mem_map_of_mem (f := fun text => 0x2C :: (before ++ text)) h)
    rw [← List.flatMap_def] at hsub
    have hle := hsub.length_le
    simp only [List.length_cons, List.length_append] at hle
    exact Nat.le_trans (by omega) hle
  cases h with
  | head texts => simp [Reader.inside]; omega
  | @tail text' texts h =>
    have hle := hothers h
    simp [Reader.inside]
    omega

/-- No more brackets are open at once than the text of a value has bytes. -/
theorem nesting_le_length (h : v.IsPlain) (layout : Layout) (depth : Nat) :
    v.nesting ≤ (encode (renderIn layout depth v)).length := by
  induction h generalizing depth with
  | null | bool | integer | string => exact Nat.zero_le _
  | @array items _ ih =>
    rw [encode_array, nesting_array_le]
    refine ⟨_, rfl, fun v hv => Nat.le_trans (ih v hv (depth + 1)) ?_⟩
    have hle := Reader.length_le_inside
      (List.mem_map_of_mem (f := fun v => encode (renderIn layout (depth + 1) v)) hv)
      (encode (layout.beforeItem depth)) (encode (layout.beforeEnd depth))
    simp only [List.length_append]
    omega
  | @object members _ _ ih =>
    rw [encode_object, nesting_object_le]
    refine ⟨_, rfl, fun m hm => Nat.le_trans (ih m hm (depth + 1)) ?_⟩
    have hle := Reader.length_le_inside
      (List.mem_map_of_mem (f := Reader.memberText)
        (List.mem_map_of_mem (f := valueText layout (depth + 1)) hm))
      (encode (layout.beforeItem depth)) (encode (layout.beforeEnd depth))
    have htext : (encode (renderIn layout (depth + 1) m.2)).length ≤
        (Reader.memberText (valueText layout (depth + 1) m)).length := by
      simp only [Reader.memberText, valueText, Text.Utf8.encode_append, List.length_cons,
        List.length_append]
      omega
    simp only [List.length_append]
    omega

end

end ModuleBridge.Json
