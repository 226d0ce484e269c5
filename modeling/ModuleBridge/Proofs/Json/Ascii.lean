import ModuleBridge.Proofs.Json.Characters

/-!
# Texts in ASCII read back

A character beyond printable ASCII is written as the numbers of its UTF-16 units, which spell it
(`spells_asciiEscaped`). So a string in ASCII is read back like one that is not (`string_ascii`),
and so is what stands between brackets, where a blank follows each comma (`items_spaced`,
`members_spaced`).
-/

namespace ModuleBridge.Json

open Text.Utf8

namespace Reader

/-! ## Strings -/

section
variable {c : Char} {s : String}

/-- A character is that of its surrogate pair. -/
theorem ofNat_surrogates (h : 0x10000 ≤ c.toNat) :
    Char.ofNat (0x10000 + (0xD800 + (c.toNat - 0x10000) / 0x400 - 0xD800) * 0x400 +
      (0xDC00 + (c.toNat - 0x10000) % 0x400 - 0xDC00)) = c := by
  have hnumber : 0x10000 + (0xD800 + (c.toNat - 0x10000) / 0x400 - 0xD800) * 0x400 +
      (0xDC00 + (c.toNat - 0x10000) % 0x400 - 0xDC00) = c.toNat := by omega
  rw [hnumber, Char.ofNat_toNat]

/-- What a character is written as in ASCII spells it. -/
theorem spells_asciiEscaped (c : Char) : SpellsChar (asciiEscaped c) c := by
  have hvalid : c.toNat < 0xD800 ∨ 0xDFFF < c.toNat ∧ c.toNat < 0x110000 := c.valid
  unfold asciiEscaped
  split
  · exact spells_escaped c
  · split
    · obtain ⟨digits, hdigits, hunit⟩ := spells_numbered (n := c.toNat) (by omega)
      have hspells := SpellsChar.unit hunit (by omega)
      rwa [← hdigits, Char.ofNat_toNat] at hspells
    · obtain ⟨first, hfirst, hm⟩ :=
        spells_numbered (n := 0xD800 + (c.toNat - 0x10000) / 0x400) (by omega)
      obtain ⟨second, hsecond, hn⟩ :=
        spells_numbered (n := 0xDC00 + (c.toNat - 0x10000) % 0x400) (by omega)
      have hspells := SpellsChar.pair hm hn (by omega) (by omega)
      rw [ofNat_surrogates (by omega)] at hspells
      rw [hfirst, hsecond]
      exact hspells

/-- A string in ASCII is read back up to its closing quote. -/
theorem string_ascii (s : String) (rest : List UInt8) :
    string (encode (s.toList.flatMap asciiEscaped) ++ 0x22 :: rest) = .ok (s, rest) :=
  string_of_spell spells_asciiEscaped s rest

/-- The bytes of a text's ASCII literal stand between quotes. -/
theorem encode_asciiString (s : String) :
    encode (asciiString s) = 0x22 :: (encode (s.toList.flatMap asciiEscaped) ++ [0x22]) := by
  rw [asciiString, List.cons_append, encode_ascii (by decide), encode_append]
  rfl

/-- A text in printable ASCII is written like one that need not be. -/
theorem asciiString_eq (h : ∀ c ∈ s.toList, c.toNat < 0x7F) : asciiString s = renderString s := by
  have hchars (cs : List Char) (h : ∀ c ∈ cs, c.toNat < 0x7F) :
      cs.flatMap asciiEscaped = cs.flatMap escaped := by
    induction cs with
    | nil => rfl
    | cons c cs ih =>
      obtain ⟨hc, hcs⟩ := List.forall_mem_cons.1 h
      rw [List.flatMap_cons, List.flatMap_cons, ih hcs, asciiEscaped, if_pos hc]
  rw [asciiString, renderString, hchars _ h]

end

/-! ## Brackets -/

/-- Texts with a comma and a blank between them. -/
def spaced : List (List UInt8) → List UInt8
  | [] => []
  | text :: texts => text ++ others [0x20] texts

section
variable {α σ : Type} {item : Reader α} {member : String → σ → Reader σ} {slots slots' : σ}
  {texts : List (List UInt8)} {xs : List α} {ms : List (String × List UInt8)} {rest : List UInt8}

theorem blank_space : Blank [0x20] := by simp [Blank, isSpace]

/-- Items are read with a blank behind each comma. -/
theorem items_spaced (h : List.Forall₂ item.Takes texts xs) :
    items item (spaced texts ++ 0x5D :: rest) = .ok (xs, 0x5D :: rest) := by
  cases h with
  | nil => exact bind_ok (hasItem_end .nil true)
  | cons ht hrest =>
    have hitems : items item ([] ++ (_ ++ (others [0x20] _ ++ ([] ++ 0x5D :: rest)))) = _ :=
      items_lead ht hrest .nil blank_space .nil
    rw [spaced]
    simpa only [List.append_assoc, List.nil_append] using hitems

/-- Members are read with a blank behind each comma. -/
theorem members_spaced (h : TakesMembers member ms slots slots') :
    members string member slots (spaced (ms.map memberText) ++ 0x7D :: rest) =
      .ok (slots', 0x7D :: rest) := by
  cases h with
  | nil => exact bind_ok (hasMember_end .nil true)
  | cons ht hrest =>
    have hmembers : members string member slots
        ([] ++ (_ ++ (others [0x20] _ ++ ([] ++ 0x7D :: rest)))) = _ :=
      members_lead ht hrest .nil blank_space .nil
    rw [List.map_cons, spaced]
    simpa only [List.append_assoc, List.nil_append] using hmembers

end

/-- What is written with a comma and a blank between neighbours. -/
theorem encode_spaced (texts : List (List Char)) :
    encode (separated [',', ' '] texts) = spaced (texts.map encode) := by
  cases texts with
  | nil => rfl
  | cons text texts =>
    induction texts generalizing text with
    | nil => simp [separated, spaced, others]
    | cons text' texts ih =>
      have hcomma : encode [',', ' '] = [0x2C, 0x20] := rfl
      rw [separated, encode_append, encode_append, ih, hcomma]
      · simp [spaced, others_cons]
      · simp

/-- The bytes of an array stand between brackets. -/
theorem encode_asciiArray (texts : List (List Char)) :
    encode (asciiArray texts) = 0x5B :: (spaced (texts.map encode) ++ [0x5D]) := by
  rw [asciiArray, List.cons_append, encode_ascii (by decide), encode_append, encode_spaced]
  rfl

/-- The text of an object whose keys are printable ASCII. -/
theorem encode_asciiObject {members : List (String × List Char)}
    (h : ∀ m ∈ members, ∀ c ∈ m.1.toList, c.toNat < 0x7F) :
    encode (asciiObject members) =
      0x7B :: (spaced ((members.map fun m => (m.1, encode (':' :: ' ' :: m.2))).map memberText) ++
        [0x7D]) := by
  have hmember : ∀ m ∈ members, encode (asciiString m.1 ++ ':' :: ' ' :: m.2) =
      memberText (m.1, encode (':' :: ' ' :: m.2)) := by
    intro m hm
    rw [encode_append, asciiString_eq (h m hm), encode_renderString, memberText]
    simp
  rw [asciiObject, List.cons_append, encode_ascii (by decide), encode_append, encode_spaced,
    List.map_map, List.map_map]
  simp only [Function.comp_def]
  rw [List.map_congr_left hmember]
  rfl

end Reader

/-! ## Characters -/

section
variable {c d : Char} {s : String} {texts : List (List Char)}
  {members : List (String × List Char)}

/-- A numbered escape is printable. -/
theorem isPrintable_of_mem_numbered {unit : Nat} (h : d ∈ numbered unit) :
    isPrintable d = true := by
  simp only [numbered, List.mem_cons, List.not_mem_nil, or_false] at h
  rcases h with rfl | rfl | rfl | rfl | rfl | rfl
  · rfl
  · rfl
  · exact isPrintable_hexDigit _
  · exact isPrintable_hexDigit _
  · exact isPrintable_hexDigit _
  · exact isPrintable_hexDigit _

/-- The ASCII form of a character is printable. -/
theorem isPrintable_of_mem_asciiEscaped (h : d ∈ asciiEscaped c) : isPrintable d = true := by
  unfold asciiEscaped at h
  split at h
  · next hlow =>
    rcases mem_escaped h with hd | ⟨rfl, hc⟩
    · exact hd
    · simp [isPrintable, hc, hlow]
  · split at h
    · exact isPrintable_of_mem_numbered h
    · rcases List.mem_append.1 h with h | h
      · exact isPrintable_of_mem_numbered h
      · exact isPrintable_of_mem_numbered h

/-- A string in ASCII has printable characters only, whatever it stands for. -/
theorem isPrintable_of_mem_asciiString (h : d ∈ asciiString s) : isPrintable d = true := by
  rw [asciiString, List.mem_append, List.mem_cons, List.mem_singleton] at h
  rcases h with (rfl | h) | rfl
  · rfl
  · obtain ⟨c, -, hc⟩ := List.mem_flatMap.1 h
    exact isPrintable_of_mem_asciiEscaped hc
  · rfl

/-- Printable texts with separators are printable. -/
theorem isPrintable_of_mem_separated (ht : ∀ t ∈ texts, ∀ c ∈ t, isPrintable c = true)
    (h : d ∈ separated [',', ' '] texts) : isPrintable d = true := by
  induction texts with
  | nil => cases h
  | cons t rest ih =>
    obtain ⟨hfirst, hrest⟩ := List.forall_mem_cons.1 ht
    cases rest with
    | nil => exact hfirst d h
    | cons t' rest =>
      rw [separated, List.mem_append, List.mem_append] at h
      · rcases h with (h | h) | h
        · exact hfirst d h
        · have hblank : [',', ' '].all isPrintable = true := by decide
          exact List.all_eq_true.1 hblank d h
        · exact ih hrest h
      · simp

/-- An array of printable texts is printable. -/
theorem isPrintable_of_mem_asciiArray (ht : ∀ t ∈ texts, ∀ c ∈ t, isPrintable c = true)
    (h : d ∈ asciiArray texts) : isPrintable d = true := by
  rw [asciiArray, List.mem_append, List.mem_cons, List.mem_singleton] at h
  rcases h with (rfl | h) | rfl
  · rfl
  · exact isPrintable_of_mem_separated ht h
  · rfl

/-- An object of printable members is printable. -/
theorem isPrintable_of_mem_asciiObject (hm : ∀ m ∈ members, ∀ c ∈ m.2, isPrintable c = true)
    (h : d ∈ asciiObject members) : isPrintable d = true := by
  rw [asciiObject, List.mem_append, List.mem_cons, List.mem_singleton] at h
  rcases h with (rfl | h) | rfl
  · rfl
  · refine isPrintable_of_mem_separated (fun t ht c hc => ?_) h
    obtain ⟨m, hmem, rfl⟩ := List.mem_map.1 ht
    rw [List.mem_append, List.mem_cons, List.mem_cons] at hc
    rcases hc with hc | rfl | rfl | hc
    · exact isPrintable_of_mem_asciiString hc
    · rfl
    · rfl
    · exact hm m hmem c hc
  · rfl

end

end ModuleBridge.Json
