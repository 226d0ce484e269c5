import ModuleBridge.Json.Ascii
import ModuleBridge.Json.Text
import ModuleBridge.Proofs.Json.Grammar
import ModuleBridge.Proofs.Text.Utf8

/-!
# Strings read back

However a character is spelled between quotes, its own bytes are gathered (`stringBytes_of_spells`),
so a string is read from any of its spellings up to its closing quote, whatever comes after it
(`string_of_spells`). What a string is written as is one of its spellings (`spells_escaped`).
-/

namespace ModuleBridge.Json

open Text.Utf8

section
variable {cs digits text : List Char} {c : Char} {d n : Nat} {s : String}
  {bs gathered rest after : List UInt8} {spellings : List (List Char)}

/-! ## Numbered escapes -/

/-- A hexadecimal digit is one byte, from which its value is read. -/
theorem IsHexDigit.byte (h : IsHexDigit c d) :
    c.toNat < 0x80 ∧ hexValue? (.ofNat c.toNat) = some d := by
  have hlower : ∀ d < 16, (Nat.digitChar d).toNat < 0x80 ∧
      hexValue? (.ofNat (Nat.digitChar d).toNat) = some d := by decide
  have hupper : ∀ d < 16, (Nat.digitChar d).toUpper.toNat < 0x80 ∧
      hexValue? (.ofNat (Nat.digitChar d).toUpper.toNat) = some d := by decide
  obtain ⟨hd, rfl | rfl⟩ := h
  · exact hlower d hd
  · exact hupper d hd

/-- A digit that is written is one that is read, with the same value. -/
theorem isHexDigit_hexDigit (n : Nat) : IsHexDigit (hexDigit n) (n % 16) :=
  ⟨Nat.mod_lt n (by decide), .inl rfl⟩

/-- A numbered escape spells the unit with this number. -/
theorem spells_numbered (h : n < 0x10000) : ∃ digits, numbered n = '\\' :: 'u' :: digits ∧
    SpellsUnit digits n := by
  have hvalue : ((n / 0x1000 % 16 * 16 + n / 0x100 % 16) * 16 + n / 0x10 % 16) * 16 + n % 16 =
      n := by omega
  have hunit := SpellsUnit.intro (isHexDigit_hexDigit (n / 0x1000))
    (isHexDigit_hexDigit (n / 0x100)) (isHexDigit_hexDigit (n / 0x10)) (isHexDigit_hexDigit n)
  rw [hvalue] at hunit
  exact ⟨_, rfl, hunit⟩

/-- The escape of a control character by its number. -/
theorem numbered_eq (h : n < 0x20) :
    numbered n = ['\\', 'u', '0', '0', hexDigit (n / 16), hexDigit n] := by
  have hthousands : n / 0x1000 = 0 := by omega
  have hhundreds : n / 0x100 = 0 := by omega
  rw [numbered, hthousands, hhundreds]
  rfl

namespace Reader

/-- A unit is read from its digits. -/
theorem hexUnit_of_spells (h : SpellsUnit digits n) (rest : List UInt8) :
    hexUnit (encode digits ++ rest) = .ok (n, rest) := by
  cases h with
  | intro ha hb hc hd =>
    obtain ⟨ha', hi⟩ := ha.byte
    obtain ⟨hb', hj⟩ := hb.byte
    obtain ⟨hc', hk⟩ := hc.byte
    obtain ⟨hd', hl⟩ := hd.byte
    rw [encode_ascii ha', encode_ascii hb', encode_ascii hc', encode_ascii hd', encode_nil]
    simp [hexUnit, hexUnit?, hi, hj, hk, hl]

/-- A unit that is no half of a surrogate pair is read as its character. -/
theorem escape_of_unit {bytes : List UInt8} (h : hexUnit bytes = .ok (n, rest))
    (whole : n < 0xD800 ∨ 0xDFFF < n) : escape (0x75 :: bytes) = .ok (Char.ofNat n, rest) := by
  have htrailing : isTrailing n = false := by
    simp [isTrailing]
    omega
  have hleading : isLeading n = false := by
    simp [isLeading]
    omega
  simp [escape, h, htrailing, hleading]

/-- The two halves of a surrogate pair are read as one character. -/
theorem escape_of_pair {m : Nat} {bytes : List UInt8}
    (hm : hexUnit bytes = .ok (m, 0x5C :: 0x75 :: after)) (hn : hexUnit after = .ok (n, rest))
    (leading : 0xD800 ≤ m ∧ m ≤ 0xDBFF) (trailing : 0xDC00 ≤ n ∧ n ≤ 0xDFFF) :
    escape (0x75 :: bytes) = .ok (ofSurrogates m n, rest) := by
  have hfirst : isTrailing m = false := by
    simp [isTrailing]
    omega
  have hleading : isLeading m = true := by simpa [isLeading] using leading
  have htrailing : isTrailing n = true := by simpa [isTrailing] using trailing
  have hsecond : Reader.trailing m (0x5C :: 0x75 :: after) = .ok (ofSurrogates m n, rest) := by
    simp [Reader.trailing, hn, htrailing]
  simp [escape, hm, hfirst, hleading, hsecond]

/-! ## Characters -/

/-- Bytes that are no quote, no backslash and no control character are gathered as they are. -/
theorem stringBytes_append (h : ∀ b ∈ bs, b ≠ 0x22 ∧ b ≠ 0x5C ∧ ¬ b < 0x20) :
    stringBytes gathered (bs ++ rest) = stringBytes (bs.reverse ++ gathered) rest := by
  induction bs generalizing gathered with
  | nil => rfl
  | cons b bs ih =>
    obtain ⟨hquote, hbackslash, hcontrol⟩ := h b List.mem_cons_self
    rw [List.cons_append, stringBytes, if_neg hquote, if_neg hbackslash, if_neg hcontrol,
      ih fun b' hb => h b' (.tail _ hb), List.reverse_cons, List.append_assoc]
    rfl

/-- An escape is gathered as the bytes of its character. -/
theorem stringBytes_of_escape {bytes : List UInt8} (h : escape bytes = .ok (c, rest)) :
    stringBytes gathered (0x5C :: bytes) =
      stringBytes ((String.utf8EncodeChar c).reverse ++ gathered) rest := by
  rw [stringBytes, if_neg (by decide), if_pos rfl, h]

/-- The bytes of a character that stands for itself are no quote, no backslash and no control
characters. -/
theorem plain_of_mem_utf8EncodeChar (h : IsVerbatim c) :
    ∀ b ∈ String.utf8EncodeChar c, b ≠ 0x22 ∧ b ≠ 0x5C ∧ ¬ b < 0x20 := by
  intro b hb
  simp only [ne_eq, ← UInt8.toNat_inj, UInt8.lt_iff_toNat_lt]
  by_cases hascii : c.toNat < 0x80
  · rw [utf8EncodeChar_ascii hascii, List.mem_singleton] at hb
    have hne (d : Char) (h : c ≠ d) : c.toNat ≠ d.toNat := fun e => h (Char.toNat_inj.1 e)
    rw [hb, toNat_ofNat (by omega)]
    exact ⟨hne '"' h.quote, hne '\\' h.backslash, Nat.not_lt.2 h.printable⟩
  · have h := le_of_mem_utf8EncodeChar (by omega) hb
    simp
    omega

/-- The letter of an escape is one byte other than the `u` of a number, from which its character is
read. -/
theorem unescaped?_of_letter {letter : Char} (h : (letter, c) ∈ letterEscapes) :
    letter.toNat < 0x80 ∧ UInt8.ofNat letter.toNat ≠ 0x75 ∧
      unescaped? (.ofNat letter.toNat) = some c := by
  have hall : ∀ p ∈ letterEscapes, p.1.toNat < 0x80 ∧ UInt8.ofNat p.1.toNat ≠ 0x75 ∧
      unescaped? (.ofNat p.1.toNat) = some p.2 := by decide
  exact hall _ h

/-- A backslash is one byte. -/
theorem encode_backslash (text : List Char) : encode ('\\' :: text) = 0x5C :: encode text := rfl

/-- The mark of a numbered escape is two bytes. -/
theorem encode_backslash_u (text : List Char) :
    encode ('\\' :: 'u' :: text) = 0x5C :: 0x75 :: encode text := rfl

/-- What a character is spelled as is gathered as its bytes. -/
theorem stringBytes_of_spells (h : SpellsChar text c) (gathered rest : List UInt8) :
    stringBytes gathered (encode text ++ rest) =
      stringBytes ((String.utf8EncodeChar c).reverse ++ gathered) rest := by
  cases h with
  | verbatim h =>
    rw [encode_cons, encode_nil, List.append_nil]
    exact stringBytes_append (plain_of_mem_utf8EncodeChar h)
  | letter h =>
    obtain ⟨hascii, hunit, hread⟩ := unescaped?_of_letter h
    rw [encode_backslash, encode_ascii hascii, encode_nil]
    refine stringBytes_of_escape ?_
    simp [escape, hunit, hread]
  | unit h whole =>
    rw [encode_backslash_u]
    exact stringBytes_of_escape (escape_of_unit (hexUnit_of_spells h rest) whole)
  | pair hm hn leading trailing =>
    rw [encode_backslash_u, encode_append, encode_backslash_u]
    simp only [List.cons_append, List.append_assoc]
    exact stringBytes_of_escape
      (escape_of_pair (hexUnit_of_spells hm _) (hexUnit_of_spells hn rest) leading trailing)

/-! ## Strings -/

/-- The bytes of a string are read from the spellings of its characters. -/
theorem stringBytes_of_spellings (h : List.Forall₂ SpellsChar spellings cs)
    (gathered rest : List UInt8) :
    stringBytes gathered (encode spellings.flatten ++ 0x22 :: rest) =
      .ok (gathered.reverse ++ encode cs, rest) := by
  induction h generalizing gathered with
  | nil =>
    rw [List.flatten_nil, encode_nil, List.nil_append, List.append_nil, stringBytes, if_pos rfl]
  | cons hc _ ih =>
    rw [List.flatten_cons, encode_append, List.append_assoc, stringBytes_of_spells hc, ih,
      encode_cons]
    simp

/-- A string is read up to its closing quote, if each character is spelled. -/
theorem string_of_spellings (h : List.Forall₂ SpellsChar spellings s.toList) (rest : List UInt8) :
    string (encode spellings.flatten ++ 0x22 :: rest) = .ok (s, rest) := by
  rw [string, stringBytes_of_spellings h, List.reverse_nil, List.nil_append]
  simp only [← bytes.eq_def, text?_bytes]

/-- A string is read from any of its spellings. -/
theorem string_of_spells (h : SpellsString text s) :
    ∃ spelled, encode text = 0x22 :: (spelled ++ [0x22]) ∧
      ∀ rest, string (spelled ++ 0x22 :: rest) = .ok (s, rest) := by
  obtain ⟨spellings, hspellings, rfl⟩ := h
  refine ⟨encode spellings.flatten, ?_, string_of_spellings hspellings⟩
  rw [encode_ascii (by decide), encode_append]
  rfl

end Reader

/-! ## What strings are written as -/

/-- Characters that are each spelled in one way. -/
theorem spells_map {spell : Char → List Char} (h : ∀ c, SpellsChar (spell c) c) (cs : List Char) :
    List.Forall₂ SpellsChar (cs.map spell) cs :=
  List.forall₂_map_left_iff.2 (List.forall₂_same.2 fun c _ => h c)

/-- A string is read back however each of its characters is spelled. -/
theorem Reader.string_of_spell {spell : Char → List Char} (h : ∀ c, SpellsChar (spell c) c)
    (s : String) (rest : List UInt8) :
    string (encode (s.toList.flatMap spell) ++ 0x22 :: rest) = .ok (s, rest) := by
  rw [List.flatMap_def]
  exact string_of_spellings (spells_map h s.toList) rest

/-- What a character is written as spells it. -/
theorem spells_escaped (c : Char) : SpellsChar (escaped c) c := by
  unfold escaped
  split
  · exact .letter (by decide)
  · exact .letter (by decide)
  · exact .letter (by decide)
  · exact .letter (by decide)
  · exact .letter (by decide)
  · exact .letter (by decide)
  · exact .letter (by decide)
  · next hquote hbackslash _ _ _ _ _ =>
    split
    · next hcontrol =>
      obtain ⟨digits, hnumbered, hunit⟩ := spells_numbered (n := c.toNat) (by omega)
      have hspells := SpellsChar.unit hunit (.inl (by omega))
      rwa [← hnumbered, numbered_eq hcontrol, Char.ofNat_toNat] at hspells
    · next hcontrol => exact .verbatim ⟨Nat.le_of_not_lt hcontrol, hquote, hbackslash⟩

/-- The literal of a text spells it. -/
theorem spells_renderString (s : String) : SpellsString (renderString s) s := by
  refine ⟨_, spells_map spells_escaped s.toList, ?_⟩
  rw [renderString, List.flatMap_def]
  rfl

namespace Reader

/-- A string is read back from the escaped forms of its characters. -/
theorem string_escaped (s : String) (rest : List UInt8) :
    string (encode (s.toList.flatMap escaped) ++ 0x22 :: rest) = .ok (s, rest) :=
  string_of_spell spells_escaped s rest

/-- A string is written with a quote, its characters and another quote. -/
theorem encode_renderString (s : String) :
    encode (renderString s) = 0x22 :: (encode (s.toList.flatMap escaped) ++ [0x22]) := by
  rw [renderString, List.cons_append, encode_ascii (by decide), encode_append]
  rfl

end Reader

end

end ModuleBridge.Json
