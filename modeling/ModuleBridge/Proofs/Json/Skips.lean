import ModuleBridge.Proofs.Json.Values

/-!
# Values that are passed over

A value that nobody asks for is passed over whatever it is, if only it is well formed
(`takes_skipValue`): its strings up to their closing quotes, its numbers up to where their digits
end, its arrays and objects item by item. How many brackets and items are looked for is more than
the text can hold, since each takes a character.
-/

namespace ModuleBridge.Json

open Text.Utf8

section
variable {cs text gap digits whole fraction exponent : List Char} {c : Char} {b : UInt8}
  {rest : List UInt8} {depth count : Nat}

/-- A text has at least as many bytes as characters. -/
theorem length_le_encode (cs : List Char) : cs.length ≤ (encode cs).length := by
  induction cs with
  | nil => exact Nat.zero_le _
  | cons c cs ih =>
    have hc := Char.utf8Size_pos c
    rw [encode_cons, List.length_append, String.length_utf8EncodeChar, List.length_cons]
    omega

/-! ## Strings -/

namespace Reader

/-- Bytes that are neither quotes nor backslashes nor controls are skipped one by one. -/
theorem skipString_append {bs : List UInt8} (h : ∀ b ∈ bs, b ≠ 0x22 ∧ b ≠ 0x5C ∧ ¬ b < 0x20) :
    skipString (bs ++ rest) = skipString rest := by
  induction bs with
  | nil => rfl
  | cons b bs ih =>
    obtain ⟨⟨hquote, hbackslash, hcontrol⟩, hbs⟩ := List.forall_mem_cons.1 h
    rw [List.cons_append, skipString.eq_def]
    simp only [hquote, hbackslash, hcontrol, if_false]
    exact ih hbs

/-- A character of a string is skipped, however it is spelled. -/
theorem skipString_piece (h : IsPiece text) (rest : List UInt8) :
    skipString (encode text ++ rest) = skipString rest := by
  cases h with
  | verbatim h =>
    rw [encode_cons, encode_nil, List.append_nil]
    exact skipString_append (plain_of_mem_utf8EncodeChar h)
  | letter h =>
    obtain ⟨hascii, hunit, hread⟩ := unescaped?_of_letter h
    rw [encode_backslash, encode_ascii hascii, encode_nil, List.cons_append, List.cons_append,
      List.nil_append, skipString.eq_def]
    simp [hunit, hread]
  | unit h =>
    have hunit := hexUnit_of_spells h rest
    rw [encode_backslash_u, List.cons_append, List.cons_append, skipString.eq_def]
    dsimp only
    rw [if_neg (by decide), if_pos rfl, if_pos rfl]
    split
    · next heq =>
      cases hunit.symm.trans heq
      rfl
    · next heq => cases hunit.symm.trans heq

/-- A string is skipped up to its closing quote. -/
theorem skipString_pieces {pieces : List (List Char)} (h : ∀ piece ∈ pieces, IsPiece piece)
    (rest : List UInt8) : skipString (encode pieces.flatten ++ 0x22 :: rest) = .ok ((), rest) := by
  induction pieces with
  | nil =>
    rw [List.flatten_nil, encode_nil, List.nil_append, skipString.eq_def]
    rfl
  | cons piece pieces ih =>
    obtain ⟨hpiece, h⟩ := List.forall_mem_cons.1 h
    rw [List.flatten_cons, encode_append, List.append_assoc, skipString_piece hpiece, ih h]

/-- A string is passed over up to its closing quote, if its opening one has been taken. -/
theorem skipString_of_isString (h : IsString text) :
    ∃ spelled, encode text = 0x22 :: (spelled ++ [0x22]) ∧
      ∀ rest, skipString (spelled ++ 0x22 :: rest) = .ok ((), rest) := by
  obtain ⟨pieces, hpieces, rfl⟩ := h
  refine ⟨encode pieces.flatten, ?_, skipString_pieces hpieces⟩
  rw [encode_ascii (by decide), encode_append]
  rfl

end Reader

/-! ## Numbers -/

/-- No digit follows. -/
def NoDigit (rest : List UInt8) : Prop := ∀ b ∈ rest.head?, isDigit b = false

theorem NoDigit.cons (h : isDigit b = false) : NoDigit (b :: rest) := by
  rintro b' ⟨⟩
  exact h

/-- Where a number ends no digit follows. -/
theorem Ends.noDigit (h : Ends rest) : NoDigit rest := by
  cases rest with
  | nil => exact nofun
  | cons b rest => exact .cons h.isDigit_eq_false

/-- A digit is one byte, which is a digit, and it is the byte of zero for zero only. -/
theorem byte_of_isDigit (h : c.isDigit = true) :
    c.toNat < 0x80 ∧ isDigit (.ofNat c.toNat) = true ∧ (UInt8.ofNat c.toNat = 0x30 → c = '0') := by
  have hall : ∀ n < 58, 48 ≤ n → n < 0x80 ∧ isDigit (.ofNat n) = true ∧
      (UInt8.ofNat n = 0x30 → Char.ofNat n = '0') := by decide
  have hbounds : 48 ≤ c.toNat ∧ c.toNat ≤ 57 := by
    simpa [Char.isDigit, UInt32.le_iff_toNat_le] using h
  have hbyte := hall c.toNat (by omega) hbounds.1
  rwa [Char.ofNat_toNat] at hbyte

/-- Digits are dropped up to where they end. -/
theorem dropWhile_digits (h : ∀ c ∈ cs, c.isDigit = true) (hrest : NoDigit rest) :
    (encode cs ++ rest).dropWhile isDigit = rest := by
  induction cs with
  | nil =>
    cases rest with
    | nil => rfl
    | cons b rest => exact List.dropWhile_cons_of_neg (by simp [hrest b rfl])
  | cons c cs ih =>
    obtain ⟨hc, h⟩ := List.forall_mem_cons.1 h
    obtain ⟨hascii, hdigit, -⟩ := byte_of_isDigit hc
    rw [encode_ascii hascii, List.cons_append, List.dropWhile_cons_of_pos hdigit, ih h]

/-- Digits, of which there is one at least, are a first one and those after it. -/
theorem IsDigits.cons (h : IsDigits digits) : ∃ c cs, digits = c :: cs ∧ c.isDigit = true ∧
    ∀ d ∈ cs, d.isDigit = true := by
  obtain ⟨hne, hall⟩ := h
  obtain ⟨c, cs, rfl⟩ := List.exists_cons_of_ne_nil hne
  exact ⟨c, cs, rfl, List.forall_mem_cons.1 hall⟩

namespace Reader

/-- Sign and digits of an exponent are skipped. -/
theorem skipExponent_of_isDigits {sign : List Char} (hsign : sign ∈ [[], ['+'], ['-']])
    (h : IsDigits digits) (hrest : NoDigit rest) :
    skipExponent (encode (sign ++ digits) ++ rest) = .ok ((), rest) := by
  obtain ⟨c, cs, rfl, hc, hcs⟩ := h.cons
  obtain ⟨hascii, hdigit, -⟩ := byte_of_isDigit hc
  have hdrop := dropWhile_digits hcs hrest
  have hplus : encode ('+' :: c :: cs) = 0x2B :: .ofNat c.toNat :: encode cs := by
    rw [encode_ascii (by decide), encode_ascii hascii]
    rfl
  have hminus : encode ('-' :: c :: cs) = 0x2D :: .ofNat c.toNat :: encode cs := by
    rw [encode_ascii (by decide), encode_ascii hascii]
    rfl
  simp only [List.mem_cons, List.not_mem_nil, or_false] at hsign
  rcases hsign with rfl | rfl | rfl
  · rw [List.nil_append, encode_ascii hascii, List.cons_append, skipExponent, if_pos hdigit, hdrop]
    · rintro rest' heq
      rw [(List.cons.inj heq).1] at hdigit
      cases hdigit
    · rintro rest' heq
      rw [(List.cons.inj heq).1] at hdigit
      cases hdigit
  · rw [List.cons_append, List.nil_append, hplus, List.cons_append, List.cons_append, skipExponent,
      if_pos hdigit, hdrop]
  · rw [List.cons_append, List.nil_append, hminus, List.cons_append, List.cons_append, skipExponent,
      if_pos hdigit, hdrop]

/-- An exponent is skipped, if there is one. -/
theorem skipExponentOrEnd_of_isExponent (h : IsExponent exponent) (hrest : Ends rest) :
    skipExponentOrEnd (encode exponent ++ rest) = .ok ((), rest) := by
  cases h with
  | none =>
    rw [encode_nil, List.nil_append]
    unfold skipExponentOrEnd
    split
    · cases hrest _ rfl
    · cases hrest _ rfl
    · rfl
  | @some letter sign digits hletter hsign h =>
    simp only [List.mem_cons, List.not_mem_nil, or_false] at hletter
    rcases hletter with rfl | rfl
    · exact skipExponent_of_isDigits hsign h hrest.noDigit
    · exact skipExponent_of_isDigits hsign h hrest.noDigit

/-- An exponent and what comes after a number do not begin with a digit or a point. -/
theorem head_exponent (h : IsExponent exponent) (hrest : Ends rest) :
    ∀ b ∈ (encode exponent ++ rest).head?, isDigit b = false ∧ b ≠ 0x2E := by
  cases h with
  | none =>
    intro b hb
    have hends := hrest b hb
    simp only [continuesNumber, Bool.or_eq_false_iff, decide_eq_false_iff_not] at hends
    exact ⟨hends.1.1.1, hends.1.1.2⟩
  | some hletter =>
    simp only [List.mem_cons, List.not_mem_nil, or_false] at hletter
    rcases hletter with rfl | rfl
    · rintro b ⟨⟩
      decide
    · rintro b ⟨⟩
      decide

/-- Fraction and exponent are skipped, as far as they are there. -/
theorem skipFraction_of_isFraction (hf : IsFraction fraction) (he : IsExponent exponent)
    (hrest : Ends rest) :
    skipFraction (encode fraction ++ (encode exponent ++ rest)) = .ok ((), rest) := by
  have hexponent := skipExponentOrEnd_of_isExponent he hrest
  have hhead := head_exponent he hrest
  cases hf with
  | none =>
    rw [encode_nil, List.nil_append]
    generalize encode exponent ++ rest = bytes at hexponent hhead
    unfold skipFraction
    split
    · exact absurd rfl (hhead _ rfl).2
    · exact absurd rfl (hhead _ rfl).2
    · exact hexponent
  | some h =>
    obtain ⟨c, cs, rfl, hc, hcs⟩ := h.cons
    obtain ⟨hascii, hdigit, -⟩ := byte_of_isDigit hc
    have hpoint : encode ('.' :: c :: cs) = 0x2E :: .ofNat c.toNat :: encode cs := by
      rw [encode_ascii (by decide), encode_ascii hascii]
      rfl
    rw [hpoint, List.cons_append, List.cons_append, skipFraction, if_pos hdigit,
      dropWhile_digits hcs fun b hb => (hhead b hb).1, hexponent]

/-- What follows the whole part of a number does not begin with a digit. -/
theorem noDigit_fraction (hf : IsFraction fraction) (he : IsExponent exponent)
    (hrest : Ends rest) : NoDigit (encode fraction ++ (encode exponent ++ rest)) := by
  cases hf with
  | none => exact fun b hb => (head_exponent he hrest b hb).1
  | some h => exact .cons rfl

/-- A number is passed over to where it ends, if its sign has been taken. -/
theorem skipNumber_of_isWhole (hw : IsWhole whole) (hf : IsFraction fraction)
    (he : IsExponent exponent) (hrest : Ends rest) :
    skipNumber (encode whole ++ (encode fraction ++ (encode exponent ++ rest))) =
      .ok ((), rest) := by
  have hfraction := skipFraction_of_isFraction hf he hrest
  have hnext := noDigit_fraction hf he hrest
  cases hw with
  | zero =>
    have hzero : encode ['0'] = [0x30] := rfl
    rw [hzero, List.cons_append, List.nil_append]
    generalize encode fraction ++ (encode exponent ++ rest) = bytes at hfraction hnext
    cases bytes with
    | nil => exact hfraction
    | cons b bytes =>
      have hb : isDigit b = false := hnext b rfl
      rw [skipNumber]
      simp only [hb, Bool.false_eq_true, if_false]
      exact hfraction
  | @digits c cs hc hpositive hcs =>
    obtain ⟨hascii, hdigit, hzero⟩ := byte_of_isDigit hc
    rw [encode_ascii hascii, List.cons_append, skipNumber, if_pos hdigit,
      dropWhile_digits hcs hnext, hfraction]
    exact fun heq => hpositive (hzero heq)

/-! ## Scalars -/

/-- A scalar is passed over as a value if it is passed over where its text begins. -/
theorem takes_skipWithin_of_scalar {bs : List UInt8} (hb : begins b = true) (harray : b ≠ 0x5B)
    (hobject : b ≠ 0x7B)
    (h : ∀ rest, Ends rest → skipScalar b (b :: (bs ++ rest)) = .ok ((), rest)) :
    (skipWithin (depth + 1)).Takes (b :: bs) () := by
  refine ⟨⟨b, bs, rfl, hb⟩, fun blank rest hblank hrest => ?_⟩
  rw [skipWithin]
  refine (bind_ok (peek_eq hblank (begins_iff.1 hb).1)).trans ?_
  simp only [harray, hobject, if_false]
  exact h rest hrest

/-- The words of JSON are skipped. -/
theorem takes_skipWithin_word
    (h : text ∈ [['n', 'u', 'l', 'l'], ['t', 'r', 'u', 'e'], ['f', 'a', 'l', 's', 'e']]) :
    (skipWithin (depth + 1)).Takes (encode text) () := by
  simp only [List.mem_cons, List.not_mem_nil, or_false] at h
  rcases h with rfl | rfl | rfl
  · refine takes_skipWithin_of_scalar (b := 0x6E) rfl (by decide) (by decide) fun rest _ => ?_
    exact (bind_ok skip_cons).trans (word_append nullTail rest)
  · refine takes_skipWithin_of_scalar (b := 0x74) rfl (by decide) (by decide) fun rest _ => ?_
    exact (bind_ok skip_cons).trans (word_append trueTail rest)
  · refine takes_skipWithin_of_scalar (b := 0x66) rfl (by decide) (by decide) fun rest _ => ?_
    exact (bind_ok skip_cons).trans (word_append falseTail rest)

/-- A string is skipped. -/
theorem takes_skipWithin_string (h : IsString text) :
    (skipWithin (depth + 1)).Takes (encode text) () := by
  obtain ⟨spelled, htext, hskip⟩ := skipString_of_isString h
  rw [htext]
  refine takes_skipWithin_of_scalar rfl (by decide) (by decide) fun rest _ => ?_
  rw [List.append_assoc]
  exact (bind_ok skip_cons).trans (hskip rest)

/-- The whole part of a number begins with a digit. -/
theorem exists_isDigit_of_isWhole (h : IsWhole whole) :
    ∃ b bs, encode whole = b :: bs ∧ isDigit b = true := by
  cases h with
  | zero => exact ⟨0x30, [], rfl, rfl⟩
  | digits hc =>
    obtain ⟨hascii, hdigit, -⟩ := byte_of_isDigit hc
    exact ⟨_, _, encode_ascii hascii _, hdigit⟩

/-- A number is skipped. -/
theorem takes_skipWithin_number (h : IsNumber text) :
    (skipWithin (depth + 1)).Takes (encode text) () := by
  cases h with
  | @intro sign whole fraction exponent hsign hw hf he =>
    obtain ⟨b, bs, hwhole, hdigit⟩ := exists_isDigit_of_isWhole hw
    have hskip {rest : List UInt8} (hrest : Ends rest) :=
      skipNumber_of_isWhole hw hf he hrest
    rw [hwhole] at hskip
    simp only [List.mem_cons, List.not_mem_nil, or_false] at hsign
    rcases hsign with rfl | rfl
    · have hne {c : UInt8} (hc : isDigit c = false) : b ≠ c := ne_of_isDigit hdigit hc
      rw [List.nil_append, encode_append, encode_append, hwhole, List.cons_append]
      refine takes_skipWithin_of_scalar (begins_of_isDigit hdigit) (hne rfl) (hne rfl)
        fun rest hrest => ?_
      rw [skipScalar, if_neg (hne rfl), if_neg (hne rfl), if_neg (hne rfl), if_neg (hne rfl),
        if_pos hdigit, List.append_assoc, List.append_assoc]
      exact hskip hrest
    · have hminus : encode (['-'] ++ (whole ++ (fraction ++ exponent))) =
          0x2D :: (b :: bs ++ (encode fraction ++ encode exponent)) := by
        rw [encode_append, encode_append, encode_append, hwhole]
        rfl
      rw [hminus]
      refine takes_skipWithin_of_scalar rfl (by decide) (by decide) fun rest hrest => ?_
      rw [List.append_assoc, List.append_assoc]
      exact (bind_ok skip_cons).trans (hskip hrest)

/-! ## Arrays and objects -/

/-- An item or a member that is passed over, with the blanks around it. It does not begin with the
closing bracket. -/
inductive Passes (item : Reader Unit) (closing : UInt8) : List UInt8 → Prop
  | intro {before bs after : List UInt8} {b : UInt8} (hbefore : Blank before)
    (hafter : Blank after) (hb : b ≠ closing) (takes : item.Takes (b :: bs) ()) :
    Passes item closing (before ++ (b :: (bs ++ after)))

section
variable {item : Reader Unit} {closing : UInt8} {atEnd notEnd : Cause} {lead gap : List UInt8}
  {texts : List (List UInt8)}

/-- A closing bracket or brace is no blank, does not go on with a number and is no comma. -/
theorem closing_spec (h : closing = 0x5D ∨ closing = 0x7D) :
    isSpace closing = false ∧ continuesNumber closing = false ∧ closing ≠ 0x2C := by
  rcases h with rfl | rfl <;> decide

/-- The items after the first one are passed over, and the closing bracket with them. -/
theorem skipItems_others (h : ∀ t ∈ texts, Passes item closing t) (hlead : Blank lead)
    (hgap : Blank gap) (hclosing : closing = 0x5D ∨ closing = 0x7D)
    (hcount : texts.length < count) :
    skipItems item closing atEnd notEnd count false
      (lead ++ (others [] texts ++ (gap ++ closing :: rest))) = .ok ((), rest) := by
  obtain ⟨hspace, hnumber, hcomma⟩ := closing_spec hclosing
  obtain ⟨count, rfl⟩ : ∃ n, count = n + 1 := ⟨count - 1, by omega⟩
  induction texts generalizing lead count with
  | nil =>
    have hblank : Blank (lead ++ gap) := List.forall_mem_append.2 ⟨hlead, hgap⟩
    show skipItems item closing atEnd notEnd (count + 1) false (lead ++ (gap ++ _)) = _
    rw [← List.append_assoc, skipItems]
    refine (bind_ok (peek_eq hblank hspace)).trans ?_
    simp only [if_true]
    rfl
  | cons text texts ih =>
    obtain ⟨htext, hothers⟩ := List.forall_mem_cons.1 h
    obtain ⟨count, rfl⟩ : ∃ n, count = n + 1 := ⟨count - 1, by simp at hcount; omega⟩
    cases htext with
    | @intro before bs after b hbefore hafter hb takes =>
      have hitem := takes.reads before _ hbefore
        (.blank hafter (ends_others hgap hnumber [] texts rest))
      rw [others_cons, skipItems]
      simp only [List.append_assoc, List.cons_append, List.nil_append] at hitem ⊢
      refine (bind_ok (peek_eq hlead rfl)).trans ?_
      simp only [hcomma.symm, Bool.false_eq_true, if_false, if_true]
      refine (bind_ok skip_cons).trans ?_
      refine (bind_ok hitem).trans ?_
      exact ih hothers hafter count (by simpa using hcount)

/-- What stands between brackets is passed over, and the closing bracket with it. -/
theorem skipItems_enclosed {texts : List (List Char)} {gap : List Char}
    (h : ∀ t ∈ texts, Passes item closing (encode t)) (hgap : IsGap gap)
    (hclosing : closing = 0x5D ∨ closing = 0x7D) (hcount : texts.length ≤ count) :
    skipItems item closing atEnd notEnd (count + 1) true
      (encode (separated [','] texts) ++ (encode gap ++ closing :: rest)) = .ok ((), rest) := by
  obtain ⟨hspace, hnumber, -⟩ := closing_spec hclosing
  cases texts with
  | nil =>
    rw [skipItems]
    refine (bind_ok (peek_eq hgap.blank hspace)).trans ?_
    simp only [if_true]
    rfl
  | cons text texts =>
    obtain ⟨htext, hothers⟩ := List.forall_mem_cons.1 h
    rw [encode_separated_listed, List.map_cons, listed]
    generalize encode text = bytes at htext
    cases htext with
    | @intro before bs after b hbefore hafter hb takes =>
      obtain ⟨b', bs', heq, hbegins⟩ := takes.starts
      obtain ⟨rfl, rfl⟩ := List.cons.inj heq
      have hitem := takes.reads [] _ .nil
        (.blank hafter (ends_others hgap.blank hnumber [] (texts.map encode) rest))
      rw [skipItems]
      simp only [List.append_assoc, List.cons_append, List.nil_append] at hitem ⊢
      refine (bind_ok (peek_eq hbefore (begins_iff.1 hbegins).1)).trans ?_
      simp only [hb, if_false, if_true]
      refine (bind_ok hitem).trans ?_
      refine skipItems_others (List.forall_mem_map.2 hothers) hafter hgap.blank hclosing ?_
      rwa [List.length_map]

end

/-- An item is passed over if what stands between its blanks is. -/
theorem passes_item {p : Padded} (h : p.IsSpaced)
    (ht : (skipWithin depth).Takes (encode p.inner) ()) :
    Passes (skipWithin depth) 0x5D (encode p.text) := by
  obtain ⟨b, bs, hinner, hbegins⟩ := ht.starts
  rw [hinner] at ht
  rw [Padded.text, encode_append, encode_append, hinner]
  exact .intro h.before.blank h.after.blank (begins_iff.1 hbegins).2 ht

/-- A member is passed over if its key and its value are. -/
theorem passes_member {m : Member} (h : m.IsSpaced) (hk : IsString m.key.inner)
    (ht : (skipWithin depth).Takes (encode m.value.inner) ()) :
    Passes (do skipKey; skipWithin depth) 0x7D (encode m.text) := by
  obtain ⟨spelled, hkey, hskip⟩ := skipString_of_isString hk
  have htext : encode m.text = encode m.key.before ++ (0x22 :: ((spelled ++ 0x22 ::
      (encode m.key.after ++ 0x3A :: (encode m.value.before ++ encode m.value.inner))) ++
        encode m.value.after)) := by
    have hcolon (cs : List Char) : encode (':' :: cs) = 0x3A :: encode cs := rfl
    simp only [Member.text, Padded.text, encode_append, hkey, hcolon, List.append_assoc,
      List.cons_append, List.nil_append]
  rw [htext]
  refine .intro h.key.before.blank h.value.after.blank (by decide)
    ⟨⟨_, _, rfl, rfl⟩, fun blank rest hblank hrest => ?_⟩
  have hvalue := ht.reads _ rest h.value.before.blank hrest
  have hkeys : skipKey (blank ++ 0x22 :: (spelled ++ 0x22 :: (encode m.key.after ++ 0x3A ::
      (encode m.value.before ++ (encode m.value.inner ++ rest))))) =
        .ok ((), encode m.value.before ++ (encode m.value.inner ++ rest)) := by
    refine (bind_ok (peek_eq hblank rfl)).trans ?_
    refine (bind_ok skip_cons).trans ?_
    exact (bind_ok (hskip _)).trans (colon_eq h.key.after.blank)
  simp only [List.append_assoc, List.cons_append] at hkeys ⊢
  exact (bind_ok hkeys).trans hvalue

/-! ## Values -/

/-- What stands between brackets is shorter than the text, by two characters at least. -/
theorem length_enclosed (opening closing : Char) (gap : List Char) (texts : List (List Char)) :
    (separated [','] texts).length + 2 ≤ (enclosed opening closing gap texts).length := by
  simp only [enclosed, List.length_cons, List.length_append, List.length_nil]
  omega

/-- An array is skipped if its items are, each in a depth of its own. -/
theorem takes_skipWithin_array {texts : List (List Char)}
    (h : ∀ t ∈ texts, Passes (skipWithin depth) 0x5D (encode t)) (hgap : IsGap gap)
    (hcount : texts.length ≤ depth) :
    (skipWithin (depth + 1)).Takes (encode (enclosed '[' ']' gap texts)) () := by
  have htext : encode (enclosed '[' ']' gap texts) =
      0x5B :: (encode (separated [','] texts) ++ (encode gap ++ [0x5D])) := by
    rw [enclosed, encode_ascii (by decide), encode_append, encode_append]
    rfl
  rw [htext]
  refine ⟨⟨0x5B, _, rfl, rfl⟩, fun blank rest hblank _ => ?_⟩
  simp only [List.cons_append, List.append_assoc, List.nil_append]
  rw [skipWithin]
  refine (bind_ok (peek_eq hblank rfl)).trans ?_
  exact (bind_ok skip_cons).trans (skipItems_enclosed h hgap (.inl rfl) hcount)

/-- An object is skipped if its members are, each in a depth of its own. -/
theorem takes_skipWithin_object {texts : List (List Char)}
    (h : ∀ t ∈ texts, Passes (do skipKey; skipWithin depth) 0x7D (encode t)) (hgap : IsGap gap)
    (hcount : texts.length ≤ depth) :
    (skipWithin (depth + 1)).Takes (encode (enclosed '\x7b' '\x7d' gap texts)) () := by
  have htext : encode (enclosed '\x7b' '\x7d' gap texts) =
      0x7B :: (encode (separated [','] texts) ++ (encode gap ++ [0x7D])) := by
    rw [enclosed, encode_ascii (by decide), encode_append, encode_append]
    rfl
  rw [htext]
  refine ⟨⟨0x7B, _, rfl, rfl⟩, fun blank rest hblank _ => ?_⟩
  simp only [List.cons_append, List.append_assoc, List.nil_append]
  rw [skipWithin]
  refine (bind_ok (peek_eq hblank rfl)).trans ?_
  exact (bind_ok skip_cons).trans (skipItems_enclosed h hgap (.inr rfl) hcount)

/-- A value is passed over, if as many brackets may be open as it has characters. -/
theorem takes_skipWithin (h : IsValue text) (hd : text.length ≤ depth) :
    (skipWithin (depth + 1)).Takes (encode text) () := by
  induction h generalizing depth with
  | word h => exact takes_skipWithin_word h
  | number h => exact takes_skipWithin_number h
  | string h => exact takes_skipWithin_string h
  | @array items gap hgap spaced _ ih =>
    have hlength := length_enclosed '[' ']' gap (items.map Padded.text)
    have hcount := count_le_separated [] (items.map Padded.text)
    obtain ⟨depth, rfl⟩ : ∃ n, depth = n + 1 := ⟨depth - 1, by omega⟩
    refine takes_skipWithin_array ?_ hgap (by omega)
    refine List.forall_mem_map.2 fun i hi => passes_item (spaced i hi) (ih i hi ?_)
    have hle := length_le_separated [','] (List.mem_map_of_mem (f := Padded.text) hi)
    have hinner : i.inner.length ≤ i.text.length := by
      simp only [Padded.text, List.length_append]
      omega
    omega
  | @object members gap hgap spaced keys _ ih =>
    have hlength := length_enclosed '\x7b' '\x7d' gap (members.map Member.text)
    have hcount := count_le_separated [] (members.map Member.text)
    obtain ⟨depth, rfl⟩ : ∃ n, depth = n + 1 := ⟨depth - 1, by omega⟩
    refine takes_skipWithin_object ?_ hgap (by omega)
    refine List.forall_mem_map.2 fun m hm => passes_member (spaced m hm) (keys m hm) (ih m hm ?_)
    have hle := length_le_separated [','] (List.mem_map_of_mem (f := Member.text) hm)
    have hinner : m.value.inner.length ≤ m.text.length := by
      simp only [Member.text, Padded.text, List.length_append, List.length_cons]
      omega
    omega

/-- A value that nobody asks for is passed over if it is well formed. -/
theorem takes_skipValue (h : IsValue text) : skipValue.Takes (encode text) () := by
  have htakes {depth : Nat} (hd : text.length ≤ depth) := takes_skipWithin h hd
  refine ⟨(htakes (Nat.le_refl _)).starts, fun blank rest hblank hrest => ?_⟩
  have hle := length_le_encode text
  refine (htakes ?_).reads blank rest hblank hrest
  simp only [List.length_append]
  omega

end Reader

end

end ModuleBridge.Json
