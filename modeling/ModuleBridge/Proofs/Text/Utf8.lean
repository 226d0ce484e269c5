import ModuleBridge.Text.Utf8

/-!
# Decoding what was encoded

The first byte of a character says how many bytes follow it and between which bounds the next one
lies, so the character is read back from its bytes whatever comes after them
(`front_utf8EncodeChar`). A text is read back character by character (`text?_bytes`).
-/

namespace ModuleBridge.Text.Utf8

@[simp] theorem encode_nil : encode [] = [] := rfl

theorem encode_cons (c : Char) (cs : List Char) :
    encode (c :: cs) = String.utf8EncodeChar c ++ encode cs := rfl

@[simp] theorem encode_append (cs ds : List Char) : encode (cs ++ ds) = encode cs ++ encode ds :=
  List.flatMap_append

/-- A character of ASCII is one byte. -/
theorem utf8EncodeChar_ascii {c : Char} (h : c.toNat < 0x80) :
    String.utf8EncodeChar c = [.ofNat c.toNat] := by
  have hval : c.val.toNat = c.toNat := rfl
  unfold String.utf8EncodeChar
  simp only [hval]
  rw [if_pos (by omega)]

/-- An ASCII character is a byte. -/
theorem encode_ascii {c : Char} (h : c.toNat < 0x80) (cs : List Char) :
    encode (c :: cs) = .ofNat c.toNat :: encode cs := by
  rw [encode_cons, utf8EncodeChar_ascii h]
  rfl

theorem toNat_ofNat {b : Nat} (h : b < 256) : (UInt8.ofNat b).toNat = b := by
  rw [UInt8.toNat_ofNat']
  omega

/-- What the first byte of a character says, with the byte given as a number. -/
theorem front_ofNat {b : Nat} (h : b < 256) (rest : List UInt8) :
    front (.ofNat b) rest =
      if b < 0x80 then .char (Char.ofNat b) rest
      else if b < 0xC2 then .invalid rest
      else if b < 0xE0 then .ofTail 1 (b % 32) 0x80 0xBF rest
      else if b = 0xE0 then .ofTail 2 (b % 16) 0xA0 0xBF rest
      else if b = 0xED then .ofTail 2 (b % 16) 0x80 0x9F rest
      else if b < 0xF0 then .ofTail 2 (b % 16) 0x80 0xBF rest
      else if b = 0xF0 then .ofTail 3 (b % 8) 0x90 0xBF rest
      else if b < 0xF4 then .ofTail 3 (b % 8) 0x80 0xBF rest
      else if b = 0xF4 then .ofTail 3 (b % 8) 0x80 0x8F rest
      else .invalid rest := by
  simp only [front, beq_iff_eq, UInt8.lt_iff_toNat_lt, ← UInt8.toNat_inj, toNat_ofNat h]
  rfl

/-- The bytes that go on with a character add their last six bits. -/
theorem ofTail_ofNat {count value b : Nat} {lo hi : UInt8} (hlo : lo.toNat ≤ b) (hhi : b ≤ hi.toNat)
    (rest : List UInt8) :
    Front.ofTail (count + 1) value lo hi (UInt8.ofNat b :: rest) =
      Front.ofTail count (value * 64 + b % 64) 0x80 0xBF rest := by
  have hb : (UInt8.ofNat b).toNat = b := toNat_ofNat (Nat.lt_of_le_of_lt hhi hi.toNat_lt)
  have h : (lo ≤ UInt8.ofNat b && UInt8.ofNat b ≤ hi) = true := by
    simp only [Bool.and_eq_true, decide_eq_true_eq, UInt8.le_iff_toNat_le, hb]
    exact ⟨hlo, hhi⟩
  rw [Front.ofTail, if_pos h, hb]

section
variable {value b₁ b₂ b₃ v : Nat} {lo hi : UInt8} {rest : List UInt8}

/-- A character that ends with one more byte. -/
theorem ofTail_one (h₁ : lo.toNat ≤ b₁ ∧ b₁ ≤ hi.toNat) (hv : value * 64 + b₁ % 64 = v) :
    Front.ofTail 1 value lo hi (.ofNat b₁ :: rest) = .char (Char.ofNat v) rest := by
  rw [ofTail_ofNat h₁.1 h₁.2, Front.ofTail, hv]

/-- A character that ends with two more bytes. -/
theorem ofTail_two (h₁ : lo.toNat ≤ b₁ ∧ b₁ ≤ hi.toNat) (h₂ : 0x80 ≤ b₂ ∧ b₂ ≤ 0xBF)
    (hv : (value * 64 + b₁ % 64) * 64 + b₂ % 64 = v) :
    Front.ofTail 2 value lo hi (.ofNat b₁ :: .ofNat b₂ :: rest) = .char (Char.ofNat v) rest := by
  rw [ofTail_ofNat h₁.1 h₁.2]
  exact ofTail_one h₂ hv

/-- A character that ends with three more bytes. -/
theorem ofTail_three (h₁ : lo.toNat ≤ b₁ ∧ b₁ ≤ hi.toNat) (h₂ : 0x80 ≤ b₂ ∧ b₂ ≤ 0xBF)
    (h₃ : 0x80 ≤ b₃ ∧ b₃ ≤ 0xBF)
    (hv : ((value * 64 + b₁ % 64) * 64 + b₂ % 64) * 64 + b₃ % 64 = v) :
    Front.ofTail 3 value lo hi (.ofNat b₁ :: .ofNat b₂ :: .ofNat b₃ :: rest) =
      .char (Char.ofNat v) rest := by
  rw [ofTail_ofNat h₁.1 h₁.2]
  exact ofTail_two h₂ h₃ hv

end

/-- A character is read off its bytes, whatever comes after them. -/
theorem front_utf8EncodeChar (c : Char) (rest : List UInt8) :
    ∃ b bs, String.utf8EncodeChar c = b :: bs ∧ front b (bs ++ rest) = .char c rest := by
  have hvalid : c.toNat < 0xD800 ∨ 0xDFFF < c.toNat ∧ c.toNat < 0x110000 := c.valid
  have hc : Char.ofNat c.toNat = c := Char.ofNat_toNat c
  have hval : c.val.toNat = c.toNat := rfl
  unfold String.utf8EncodeChar
  simp only [hval]
  generalize c.toNat = v at hvalid hc
  subst hc
  -- one case for each number of bytes, and in it one for each first byte with bounds of its own
  split
  · refine ⟨_, _, rfl, ?_⟩
    rw [front_ofNat (by omega), if_pos (by omega)]
    rfl
  · split
    · refine ⟨_, _, rfl, ?_⟩
      rw [front_ofNat (by omega)]
      simp (disch := omega) only [if_neg, if_pos]
      exact ofTail_one (by simp; omega) (by omega)
    · split
      · refine ⟨_, _, rfl, ?_⟩
        rw [front_ofNat (by omega)]
        simp (disch := omega) only [if_neg]
        split
        · exact ofTail_two (by simp; omega) (by omega) (by omega)
        · split
          · exact ofTail_two (by simp; omega) (by omega) (by omega)
          · rw [if_pos (by omega)]
            exact ofTail_two (by simp; omega) (by omega) (by omega)
      · refine ⟨_, _, rfl, ?_⟩
        rw [front_ofNat (by omega)]
        simp (disch := omega) only [if_neg]
        split
        · exact ofTail_three (by simp; omega) (by omega) (by omega) (by omega)
        · split
          · exact ofTail_three (by simp; omega) (by omega) (by omega) (by omega)
          · rw [if_pos (by omega)]
            exact ofTail_three (by simp; omega) (by omega) (by omega) (by omega)

/-- The bytes of a character beyond ASCII are no characters of ASCII. -/
theorem le_of_mem_utf8EncodeChar {c : Char} (h : 0x80 ≤ c.toNat) {b : UInt8}
    (hb : b ∈ String.utf8EncodeChar c) : 0x80 ≤ b.toNat := by
  have hval : c.val.toNat = c.toNat := rfl
  unfold String.utf8EncodeChar at hb
  simp only [hval] at hb
  rw [if_neg (by omega)] at hb
  generalize c.toNat = v at hb
  split at hb
  · simp only [List.mem_cons, List.not_mem_nil, or_false] at hb
    rcases hb with rfl | rfl <;> rw [toNat_ofNat (by omega)] <;> omega
  · split at hb
    · simp only [List.mem_cons, List.not_mem_nil, or_false] at hb
      rcases hb with rfl | rfl | rfl <;> rw [toNat_ofNat (by omega)] <;> omega
    · simp only [List.mem_cons, List.not_mem_nil, or_false] at hb
      rcases hb with rfl | rfl | rfl | rfl <;> rw [toNat_ofNat (by omega)] <;> omega

/-- A list of characters is read back from its bytes. -/
theorem decode?_encode (cs : List Char) : decode? (encode cs) = some cs := by
  induction cs with
  | nil => rw [encode_nil, decode?]
  | cons c cs ih =>
    obtain ⟨b, bs, hbytes, hfront⟩ := front_utf8EncodeChar c (encode cs)
    rw [encode_cons, hbytes, List.cons_append, decode?, hfront]
    simp only [ih, Option.map_some]

/-- A text is read back from its bytes. -/
theorem text?_bytes (s : String) : text? (bytes s) = some s := by
  rw [text?, bytes, decode?_encode, Option.map_some, String.ofList_toList]

/-- Different texts have different bytes. -/
theorem bytes_inj {s t : String} (h : bytes s = bytes t) : s = t := by
  have hread := congrArg text? h
  rw [text?_bytes, text?_bytes] at hread
  exact Option.some.inj hread

/-- A text is as long as its bytes. -/
theorem length_bytes (s : String) : (bytes s).length = s.utf8ByteSize := by
  have hbytes : s.toByteArray = (bytes s).toByteArray := String.utf8Encode_toList.symm
  rw [String.utf8ByteSize, hbytes, List.size_toByteArray]

end ModuleBridge.Text.Utf8
