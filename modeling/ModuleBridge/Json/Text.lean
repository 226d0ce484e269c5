import ModuleBridge.Json.Reader

/-!
# Reading strings

A string ends at the first quote that no backslash escapes. Its bytes are gathered with the escapes
replaced and then read as UTF-8. Where a string is only passed over, its escapes are looked at just
enough to find its end.
-/

namespace ModuleBridge.Json

/-- The value of a hexadecimal digit. -/
def hexValue? (b : UInt8) : Option Nat :=
  if 0x30 ≤ b && b ≤ 0x39 then some (b.toNat - 0x30)
  else if 0x61 ≤ b && b ≤ 0x66 then some (b.toNat - 0x61 + 10)
  else if 0x41 ≤ b && b ≤ 0x46 then some (b.toNat - 0x41 + 10)
  else none

/-- The value of four hexadecimal digits. -/
def hexUnit? (a b c d : UInt8) : Option Nat := do
  return (((← hexValue? a) * 16 + (← hexValue? b)) * 16 + (← hexValue? c)) * 16 + (← hexValue? d)

/-- Is the unit the first half of a surrogate pair? -/
def isLeading (unit : Nat) : Bool :=
  0xD800 ≤ unit && unit ≤ 0xDBFF

/-- Is the unit the second half of a surrogate pair? -/
def isTrailing (unit : Nat) : Bool :=
  0xDC00 ≤ unit && unit ≤ 0xDFFF

/-- The character of a surrogate pair. -/
def ofSurrogates (leading trailing : Nat) : Char :=
  Char.ofNat (0x10000 + (leading - 0xD800) * 0x400 + (trailing - 0xDC00))

/-- The character that a letter after a backslash stands for. -/
def unescaped? (b : UInt8) : Option Char :=
  match b with
  | 0x22 => some '"'
  | 0x5C => some '\\'
  | 0x2F => some '/'
  | 0x62 => some '\x08'
  | 0x66 => some '\x0c'
  | 0x6E => some '\n'
  | 0x72 => some '\r'
  | 0x74 => some '\t'
  | _ => none

namespace Reader

/-- Reads the four digits of a numbered escape. -/
def hexUnit : Reader Nat
  | a :: b :: c :: d :: rest =>
    match hexUnit? a b c d with
    | some unit => .ok (unit, rest)
    | none => failed .invalidEscape rest
  | _ => failed .endInString []

/-- Reads the second half of a surrogate pair, with its backslash. -/
def trailing (leading : Nat) : Reader Char
  | [] => failed .endInString []
  | b :: rest =>
    if b ≠ 0x5C then failed .endOfHexEscape rest
    else
      match rest with
      | [] => failed .endInString []
      | u :: rest =>
        if u ≠ 0x75 then failed .endOfHexEscape rest
        else
          match hexUnit rest with
          | .error fault => .error fault
          | .ok (unit, rest) =>
            if isTrailing unit then .ok (ofSurrogates leading unit, rest)
            else failed .loneSurrogate rest

/-- Reads an escape whose backslash has been taken. -/
def escape : Reader Char
  | [] => failed .endInString []
  | b :: rest =>
    if b = 0x75 then
      match hexUnit rest with
      | .error fault => .error fault
      | .ok (unit, rest) =>
        if isTrailing unit then failed .loneSurrogate rest
        else if isLeading unit then trailing unit rest
        else .ok (Char.ofNat unit, rest)
    else
      match unescaped? b with
      | some c => .ok (c, rest)
      | none => failed .invalidEscape rest

/-- A unit takes bytes. -/
theorem length_hexUnit {text rest : List UInt8} {unit : Nat} (h : hexUnit text = .ok (unit, rest)) :
    rest.length < text.length := by
  unfold hexUnit at h
  split at h
  · split at h
    · cases h
      simp
      omega
    · simp [failed] at h
  · simp [failed] at h

/-- A second half takes bytes. -/
theorem length_trailing {text rest : List UInt8} {leading : Nat} {c : Char}
    (h : trailing leading text = .ok (c, rest)) : rest.length < text.length := by
  match text with
  | [] => simp [trailing, failed] at h
  | [b] =>
    simp only [trailing] at h
    split at h <;> simp [failed] at h
  | b :: u :: after =>
    simp only [trailing] at h
    split at h
    · simp [failed] at h
    · split at h
      · simp [failed] at h
      · split at h
        · simp at h
        · have := length_hexUnit ‹_›
          split at h
          · simp only [Except.ok.injEq, Prod.mk.injEq] at h
            obtain ⟨-, rfl⟩ := h
            simp
            omega
          · simp [failed] at h

/-- An escape takes bytes. -/
theorem length_escape {text rest : List UInt8} {c : Char} (h : escape text = .ok (c, rest)) :
    rest.length < text.length := by
  match text with
  | [] => simp [escape, failed] at h
  | b :: after =>
    simp only [escape] at h
    split at h
    · split at h
      · simp at h
      · have h1 := length_hexUnit ‹_›
        split at h
        · simp [failed] at h
        · split at h
          · have h2 := length_trailing h
            simp
            omega
          · simp only [Except.ok.injEq, Prod.mk.injEq] at h
            obtain ⟨-, rfl⟩ := h
            simp
            omega
    · split at h
      · simp only [Except.ok.injEq, Prod.mk.injEq] at h
        obtain ⟨-, rfl⟩ := h
        simp
      · simp [failed] at h

/-- Gathers the bytes of a string whose opening quote has been taken, in reverse and after those
gathered already. -/
def stringBytes (gathered : List UInt8) (text : List UInt8) :
    Except Fault (List UInt8 × List UInt8) :=
  match text with
  | [] => failed .endInString []
  | b :: rest =>
    if b = 0x22 then .ok (gathered.reverse, rest)
    else if b = 0x5C then
      match _h : escape rest with
      | .ok (c, after) => stringBytes ((String.utf8EncodeChar c).reverse ++ gathered) after
      | .error fault => .error fault
    else if b < 0x20 then failed .controlCharacter rest
    else stringBytes (b :: gathered) rest
termination_by text.length
decreasing_by
  · have := length_escape _h
    simp
    omega
  · simp

/-- Reads a string whose opening quote has been taken. Bytes that are not UTF-8 are a fault before
the closing quote. -/
def string : Reader String := fun rest =>
  match stringBytes [] rest with
  | .error fault => .error fault
  | .ok (bytes, after) =>
    match Text.Utf8.text? bytes with
    | some s => .ok (s, after)
    | none => .error ⟨.invalidCodePoint, some (after.length + 1)⟩

/-- Passes over a string whose opening quote has been taken. -/
def skipString (text : List UInt8) : Except Fault (Unit × List UInt8) :=
  match text with
  | [] => failed .endInString []
  | b :: rest =>
    if b = 0x22 then .ok ((), rest)
    else if b = 0x5C then
      match rest with
      | [] => failed .endInString []
      | e :: rest =>
        if e = 0x75 then
          match _h : hexUnit rest with
          | .ok (_, after) => skipString after
          | .error fault => .error fault
        else if (unescaped? e).isSome then skipString rest
        else failed .invalidEscape rest
    else if b < 0x20 then failed .controlCharacter text
    else skipString rest
termination_by text.length
decreasing_by
  · have := length_hexUnit _h
    simp
    omega
  all_goals
    simp
    try omega

end Reader

end ModuleBridge.Json
