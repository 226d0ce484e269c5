/-!
# UTF-8

Texts as bytes. `encode` writes every character in one to four bytes; `decode?` reads such bytes
back and refuses all others; `decodeLossy` puts the replacement character in place of each longest
run of bytes that begins a character and does not end one.
-/

namespace ModuleBridge.Text.Utf8

/-- The bytes of a list of characters. -/
def encode (cs : List Char) : List UInt8 :=
  cs.flatMap String.utf8EncodeChar

/-- The bytes of a text. -/
def bytes (s : String) : List UInt8 :=
  encode s.toList

/-- What stands at the front of some bytes. -/
inductive Front
  /-- A character, and the bytes after it. -/
  | char (c : Char) (rest : List UInt8)
  /-- Bytes that are no character, and the bytes after them. -/
  | invalid (rest : List UInt8)

/-- Bytes read of the front, the remaining tail bytes to come and their value so far. The first byte
of the tail lies between `lo` and `hi`, the later ones between 0x80 and 0xBF. -/
def Front.ofTail : Nat → Nat → UInt8 → UInt8 → List UInt8 → Front
  | 0, value, _, _, rest => .char (Char.ofNat value) rest
  | count + 1, value, lo, hi, b :: rest =>
    if lo ≤ b && b ≤ hi then ofTail count (value * 64 + b.toNat % 64) 0x80 0xBF rest
    else .invalid (b :: rest)
  | _ + 1, _, _, _, [] => .invalid []

/-- Takes one character, or the longest beginning of one, off a byte and the bytes that follow
it. -/
def front (b : UInt8) (rest : List UInt8) : Front :=
  if b < 0x80 then .char (Char.ofNat b.toNat) rest
  else if b < 0xC2 then .invalid rest
  else if b < 0xE0 then .ofTail 1 (b.toNat % 32) 0x80 0xBF rest
  else if b == 0xE0 then .ofTail 2 (b.toNat % 16) 0xA0 0xBF rest
  else if b == 0xED then .ofTail 2 (b.toNat % 16) 0x80 0x9F rest
  else if b < 0xF0 then .ofTail 2 (b.toNat % 16) 0x80 0xBF rest
  else if b == 0xF0 then .ofTail 3 (b.toNat % 8) 0x90 0xBF rest
  else if b < 0xF4 then .ofTail 3 (b.toNat % 8) 0x80 0xBF rest
  else if b == 0xF4 then .ofTail 3 (b.toNat % 8) 0x80 0x8F rest
  else .invalid rest

/-- The bytes that `front` leaves. -/
def Front.rest : Front → List UInt8
  | .char _ rest => rest
  | .invalid rest => rest

theorem Front.length_rest_ofTail (count value : Nat) (lo hi : UInt8) (bs : List UInt8) :
    (Front.ofTail count value lo hi bs).rest.length ≤ bs.length := by
  induction bs generalizing count value lo hi with
  | nil => cases count <;> simp [Front.ofTail, Front.rest]
  | cons b bs ih =>
    cases count with
    | zero => simp [Front.ofTail, Front.rest]
    | succ count =>
      simp only [Front.ofTail]
      split
      · exact Nat.le_succ_of_le (ih ..)
      · simp [Front.rest]

/-- Taking a character leaves no more bytes. -/
theorem length_rest_front (b : UInt8) (bs : List UInt8) :
    (front b bs).rest.length ≤ bs.length := by
  unfold front
  repeat' split
  all_goals first | exact Front.length_rest_ofTail .. | simp [Front.rest]

/-- The characters of some bytes, if they are UTF-8. -/
def decode? : List UInt8 → Option (List Char)
  | [] => some []
  | b :: bs =>
    match _h : front b bs with
    | .char c rest => (decode? rest).map (c :: ·)
    | .invalid _ => none
termination_by bs => bs.length
decreasing_by
  have := length_rest_front b bs
  rw [_h] at this
  simp [Front.rest] at this ⊢
  omega

/-- The characters of some bytes, with U+FFFD for what is no character. -/
def decodeLossy : List UInt8 → List Char
  | [] => []
  | b :: bs =>
    match _h : front b bs with
    | .char c rest => c :: decodeLossy rest
    | .invalid rest => '\uFFFD' :: decodeLossy rest
termination_by bs => bs.length
decreasing_by
  all_goals
    have := length_rest_front b bs
    rw [_h] at this
    simp [Front.rest] at this ⊢
    omega

/-- The text of some bytes, if they are UTF-8. -/
def text? (bs : List UInt8) : Option String :=
  (decode? bs).map String.ofList

end ModuleBridge.Text.Utf8
