import ModuleBridge.Text.Utf8

/-!
# Percent signs

In an address, a byte may be written as a percent sign and two hexadecimal digits. `decode` reads
such signs and leaves those without digits; `encode` writes the bytes of some characters so.
-/

namespace ModuleBridge.Text.Percent

/-- The value of a hexadecimal digit. -/
def digitValue? (b : UInt8) : Option UInt8 :=
  if 0x30 ≤ b && b ≤ 0x39 then some (b - 0x30)
  else if 0x41 ≤ b && b ≤ 0x46 then some (b - 0x41 + 10)
  else if 0x61 ≤ b && b ≤ 0x66 then some (b - 0x61 + 10)
  else none

/-- The bytes that are written, with those after percent signs read. -/
def decode : List UInt8 → List UInt8
  | 0x25 :: a :: b :: rest =>
    match digitValue? a, digitValue? b with
    | some x, some y => (x * 16 + y) :: decode rest
    | _, _ => 0x25 :: decode (a :: b :: rest)
  | b :: rest => b :: decode rest
  | [] => []

/-- The digit of a value below 16. -/
def digit (value : Nat) : Char :=
  if value < 10 then Char.ofNat ('0'.toNat + value) else Char.ofNat ('A'.toNat + (value - 10))

/-- A byte with a percent sign. -/
def encodeByte (b : UInt8) : List Char :=
  ['%', digit (b.toNat / 16), digit (b.toNat % 16)]

/-- The characters with those of a kind, and those beyond ASCII, written with percent signs. -/
def encode (isEncoded : Char → Bool) (cs : List Char) : List Char :=
  cs.flatMap fun c =>
    if c.toNat < 0x80 && !isEncoded c then [c] else (Utf8.encode [c]).flatMap encodeByte

/-- The characters that some stand for, if those are a text. -/
def decode? (cs : List Char) : Option (List Char) :=
  Utf8.decode? (decode (Utf8.encode cs))

end ModuleBridge.Text.Percent
