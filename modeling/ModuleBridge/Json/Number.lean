import ModuleBridge.Json.Reader

/-!
# Reading numbers

The digits of a number are gathered into a significand as long as it stays below `2 ^ 64`. Digits of
the whole part that do not fit count towards the exponent; later digits that do not fit are dropped.
A number without fraction and exponent is an integer if 64 bits hold it, and a double otherwise.
-/

namespace ModuleBridge.Json

/-- Is the byte a decimal digit? -/
def isDigit (b : UInt8) : Bool :=
  0x30 ≤ b && b ≤ 0x39

/-- The value of a decimal digit. -/
def digitValue (b : UInt8) : Nat :=
  b.toNat - 0x30

/-- The significands that are gathered lie below this bound. -/
def significandBound : Nat := Nat.pow 2 64

/-- Gathers digits into a significand while it stays below the bound. Gives the significand, the
number of digits gathered and what follows them. -/
def gather (significand gathered : Nat) : List UInt8 → Nat × Nat × List UInt8
  | [] => (significand, gathered, [])
  | b :: rest =>
    let next := significand * 10 + digitValue b
    if isDigit b && next < significandBound then gather next (gathered + 1) rest
    else (significand, gathered, b :: rest)

namespace Reader

/-- The double with a decimal significand and exponent. -/
def double (negative : Bool) (significand : Nat) (exponent : Int) : Reader JsonNumber :=
  match Decimal.Binary64.ofDecimal negative significand exponent with
  | some x => return .real x
  | none => failed .numberOutOfRange

/-- The exponents that are gathered lie below this bound. -/
def exponentBound : Nat := Nat.pow 2 31

/-- Reads the digits of an exponent. Beyond the bound the number is zero or out of range, whatever
digits follow. -/
def exponentDigits (negative : Bool) (significand : Nat) (start : Int) (down : Bool)
    (gathered : Nat) : List UInt8 → Except Fault (JsonNumber × List UInt8)
  | [] => double negative significand (if down then start - gathered else start + gathered) []
  | b :: rest =>
    if isDigit b then
      let next := gathered * 10 + digitValue b
      if next < exponentBound then exponentDigits negative significand start down next rest
      else if significand ≠ 0 && !down then failed .numberOutOfRange rest
      else .ok (.real (.zero negative), rest.dropWhile isDigit)
    else
      double negative significand (if down then start - gathered else start + gathered) (b :: rest)

/-- Reads an exponent whose letter has been taken: a sign, perhaps, and at least one digit. -/
def exponent (negative : Bool) (significand : Nat) (start : Int) : Reader JsonNumber := fun rest =>
  let (down, rest) :=
    match rest with
    | 0x2B :: rest => (false, rest)
    | 0x2D :: rest => (true, rest)
    | rest => (false, rest)
  match rest with
  | [] => failed .endInValue []
  | b :: after =>
    if isDigit b then exponentDigits negative significand start down 0 (b :: after)
    else failed .invalidNumber after

/-- Reads what may follow the digits of a number: an exponent or nothing. -/
def exponentOrEnd (negative : Bool) (significand : Nat) (start : Int) : Reader JsonNumber :=
  fun rest =>
  match rest with
  | 0x65 :: rest | 0x45 :: rest => exponent negative significand start rest
  | rest => double negative significand start rest

/-- Reads a fraction whose point has been taken. -/
def fraction (negative : Bool) (significand : Nat) (start : Int) : Reader JsonNumber := fun rest =>
  match rest with
  | [] => failed .endInValue []
  | b :: after =>
    if isDigit b then
      let (significand, gathered, rest) := gather significand 0 (b :: after)
      exponentOrEnd negative significand (start - gathered) (rest.dropWhile isDigit)
    else failed .invalidNumber after

/-- The number that an integer without fraction and exponent is: zero with a minus sign is a double,
and so is an integer that 64 bits do not hold. -/
def ofSignificand (negative : Bool) (significand : Nat) : Reader JsonNumber :=
  if !negative then return .integer significand
  else if 0 < significand && significand ≤ Nat.pow 2 63 then return .integer (-significand)
  else double true significand 0

/-- Reads what may follow the whole part of a number. -/
def afterWhole (negative : Bool) (significand : Nat) : Reader JsonNumber := fun rest =>
  match rest with
  | 0x2E :: rest => fraction negative significand 0 rest
  | 0x65 :: rest | 0x45 :: rest => exponent negative significand 0 rest
  | rest => ofSignificand negative significand rest

/-- Reads what may follow the whole part of a number, `dropped` digits of which did not fit. -/
def afterLong (negative : Bool) (significand dropped : Nat) : Reader JsonNumber := fun rest =>
  match rest with
  | 0x2E :: rest => fraction negative significand dropped rest
  | rest => exponentOrEnd negative significand dropped rest

/-- Reads a number whose minus sign, if it has one, has been taken. A zero in front stands alone. -/
def number (negative : Bool) : Reader JsonNumber := fun rest =>
  match rest with
  | [] => failed .endInValue []
  | 0x30 :: after =>
    match after with
    | b :: later => if isDigit b then failed .invalidNumber later else afterWhole negative 0 after
    | [] => afterWhole negative 0 []
  | b :: after =>
    if isDigit b then
      let (significand, _, rest) := gather 0 0 (b :: after)
      match rest with
      | c :: _ =>
        if isDigit c then
          let later := rest.dropWhile isDigit
          afterLong negative significand (rest.length - later.length) later
        else afterWhole negative significand rest
      | [] => afterWhole negative significand []
    else failed .invalidNumber after

/-- Passes over an exponent whose letter has been taken. -/
def skipExponent : Reader Unit := fun rest =>
  let rest :=
    match rest with
    | 0x2B :: rest | 0x2D :: rest => rest
    | rest => rest
  match rest with
  | [] => failed .invalidNumber []
  | b :: after =>
    if isDigit b then .ok ((), after.dropWhile isDigit) else failed .invalidNumber after

/-- Passes over an exponent, if there is one. -/
def skipExponentOrEnd : Reader Unit := fun rest =>
  match rest with
  | 0x65 :: rest | 0x45 :: rest => skipExponent rest
  | rest => .ok ((), rest)

/-- Passes over a fraction and an exponent, if there are any. -/
def skipFraction : Reader Unit := fun rest =>
  match rest with
  | 0x2E :: [] => failed .invalidNumber []
  | 0x2E :: b :: after =>
    if isDigit b then skipExponentOrEnd (after.dropWhile isDigit) else failed .invalidNumber after
  | rest => skipExponentOrEnd rest

/-- Passes over a number whose minus sign, if it has one, has been taken. Only its form is looked
at. -/
def skipNumber : Reader Unit := fun rest =>
  match rest with
  | [] => failed .invalidNumber []
  | 0x30 :: after =>
    match after with
    | b :: later => if isDigit b then failed .invalidNumber later else skipFraction after
    | [] => skipFraction []
  | b :: after =>
    if isDigit b then skipFraction (after.dropWhile isDigit) else failed .invalidNumber after

end Reader

end ModuleBridge.Json
