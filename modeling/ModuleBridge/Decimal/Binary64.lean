/-!
# Finite doubles

A finite double is a whole number of units `2 ^ exponent`, with a sign. The operations here are
exact arithmetic on natural numbers followed by one rounding, to the nearest double and on a tie to
the one whose last bit is zero.
-/

namespace ModuleBridge.Decimal

/-- A finite double: `mantissa * 2 ^ exponent`, negated if `negative`. The mantissa has 53 bits, or
fewer when the exponent is the least one. -/
structure Binary64 where
  negative : Bool
  mantissa : Nat
  exponent : Int
  deriving DecidableEq, Repr

namespace Binary64

/-- The exponent of the smallest positive double. -/
def leastExponent : Int := -1074

/-- The exponent of the largest double. -/
def greatestExponent : Int := 971

/-- A quotient rounded to the nearest natural number, a tie to the even one. -/
def roundHalfEven (num den : Nat) : Nat :=
  let q := num / den
  let r := num % den
  if 2 * r < den then q
  else if den < 2 * r then q + 1
  else q + q % 2

/-- The quotient `num / den` in units of `2 ^ e`, again as a quotient. -/
def inUnits (num den : Nat) (e : Int) : Nat × Nat :=
  if 0 ≤ e then (num, den * Nat.pow 2 e.toNat) else (num * Nat.pow 2 (-e).toNat, den)

/-- The exponent of the unit in which a positive quotient is a number of 53 bits, but no less than
the least exponent. -/
def unitExponent (num den : Nat) : Int :=
  let e : Int := (num.log2 : Int) - den.log2 - 53
  let (n, d) := inUnits num den e
  max leastExponent (if n / d < Nat.pow 2 53 then e else e + 1)

/-- The double nearest to the positive quotient `num / den`; none if it is beyond all doubles. -/
def ofRatio (num den : Nat) : Option (Nat × Int) :=
  if num = 0 then some (0, leastExponent)
  else
    let e := unitExponent num den
    let (n, d) := inUnits num den e
    let m := roundHalfEven n d
    let (m, e) := if m = Nat.pow 2 53 then (Nat.pow 2 52, e + 1) else (m, e)
    if greatestExponent < e then none else some (m, e)

/-- The double nearest to a natural number, which is to be at most `10 ^ 308`. -/
def ofNat (n : Nat) : Nat × Int :=
  (ofRatio n 1).getD (0, leastExponent)

/-- The value of an unsigned double as a quotient. -/
def ratio (m : Nat) (e : Int) : Nat × Nat :=
  if 0 ≤ e then (m * Nat.pow 2 e.toNat, 1) else (m, Nat.pow 2 (-e).toNat)

/-- The double nearest to `10 ^ k`, for `k` at most 308. -/
def powerOfTen (k : Nat) : Nat × Int :=
  ofNat (Nat.pow 10 k)

/-- The product of two unsigned doubles, rounded; none if it is beyond all doubles. -/
def mul (a b : Nat × Int) : Option (Nat × Int) :=
  let (n, d) := ratio a.1 a.2
  let (p, q) := ratio b.1 b.2
  ofRatio (n * p) (d * q)

/-- The quotient of two unsigned doubles, rounded. The divisor is a power of ten. -/
def div (a b : Nat × Int) : Nat × Int :=
  let (n, d) := ratio a.1 a.2
  let (p, q) := ratio b.1 b.2
  (ofRatio (n * q) (d * p)).getD (0, leastExponent)

/-- The largest power of ten that is a double. -/
def greatestPower : Nat := 308

/-- Divides a double by `10 ^ k`, in steps of the largest power that is a double. Each step
rounds. -/
def divPower (a : Nat × Int) (k : Nat) : Nat × Int :=
  if k ≤ greatestPower then div a (powerOfTen k)
  else if a.1 = 0 then a
  else divPower (div a (powerOfTen greatestPower)) (k - greatestPower)
termination_by k
decreasing_by simp only [greatestPower] at *; omega

/-- The double that a decimal significand and a power of ten are read as: the significand is rounded
to a double and then multiplied or divided by the power, which rounds again. None if it is beyond
all doubles. -/
def ofDecimal (negative : Bool) (significand : Nat) (exponent : Int) : Option Binary64 := do
  let s := ofNat significand
  let (m, e) ←
    if 0 ≤ exponent then
      if exponent ≤ greatestPower then mul s (powerOfTen exponent.toNat)
      else if s.1 = 0 then some s
      else none
    else some (divPower s (-exponent).toNat)
  return ⟨negative, m, e⟩

/-- Zero, with a sign. -/
def zero (negative : Bool) : Binary64 :=
  ⟨negative, 0, leastExponent⟩

end Binary64

end ModuleBridge.Decimal
