import ModuleBridge.Decimal.Binary64

/-!
# The shortest decimal that reads back

A double stands for all numbers that round to it. Of the decimals among these, its text is one with
the fewest digits, and of those the one nearest to the double; a tie goes to the even digit.
-/

namespace ModuleBridge.Decimal

/-- A positive decimal: digits without a zero in front or behind, and the power of ten of the first
digit. -/
structure Digits where
  digits : List Char
  power : Int
  deriving DecidableEq, Repr

/-- The decimal digits of a natural number. -/
def natDigits (n : Nat) : List Char :=
  Nat.toDigits 10 n

/-- The power of ten of the first digit of a positive quotient. -/
def leadingPower (num den : Nat) : Int :=
  if den ≤ num then (natDigits (num / den)).length - 1
  else
    let n := (natDigits (den / num)).length
    if den = num * Nat.pow 10 (n - 1) then 1 - n else -n

/-- A quotient in units of `10 ^ t`, again as a quotient. -/
def inPowers (num den : Nat) (t : Int) : Nat × Nat :=
  if 0 ≤ t then (num, den * Nat.pow 10 t.toNat) else (num * Nat.pow 10 (-t).toNat, den)

/-- Twice the lower and twice the upper end of the numbers that round to a double, in quarter units
of its last bit. Below the least number of 53 bits the neighbours are closer. -/
def roundingEnds (m : Nat) (e : Int) : Nat × Nat :=
  if m = Nat.pow 2 52 && Binary64.leastExponent < e then (4 * m - 1, 4 * m + 2)
  else (4 * m - 2, 4 * m + 2)

/-- Does the number `k` of units `10 ^ t` round to the double? -/
def roundsTo (m : Nat) (e : Int) (k : Nat) (t : Int) : Bool :=
  let (lo, hi) := roundingEnds m e
  let (p, q) := inPowers k 1 (-t)
  let (u, v) := Binary64.ratio 1 (e - 2)
  let left := lo * u * q
  let middle := p * v
  let right := hi * u * q
  if m % 2 = 0 then left ≤ middle && middle ≤ right else left < middle && middle < right

/-- Which of the two numbers of units `10 ^ t` around a double is its text, if one rounds to it. -/
def onGrid (m : Nat) (e : Int) (t : Int) : Option Nat :=
  let (num, den) := Binary64.ratio m e
  let (n, d) := inPowers num den t
  let k := n / d
  let below := roundsTo m e k t
  let above := roundsTo m e (k + 1) t
  if below && above then
    let r := 2 * (n % d)
    some (if r < d || (r = d && k % 2 = 0) then k else k + 1)
  else if below then some k
  else if above then some (k + 1)
  else none

/-- The first grid with a number that rounds to the double, from `10 ^ t` to finer ones. -/
def firstGrid (m : Nat) (e : Int) : Nat → Int → Nat × Int
  | 0, t => (((Binary64.ratio m e).1 / (Binary64.ratio m e).2), t)
  | fuel + 1, t =>
    match onGrid m e t with
    | some k => (k, t)
    | none => firstGrid m e fuel (t - 1)

/-- The shortest decimal that rounds to a positive double. Seventeen digits always suffice. -/
def shortest (m : Nat) (e : Int) : Digits :=
  let (num, den) := Binary64.ratio m e
  let (k, t) := firstGrid m e 18 (leadingPower num den)
  let ds := natDigits k
  let kept := (ds.reverse.dropWhile (· = '0')).reverse
  ⟨kept, t + (ds.length - 1 : Nat)⟩

/-- Which powers of ten of the first digit are written without an exponent: from the first to the
second, both included. -/
def positionalPowers : Int × Int := (-5, 15)

/-- The text of a positive decimal: positional and with at least one digit after the point when the
power of the first digit is small, otherwise with an exponent and its sign. -/
def Digits.render (d : Digits) : List Char :=
  if positionalPowers.1 ≤ d.power && d.power ≤ positionalPowers.2 then
    if d.power < 0 then
      '0' :: '.' :: List.replicate (-d.power - 1).toNat '0' ++ d.digits
    else
      let whole := d.power.toNat + 1
      let padded := d.digits ++ List.replicate (whole - d.digits.length) '0'
      let decimals := padded.drop whole
      padded.take whole ++ '.' :: (if decimals.isEmpty then ['0'] else decimals)
  else
    let exponent := (if d.power < 0 then ['-'] else ['+']) ++ natDigits d.power.natAbs
    match d.digits with
    | [] => []
    | [c] => c :: 'e' :: exponent
    | c :: cs => c :: '.' :: cs ++ 'e' :: exponent

/-- The text of a double. -/
def Binary64.render (x : Binary64) : List Char :=
  (if x.negative then ['-'] else []) ++
    if x.mantissa = 0 then ['0', '.', '0'] else (shortest x.mantissa x.exponent).render

end ModuleBridge.Decimal
