import ModuleBridge.Toml.Text
import ModuleBridge.Toml.Value

/-!
# Numbers and moments of a configuration

A value without quotes and brackets is a flag, a number, or a moment: a date, a time, or both.
-/

namespace ModuleBridge.Toml

/-- Do the characters begin and end with a digit, with no two underscores in a row? -/
def areDigits (isDigit : Char → Bool) : List Char → Bool
  | [] => false
  | [c] => isDigit c
  | c :: '_' :: cs => isDigit c && areDigits isDigit cs
  | c :: cs => isDigit c && areDigits isDigit cs

/-- Is the character a decimal digit? -/
def isDecimal (c : Char) : Bool :=
  '0' ≤ c && c ≤ '9'

/-- The number that some digits to a base are. Underscores do not count. -/
def digitsValue (base : Nat) (cs : List Char) : Nat :=
  (cs.filterMap hexValue?).foldl (fun n d => base * n + d) 0

/-- Are the digits those of a number without a needless zero in front? -/
def isPlainInteger (cs : List Char) : Bool :=
  areDigits isDecimal cs && (cs.head? ≠ some '0' || cs.length = 1)

/-- The characters after a sign, if there is one, and whether it is a minus. -/
def splitSign : List Char → Bool × List Char
  | '+' :: cs => (false, cs)
  | '-' :: cs => (true, cs)
  | cs => (false, cs)

/-- Is the integer one of 128 bits, with or without a sign? -/
def isInt128 (negative : Bool) (magnitude : Nat) : Bool :=
  if negative then magnitude ≤ Nat.pow 2 127 else magnitude < Nat.pow 2 128

/-- Are the characters written like an integer with digits that it cannot have? Those are not looked
at between underscores, apart from the first and the last. -/
def isLooseInteger (ds : List Char) : Bool :=
  let rest := ds.dropWhile isDecimal
  ds.head? ≠ some '0' && rest.length < ds.length && rest.head? = some '_' &&
    !(rest.any [' ', '.', 'e', 'E'].contains) && (ds.splitOn '_').all fun part =>
      ((part.head?.bind hexValue?).isSome && (part.getLast?.bind hexValue?).isSome)

/-- Is what is written like an integer to a base one? The digits may be missing as it is written. -/
def basedInteger? (isDigit : Char → Bool) (base : Nat) (ds : List Char) : Option Bool :=
  if ds.isEmpty then some false
  else if areDigits isDigit ds then some (isInt128 false (digitsValue base ds))
  else none

/-- Is what is written like an integer one? -/
def integer? (cs : List Char) : Option Bool :=
  match cs with
  | '0' :: 'x' :: ds => basedInteger? (fun c => (hexValue? c).isSome) 16 ds
  | '0' :: 'o' :: ds => basedInteger? (fun c => '0' ≤ c && c ≤ '7') 8 ds
  | '0' :: 'b' :: ds => basedInteger? (fun c => c = '0' || c = '1') 2 ds
  | _ =>
    let (negative, ds) := splitSign cs
    if isPlainInteger ds then some (isInt128 negative (digitsValue 10 ds))
    else if isLooseInteger ds then some false
    else none

/-- The exponent of ten above which every number but zero is too large for a double. -/
def exponentBound : Int := 309

/-- The least number that is too large for a double: halfway from the largest one to the next power
of two. -/
def doubleBound : Nat := (Nat.pow 2 54 - 1) * Nat.pow 2 970

/-- Is the decimal number a double? It is none if it is too large. -/
def isFinite (whole fraction : List Char) (exponent : Int) : Bool :=
  let digits := (whole ++ fraction).filter isDecimal |>.dropWhile (· = '0')
  let exponent := exponent - (fraction.filter isDecimal).length
  if digits.isEmpty then true
  else if exponentBound < digits.length + exponent then false
  else if 0 ≤ exponent then digitsValue 10 digits * Nat.pow 10 exponent.toNat < doubleBound
  else if digits.length + exponent < exponentBound then true
  else digitsValue 10 digits < doubleBound * Nat.pow 10 (-exponent).toNat

/-- The exponent that some characters are, if they are one. -/
def exponent? (cs : List Char) : Option Int :=
  let (negative, ds) := splitSign cs
  if areDigits isDecimal ds then
    some (if negative then -(digitsValue 10 ds : Int) else digitsValue 10 ds)
  else none

/-- Is the character the mark of an exponent? -/
def isExponentMark (c : Char) : Bool :=
  c = 'e' || c = 'E'

/-- Is what is written like a float one? It has a fraction, an exponent, or both, or it is no
number. -/
def float? (cs : List Char) : Option Bool :=
  let (_, ds) := splitSign cs
  if ds = ['i', 'n', 'f'] || ds = ['n', 'a', 'n'] then some true
  else
    let mantissa := ds.takeWhile fun c => !isExponentMark c
    let tail := ds.drop mantissa.length
    let whole := mantissa.takeWhile (· ≠ '.')
    let point := mantissa.drop whole.length
    let exponent := match tail with
      | [] => some 0
      | _ :: e => exponent? e
    match point, exponent with
    | _, none => none
    | [], some e =>
      if !tail.isEmpty && isPlainInteger whole then some (isFinite whole [] e) else none
    | _ :: fraction, some e =>
      if isPlainInteger whole && areDigits isDecimal fraction then
        some (isFinite whole fraction e)
      else none

/-- The number of two digits at the front, if it is no larger than a limit. -/
def twoDigits (limit : Nat) : List Char → Option (Nat × List Char)
  | a :: b :: cs =>
    if isDecimal a && isDecimal b && digitsValue 10 [a, b] ≤ limit then
      some (digitsValue 10 [a, b], cs)
    else none
  | _ => none

/-- Has the year a day more? -/
def isLeapYear (year : Nat) : Bool :=
  year % 4 = 0 && (year % 100 ≠ 0 || year % 400 = 0)

/-- The number of days in a month. -/
def daysIn (year month : Nat) : Nat :=
  if month = 2 then if isLeapYear year then 29 else 28
  else if [4, 6, 9, 11].contains month then 30
  else 31

/-- What follows a date at the front. -/
def afterDate (cs : List Char) : Option (List Char) := do
  let year := cs.take 4
  if year.length ≠ 4 || !year.all isDecimal then none
  else
    match cs.drop 4 with
    | '-' :: cs =>
      let (month, cs) ← twoDigits 12 cs
      match cs with
      | '-' :: cs =>
        let (day, cs) ← twoDigits 31 cs
        if month = 0 || day = 0 || daysIn (digitsValue 10 year) month < day then none
        else return cs
      | _ => none
    | _ => none

/-- What follows the fraction of a second, if there is one. -/
def afterFraction (cs : List Char) : Option (List Char) :=
  match cs with
  | '.' :: cs =>
    if (cs.takeWhile isDecimal).isEmpty then none else some (cs.dropWhile isDecimal)
  | _ => some cs

/-- What follows a time at the front. The seconds may be missing. -/
def afterTime (cs : List Char) : Option (List Char) := do
  let (_, cs) ← twoDigits 23 cs
  match cs with
  | ':' :: cs =>
    let (_, cs) ← twoDigits 59 cs
    match cs with
    | ':' :: cs =>
      let (_, cs) ← twoDigits 60 cs
      afterFraction cs
    | _ => return cs
  | _ => none

/-- What follows hours and minutes at the front. -/
def afterMinutes (cs : List Char) : Option (List Char) := do
  let (_, cs) ← twoDigits 23 cs
  match cs with
  | ':' :: cs => (twoDigits 59 cs).map (·.2)
  | _ => none

/-- Are the characters the offset of a time, or nothing? -/
def isOffset (cs : List Char) : Bool :=
  match cs with
  | [] | ['Z'] | ['z'] => true
  | sign :: cs => (sign = '+' || sign = '-') && afterMinutes cs = some []

/-- Does the character stand between a date and a time? -/
def isDateSeparator (c : Char) : Bool :=
  c = 'T' || c = 't' || c = ' '

/-- Are the characters a date, a time, or both? -/
def isMoment (cs : List Char) : Bool :=
  match afterDate cs with
  | some [] => true
  | some (c :: time) => isDateSeparator c && ((afterTime time).map isOffset).getD false
  | none => afterTime cs = some []

/-- The value that some characters without quotes and brackets are. -/
def scalar? (cs : List Char) : Option Value :=
  if cs = "true".toList then some (.flag true)
  else if cs = "false".toList then some (.flag false)
  else
    match (integer? cs).or (float? cs) with
    | some isNumber => some (.number isNumber)
    | none => if isMoment cs then some (.moment (String.ofList cs)) else none

end ModuleBridge.Toml
