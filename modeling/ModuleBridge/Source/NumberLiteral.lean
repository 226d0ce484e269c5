import ModuleBridge.Source.NameCharacter

/-!
# Number literals

A number is decimal, with a fraction, an exponent and a `j` if it likes, or has a base in front.
Underscores stand between digits only. A number ends where no name goes on, unless what goes on is
the beginning of a word that can follow a number.
-/

namespace ModuleBridge.Source

/-- May the character belong to a name, as far as a number in front of it is concerned? -/
def joinsName (c : Char) : Bool :=
  c = '_' || c.isAlphanum || 0x80 ≤ c.toNat

/-- The words that may follow a number without a blank. Of `if`, `in` and `is` the first two letters
decide. -/
def wordsAfterNumber : List (List Char) := [
  ['a', 'n', 'd'], ['e', 'l', 's', 'e'], ['f', 'o', 'r'], ['i', 'f'], ['i', 'n'], ['i', 's'],
  ['o', 'r'], ['n', 'o', 't']]

/-- Does a number end in front of the characters? -/
def endsNumber : List Char → Bool
  | [] => true
  | c :: cs => !joinsName c || wordsAfterNumber.any fun w => w.isPrefixOf (c :: cs)

/-- Takes digits with single underscores between them, the first digit being taken already. Gives
the number of digits taken; none if an underscore is followed by no digit. -/
def digitTail (isDigit : Char → Bool) (count : Nat) : List Char → Option (Nat × List Char)
  | [] => some (count, [])
  | c :: cs =>
    if isDigit c then digitTail isDigit (count + 1) cs
    else if c = '_' then
      match cs with
      | [] => none
      | d :: rest => if isDigit d then digitTail isDigit (count + 1) rest else none
    else some (count, c :: cs)

/-- A number literal: is it imaginary, and what follows it. -/
abbrev NumberEnd := Bool × List Char

/-- Ends a number, unless a name goes on. -/
def endNumber (imaginary : Bool) (cs : List Char) : Option NumberEnd :=
  if endsNumber cs then some (imaginary, cs) else none

/-- Takes the `j` of an imaginary number, if there is one, and ends the number. -/
def imaginaryOrEnd : List Char → Option NumberEnd
  | c :: cs => if c = 'j' || c = 'J' then endNumber true cs else endNumber false (c :: cs)
  | [] => some (false, [])

/-- Takes the digits of an exponent whose letter and sign are taken. -/
def exponentDigits : List Char → Option NumberEnd
  | d :: cs => if d.isDigit then (digitTail Char.isDigit 1 cs).bind (imaginaryOrEnd ·.2) else none
  | [] => none

/-- Takes an exponent, if there is one. A letter `e` that no digits follow is not part of the
number. -/
def exponentOrEnd : List Char → Option NumberEnd
  | e :: cs =>
    if e = 'e' || e = 'E' then
      match cs with
      | '+' :: rest | '-' :: rest => exponentDigits rest
      | d :: rest =>
        if d.isDigit then exponentDigits (d :: rest) else endNumber false (e :: d :: rest)
      | [] => none
    else imaginaryOrEnd (e :: cs)
  | [] => some (false, [])

/-- Takes a fraction whose point is taken. -/
def fraction : List Char → Option NumberEnd
  | d :: cs =>
    if d.isDigit then (digitTail Char.isDigit 1 cs).bind (exponentOrEnd ·.2)
    else exponentOrEnd (d :: cs)
  | [] => some (false, [])

/-- Takes what may follow the whole part of a decimal number: a fraction, an exponent or neither. -/
def fractionOrEnd : List Char → Option NumberEnd
  | '.' :: cs => fraction cs
  | cs => exponentOrEnd cs

/-- Takes the digits of a number whose base is written in front. An underscore may come first. -/
def basedNumber (isDigit : Char → Bool) (cs : List Char) : Option NumberEnd :=
  let cs :=
    match cs with
    | '_' :: rest => rest
    | cs => cs
  match cs with
  | d :: rest =>
    if isDigit d then do
      let (_, rest) ← digitTail isDigit 1 rest
      match rest with
      | c :: _ => if c.isDigit then none else endNumber false rest
      | [] => some (false, [])
    else none
  | [] => none

/-- Is the character a hexadecimal digit? -/
def isHexDigit (c : Char) : Bool :=
  c.isDigit || ('a' ≤ c && c ≤ 'f') || ('A' ≤ c && c ≤ 'F')

/-- Is the character an octal digit? -/
def isOctalDigit (c : Char) : Bool :=
  '0' ≤ c && c ≤ '7'

/-- Is the character a binary digit? -/
def isBinaryDigit (c : Char) : Bool :=
  c = '0' || c = '1'

/-- Are the characters those of a number that goes on after its whole part? -/
def goesOn : List Char → Bool
  | c :: _ => c = '.' || c = 'e' || c = 'E' || c = 'j' || c = 'J'
  | [] => false

/-- Decimal integers other than zero have at most this many digits. -/
def integerDigitLimit : Nat := 4300

/-- Takes a number whose first digit is the given one. An integer that begins with a zero is
zero. -/
def takeNumber (first : Char) (cs : List Char) : Option NumberEnd :=
  match first, cs with
  | '0', 'x' :: rest | '0', 'X' :: rest => basedNumber isHexDigit rest
  | '0', 'o' :: rest | '0', 'O' :: rest => basedNumber isOctalDigit rest
  | '0', 'b' :: rest | '0', 'B' :: rest => basedNumber isBinaryDigit rest
  | _, _ => do
    let (count, rest) ← digitTail Char.isDigit 1 cs
    if goesOn rest then fractionOrEnd rest
    else
      let digits := (first :: cs).take (cs.length + 1 - rest.length)
      if first = '0' then
        if digits.any fun c => c ≠ '0' && c ≠ '_' then none else endNumber false rest
      else if integerDigitLimit < count then none
      else endNumber false rest

end ModuleBridge.Source
