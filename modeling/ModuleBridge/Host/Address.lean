import ModuleBridge.Host.Name
import ModuleBridge.Text.Lines

/-!
# Numeric addresses of hosts

A host may be given by its number, which has 32 or 128 bits. A number of 32 bits is written in one
to four parts with dots between them, of which the last one stands for all bits that are left. A
number of 128 bits is written in eight pieces of 16 bits with colons between them, where two colons
stand for a run of zeros; its last two pieces may be written as four bytes with dots.
-/

namespace ModuleBridge.Host

/-- The number that some digits to a base are. -/
def digitsValue (base : Nat) (digits : List Char) : Nat :=
  digits.foldl (fun n c => base * n + (if c.isDigit then c.toNat - '0'.toNat
    else c.toLower.toNat - 'a'.toNat + 10)) 0

/-- Is the character a hexadecimal digit? -/
def isHexadecimal (c : Char) : Bool :=
  c.isDigit || ('a' ≤ c.toLower && c.toLower ≤ 'f')

/-! ## 32 bits -/

/-- The number that a part is: to the base 16 after `0x`, to the base 8 after a zero, and to the
base 10 otherwise. Without digits after these it is zero. -/
def partValue? : List Char → Option Nat
  | [] => none
  | '0' :: 'x' :: digits => if digits.all isHexadecimal then some (digitsValue 16 digits) else none
  | '0' :: c :: digits =>
    if (c :: digits).all fun d => '0' ≤ d && d ≤ '7' then some (digitsValue 8 (c :: digits))
    else none
  | digits => if digits.all Char.isDigit then some (digitsValue 10 digits) else none

/-- The labels of a name without an empty one at the end, if others stand before it. -/
def parts (name : List Char) : List (List Char) :=
  let labels := splitDots name
  if labels.getLast? = some [] then labels.dropLast else labels

/-- Is a name one that must be a number, because its last part is one? -/
def isNumeric (name : List Char) : Bool :=
  match (parts name).getLast? with
  | none => false
  | some part => (!part.isEmpty && part.all Char.isDigit) || (partValue? part).isSome

/-- The largest value of a byte. -/
def byteLimit : Nat := 255

/-- The four bytes of a number. -/
def bytesOf (n : Nat) : List Nat :=
  [n / 0x1000000 % 0x100, n / 0x10000 % 0x100, n / 0x100 % 0x100, n % 0x100]

/-- The bytes of the number that some parts are. -/
def bytes? (parts : List (List Char)) : Option (List Nat) := do
  let values ← parts.mapM partValue?
  match values.getLast? with
  | none => none
  | some last =>
    let front := values.dropLast
    let left := 4 - front.length
    if values.length ≤ 4 && front.all (· ≤ byteLimit) && last < Nat.pow 256 left then
      return front ++ (bytesOf last).drop front.length
    else none

/-- The text of a number of 32 bits. -/
def bytesText (bytes : List Nat) : String :=
  Text.joinWith "." (bytes.map toString)

/-! ## 128 bits -/

/-- The value of a byte without needless zeros in front. -/
def byteValue? (digits : List Char) : Option Nat :=
  if digits.isEmpty || !digits.all Char.isDigit || (digits.head? = some '0' && 1 < digits.length) ||
      byteLimit < digitsValue 10 digits then none
  else some (digitsValue 10 digits)

/-- The two pieces that are written as four bytes. -/
def bytePieces? (cs : List Char) : Option (List Nat) := do
  match ← (splitDots cs).mapM byteValue? with
  | [a, b, c, d] => return [a * 0x100 + b, c * 0x100 + d]
  | _ => none

/-- The most digits of a piece. -/
def pieceDigits : Nat := 4

/-- The pieces that are written, with nothing in the place of two colons, in at most `fuel` steps.
The first of two colons has been read. -/
def piecesWithin : Nat → List Char → Option (List (Option Nat))
  | 0, _ => none
  | _ + 1, [] => some []
  | fuel + 1, ':' :: cs => do return none :: (← piecesWithin fuel cs)
  | fuel + 1, cs =>
    let digits := (cs.take pieceDigits).takeWhile isHexadecimal
    let value := digitsValue 16 digits
    match cs.drop digits.length with
    | [] => some [some value]
    | [':'] => none
    | ':' :: rest => if digits.isEmpty then none else do
      return some value :: (← piecesWithin fuel rest)
    | '.' :: _ => if digits.isEmpty then none else do
      return (← bytePieces? cs).map some
    | _ => none

/-- How many pieces there are. -/
def pieceCount : Nat := 8

/-- The pieces of the number that some characters are. Two colons stand for one zero or more. -/
def pieces? (cs : List Char) : Option (List Nat) := do
  let written ← match cs with
    | ':' :: ':' :: _ => piecesWithin (cs.length + 1) (cs.drop 1)
    | ':' :: _ => none
    | _ => piecesWithin (cs.length + 1) cs
  let values := written.filterMap id
  let gaps := written.length - values.length
  if gaps = 0 && values.length = pieceCount then return values
  else if gaps = 1 && written.length ≤ pieceCount then
    let front := (written.takeWhile Option.isSome).filterMap id
    return front ++ List.replicate (pieceCount - values.length) 0 ++ values.drop front.length
  else none

/-- The length of the run of zeros at the front. -/
def zerosAt (pieces : List Nat) : Nat :=
  (pieces.takeWhile (· = 0)).length

/-- The length of the longest run of zeros. -/
def longestZeros : List Nat → Nat
  | [] => 0
  | p :: ps => max (zerosAt (p :: ps)) (longestZeros ps)

/-- Some pieces with colons between them. -/
def joinPieces (pieces : List Nat) : String :=
  Text.joinWith ":" (pieces.map fun p => String.ofList (Nat.toDigits 16 p))

/-- The first of the longest runs of zeros, with what stands before and after it. The pieces before
are in reverse. -/
def splitZeros (length : Nat) (before : List Nat) : List Nat → List Nat × List Nat
  | [] => (before.reverse, [])
  | p :: ps =>
    if zerosAt (p :: ps) = length then (before.reverse, (p :: ps).drop length)
    else splitZeros length (p :: before) ps

/-- The text of a number of 128 bits. The first of the longest runs of two zeros or more is left
out. -/
def piecesText (pieces : List Nat) : String :=
  let length := longestZeros pieces
  if length < 2 then joinPieces pieces
  else
    let (before, after) := splitZeros length [] pieces
    s!"{joinPieces before}::{joinPieces after}"

end ModuleBridge.Host
