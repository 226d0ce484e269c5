/-!
# Labels in ASCII

A label of a host's name that has letters beyond ASCII is also written in ASCII alone: first its
letters in ASCII, then numbers that tell where the others go. Those are put in one by one, in the
order of their code points and, for equal ones, from left to right. A state of this work is the code
point last put in and the place after it; going from place to place, and from the last place to the
first one of the next code point, a number is how many states are passed over. `encode` gives the
ASCII form and `decode?` reads it back: Punycode.
-/

namespace ModuleBridge.Host.Punycode

/-- The digit of a value below 36. -/
def digit (value : Nat) : Char :=
  if value < 26 then Char.ofNat ('a'.toNat + value) else Char.ofNat ('0'.toNat + (value - 26))

/-- The value of a digit. -/
def digitValue? (c : Char) : Option Nat :=
  if 'a' ≤ c && c ≤ 'z' then some (c.toNat - 'a'.toNat)
  else if '0' ≤ c && c ≤ '9' then some (c.toNat - '0'.toNat + 26)
  else none

/-- The least value of a digit that does not end a number, if it stands at a position, counted in
steps of 36. It is between 1 and 26. -/
def threshold (bias position : Nat) : Nat :=
  max 1 (min 26 (position - bias))

/-- A threshold is at least one. -/
theorem one_le_threshold (bias position : Nat) : 1 ≤ threshold bias position :=
  Nat.le_max_left ..

/-- How many times a number is divided by 35 before it is at most 455, and what is left of it. -/
def reduce (n : Nat) : Nat × Nat :=
  if 455 < n then
    let (count, rest) := reduce (n / 35)
    (count + 1, rest)
  else (0, n)
termination_by n

/-- The bias for the number after one that was put in when there were `length` letters with it. -/
def adapt (number length : Nat) (isFirst : Bool) : Nat :=
  let n := if isFirst then number / 700 else number / 2
  let (count, rest) := reduce (n + n / length)
  36 * count + 36 * rest / (rest + 38)

/-! ## Writing -/

/-- The digits of a number from a position on. -/
def digits (bias position number : Nat) : List Char :=
  let t := threshold bias position
  if number < t then [digit number]
  else digit (t + (number - t) % (36 - t)) :: digits bias (position + 36) ((number - t) / (36 - t))
termination_by number
decreasing_by
  have := one_le_threshold bias position
  exact Nat.lt_of_le_of_lt (Nat.div_le_self ..) (by omega)

/-- A letter to be put in: its code point, and its place among the letters put in before. -/
structure Insertion where
  code : Nat
  place : Nat
  deriving DecidableEq, Repr

/-- Is the character in ASCII? -/
def isAscii (c : Char) : Bool :=
  c.toNat < 0x80

/-- The letters of a label beyond ASCII, from left to right. Those on the left of them are in
reverse. -/
def insertionsFrom (left : List Char) : List Char → List Insertion
  | [] => []
  | c :: cs =>
    let rest := insertionsFrom (c :: left) cs
    if isAscii c then rest else ⟨c.toNat, left.countP (· ≤ c)⟩ :: rest

/-- The letters of a label beyond ASCII in the order in which they are put in. -/
def insertions (label : List Char) : List Insertion :=
  (insertionsFrom [] label).mergeSort fun a b => a.code ≤ b.code

/-- The state of putting letters in. -/
structure State where
  /-- The code point last put in. -/
  code : Nat := 0x80
  /-- The place after it. -/
  place : Nat := 0
  /-- How many letters there are. -/
  length : Nat
  bias : Nat := 72
  /-- Is no letter put in yet? -/
  isFresh : Bool := true

/-- The state after a number by which a letter was put in. -/
def State.next (s : State) (number code place : Nat) : State where
  code
  place := place + 1
  length := s.length + 1
  bias := adapt number (s.length + 1) s.isFresh
  isFresh := false

/-- The digits by which letters are put in. -/
def writeInsertions (s : State) : List Insertion → List Char
  | [] => []
  | ⟨code, place⟩ :: rest =>
    let number := (code - s.code) * (s.length + 1) + place - s.place
    digits s.bias 36 number ++ writeInsertions (s.next number code place) rest

/-- A label in ASCII. -/
def encode (label : List Char) : List Char :=
  let ascii := label.filter isAscii
  (if ascii.isEmpty then [] else ascii ++ ['-']) ++
    writeInsertions { length := ascii.length } (insertions label)

/-! ## Reading -/

/-- Takes a number off the front of some digits. -/
def number? (bias position weight : Nat) : List Char → Option (Nat × List Char)
  | [] => none
  | c :: cs => do
    let value ← digitValue? c
    let t := threshold bias position
    if value < t then return (value * weight, cs)
    else
      let (number, rest) ← number? bias (position + 36) (weight * (36 - t)) cs
      return (value * weight + number, rest)

/-- A number takes characters. -/
theorem length_lt_of_number? {bias position weight : Nat} {cs rest : List Char} {number : Nat}
    (h : number? bias position weight cs = some (number, rest)) : rest.length < cs.length := by
  induction cs generalizing position weight number with
  | nil => simp [number?] at h
  | cons c cs ih =>
    simp only [number?] at h
    cases hv : digitValue? c with
    | none => simp [hv] at h
    | some value =>
      simp only [hv, Option.bind_eq_bind, Option.bind_some] at h
      split at h
      · simp only [Option.pure_def, Option.some.injEq, Prod.mk.injEq] at h
        simp [← h.2]
      · cases hn : number? bias (position + 36) (weight * (36 - threshold bias position)) cs with
        | none => simp [hn] at h
        | some p =>
          simp only [hn, Option.bind_some, Option.pure_def, Option.some.injEq,
            Prod.mk.injEq] at h
          have := ih (hn.trans (by rw [← h.2]))
          simp only [List.length_cons]
          omega

/-- The letters after those that digits put in. -/
def readInsertions (s : State) (letters : List Char) (cs : List Char) : Option (List Char) :=
  if cs.isEmpty then some letters
  else
    match _h : number? s.bias 36 1 cs with
    | none => none
    | some (number, rest) =>
      let code := s.code + (s.place + number) / (s.length + 1)
      let place := (s.place + number) % (s.length + 1)
      if code.isValidChar then
        readInsertions (s.next number code place)
          (letters.take place ++ Char.ofNat code :: letters.drop place) rest
      else none
termination_by cs.length
decreasing_by exact length_lt_of_number? _h

/-- The label that an ASCII form stands for. -/
def decode? (cs : List Char) : Option (List Char) :=
  let tail := (cs.reverse.takeWhile (· ≠ '-')).reverse
  let ascii := cs.take (cs.length - tail.length - 1)
  let tail := if ascii.isEmpty then cs else tail
  if ascii.all isAscii then readInsertions { length := ascii.length } ascii tail else none

end ModuleBridge.Host.Punycode
