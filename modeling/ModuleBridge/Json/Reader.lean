import ModuleBridge.Json.Fault
import ModuleBridge.Text.Utf8

/-!
# Reading off the front of a text

A reader takes bytes off the front of a text or finds a fault in them. A fault is found either in
what was just read or in the next byte: `failed` and `failedNext` place it so. `hasItem` and
`hasMember` decide whether a list or an object goes on, and `items` and `members` read one to its
closing bracket, which they leave.
-/

namespace ModuleBridge.Json

/-- Takes a value off the front of a text, or finds a fault in it. -/
abbrev Reader (α : Type) := StateT (List UInt8) (Except Fault) α

namespace Reader

/-- The fault lies in the bytes read so far. -/
def failed (cause : Cause) : Reader α :=
  fun rest => .error ⟨cause, some rest.length⟩

/-- The fault lies in the next byte. -/
def failedNext (cause : Cause) : Reader α :=
  fun rest => .error ⟨cause, some (rest.length - 1)⟩

/-- Is the byte a blank between tokens? -/
def isSpace (b : UInt8) : Bool :=
  b = 0x20 || b = 0x09 || b = 0x0A || b = 0x0D

/-- Passes over blanks and shows the byte after them, if there is one. -/
def peek : Reader (Option UInt8) := fun rest =>
  let rest := rest.dropWhile isSpace
  .ok (rest.head?, rest)

/-- Takes one byte. -/
def skip : Reader Unit := fun rest =>
  .ok ((), rest.drop 1)

/-- Takes the letters of a word whose first letter has been taken. -/
def word : List UInt8 → Reader Unit
  | [], rest => .ok ((), rest)
  | _ :: _, [] => .error ⟨.endInValue, some 0⟩
  | w :: ws, b :: rest =>
    if b = w then word ws rest else .error ⟨.wordExpected, some rest.length⟩

/-- Passes over blanks and takes the colon after a key. -/
def colon : Reader Unit := do
  match ← peek with
  | none => failedNext .endInObject
  | some 0x3A => skip
  | some _ => failedNext .colonExpected

/-- Decides whether an array has another item, and takes the comma before it. -/
def hasItem (first : Bool) : Reader Bool := do
  match ← peek with
  | none => failedNext .endInArray
  | some 0x5D => return false
  | some 0x2C =>
    if first then return true
    else
      skip
      match ← peek with
      | none => failedNext .endInValue
      | some 0x5D => failedNext .trailingComma
      | some _ => return true
  | some _ => if first then return true else failedNext .arrayEndExpected

/-- Decides whether an object has another member, and takes the comma before it and the quote that
opens its key. -/
def hasMember (first : Bool) : Reader Bool := do
  match ← peek with
  | none => failedNext .endInObject
  | some 0x7D => return false
  | some b =>
    if first then
      if b = 0x22 then
        skip
        return true
      else failedNext .keyNotString
    else if b = 0x2C then
      skip
      match ← peek with
      | none => failedNext .endInValue
      | some 0x22 =>
        skip
        return true
      | some 0x7D => failedNext .trailingComma
      | some _ => failedNext .keyNotString
    else failedNext .objectEndExpected

/-- At most `count` items of an array, each read by `item`. -/
def itemsUpTo (item : Reader α) : Nat → Bool → Reader (List α)
  | 0, _ => return []
  | count + 1, first => do
    if ← hasItem first then
      let x ← item
      let xs ← itemsUpTo item count false
      return x :: xs
    else return []

/-- The items of an array, each read by `item`. There are no more items than bytes. -/
def items (item : Reader α) : Reader (List α) := fun rest =>
  itemsUpTo item (rest.length + 1) true rest

/-- At most `count` members of an object. The key is read by `key`, and `member` reads what follows
it and adds it to what the members before it have built. -/
def membersUpTo (key : Reader κ) (member : κ → σ → Reader σ) : Nat → Bool → σ → Reader σ
  | 0, _, built => return built
  | count + 1, first, built => do
    if ← hasMember first then
      let k ← key
      let built ← member k built
      membersUpTo key member count false built
    else return built

/-- The members of an object. There are no more members than bytes. -/
def members (key : Reader κ) (member : κ → σ → Reader σ) (start : σ) : Reader σ := fun rest =>
  membersUpTo key member (rest.length + 1) true start rest

/-- Takes the closing bracket of an array whose last item is known. -/
def closeArray : Reader Unit := do
  match ← peek with
  | none => failedNext .endInArray
  | some 0x5D => skip
  | some 0x2C =>
    skip
    match ← peek with
    | some 0x5D => failedNext .trailingComma
    | _ => failedNext .trailingCharacters
  | some _ => failedNext .trailingCharacters

/-- Runs a reader on a whole text, which may go on with blanks only. -/
def run (reader : Reader α) (text : List UInt8) : Except Error α :=
  match (do let x ← reader
            match ← peek with
            | none => return x
            | some _ => failedNext .trailingCharacters : Reader α) text with
  | .ok (x, _) => .ok x
  | .error fault => .error (fault.toError text)

end Reader

end ModuleBridge.Json
