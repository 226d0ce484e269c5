import ModuleBridge.Json.Number
import ModuleBridge.Json.Text

/-!
# Reading values and documents

`Reader.value` reads one value and `Json.parse` a text that is one value. Brackets nest at most 127
deep. A value nobody asked for is passed over by `Reader.skipValue`, which looks at its form only
and does not mind its depth, the size of its numbers or the pairing of its surrogates.
-/

namespace ModuleBridge.Json

/-- How many brackets may be open at once. -/
def nestingLimit : Nat := 127

namespace Reader

/-- The letters of `null`, `true` and `false` after the first. -/
def nullTail : List UInt8 := [0x75, 0x6C, 0x6C]

/-- The letters of `true` after the first. -/
def trueTail : List UInt8 := [0x72, 0x75, 0x65]

/-- The letters of `false` after the first. -/
def falseTail : List UInt8 := [0x61, 0x6C, 0x73, 0x65]

/-- Opens a bracket if `nesting` more may be opened, and reads what it holds. -/
def nested (nesting : Nat) (inside : Nat → Reader α) : Reader α :=
  match nesting with
  | 0 => failedNext .tooDeep
  | nesting + 1 => do
    skip
    inside nesting

/-- Reads a value without brackets whose first byte is the given one. -/
def scalar (first : UInt8) : Reader Json := do
  if first = 0x6E then
    skip
    word nullTail
    return .null
  else if first = 0x74 then
    skip
    word trueTail
    return .bool true
  else if first = 0x66 then
    skip
    word falseTail
    return .bool false
  else if first = 0x2D then
    skip
    return .number (← number true)
  else if isDigit first then return .number (← number false)
  else if first = 0x22 then
    skip
    return .string (← string)
  else failedNext .valueExpected

/-- Reads a value in which `nesting` more brackets may be opened. -/
def value : Nat → Reader Json
  | 0 => do
    match ← peek with
    | none => failedNext .endInValue
    | some b => if b = 0x5B || b = 0x7B then failedNext .tooDeep else scalar b
  | nesting + 1 => do
    match ← peek with
    | none => failedNext .endInValue
    | some b =>
      if b = 0x5B then
        skip
        let vs ← items (value nesting)
        skip
        return .array vs
      else if b = 0x7B then
        skip
        let ms ← members string (fun key ms => do
          colon
          let v ← value nesting
          return insert key v ms) []
        skip
        return .object ms
      else scalar b

/-- Passes over a value without brackets whose first byte is the given one. -/
def skipScalar (first : UInt8) : Reader Unit := do
  if first = 0x6E then
    skip
    word nullTail
  else if first = 0x74 then
    skip
    word trueTail
  else if first = 0x66 then
    skip
    word falseTail
  else if first = 0x2D then
    skip
    skipNumber
  else if isDigit first then skipNumber
  else if first = 0x22 then
    skip
    skipString
  else failedNext .valueExpected

/-- Passes over a key and the colon after it. -/
def skipKey : Reader Unit := do
  match ← peek with
  | none => failedNext .endInObject
  | some 0x22 =>
    skip
    skipString
    colon
  | some _ => failedNext .keyNotString

/-- Passes over at most `count` items or members up to the closing bracket, and over that. Each is
passed over by `item`. -/
def skipItems (item : Reader Unit) (closing : UInt8) (atEnd notEnd : Cause) :
    Nat → Bool → Reader Unit
  | 0, _ => return ()
  | count + 1, first => do
    match ← peek with
    | none => failedNext atEnd
    | some b =>
      if b = closing then skip
      else if first then
        item
        skipItems item closing atEnd notEnd count false
      else if b = 0x2C then
        skip
        item
        skipItems item closing atEnd notEnd count false
      else failedNext notEnd

/-- Passes over a value in which at most `depth` brackets are open at once. -/
def skipWithin : Nat → Reader Unit
  | 0 => return ()
  | depth + 1 => do
    match ← peek with
    | none => failedNext .endInValue
    | some b =>
      if b = 0x5B then
        skip
        skipItems (skipWithin depth) 0x5D .endInArray .arrayEndExpected (depth + 1) true
      else if b = 0x7B then
        skip
        skipItems (do skipKey; skipWithin depth) 0x7D .endInObject .objectEndExpected (depth + 1)
          true
      else skipScalar b

/-- Passes over a value. No more brackets are open at once, and no more items follow each other,
than there are bytes. -/
def skipValue : Reader Unit := fun rest =>
  skipWithin (rest.length + 1) rest

end Reader

/-- The value that a text is, if it is one. -/
def parse (text : List UInt8) : Except Error Json :=
  Reader.run (Reader.value nestingLimit) text

end ModuleBridge.Json
