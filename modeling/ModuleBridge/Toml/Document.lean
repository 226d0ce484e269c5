import ModuleBridge.Toml.Line
import ModuleBridge.Toml.Scalar

/-!
# Reading a configuration

`document` gives the table that a text is, or what is wrong with the text. The lines are read in
their order, each with its keys before its value, and the first fault is the one that counts.
-/

namespace ModuleBridge.Toml

/-- Why a text is no configuration. -/
inductive Fault
  /-- It is written wrongly, or it says something twice. -/
  | refused
  /-- A key has too many parts. -/
  | tooDeep
  deriving DecidableEq, Repr

/-- A value, or the fault of being written wrongly. -/
def orRefused (x : Option α) : Except Fault α :=
  match x with
  | some x => .ok x
  | none => .error .refused

/-- Can the character stand in a key without quotes? -/
def isBareKeyChar (c : Char) : Bool :=
  c.isAlphanum || c = '_' || c = '-'

/-- The part of a key that some characters are. -/
def part? (cs : List Char) : Option String :=
  match shortQuoted? cs with
  | some (some (text, [])) => some text
  | some _ => none
  | none => if !cs.isEmpty && cs.all isBareKeyChar then some (String.ofList cs) else none

/-- The most parts that a key may have. -/
def partLimit : Nat := 80

/-- The parts of a key. -/
def readKey (key : WrittenKey) : Except Fault (List String) := do
  let parts ← orRefused (key.mapM part?)
  if partLimit < parts.length then throw .tooDeep
  return parts

/-- The value without brackets that some characters are. -/
def plainValue? (cs : List Char) : Option Value :=
  match quoted? cs with
  | some (some (text, [])) => some (.text text)
  | some _ => none
  | none => scalar? cs

/-- Puts a value under a key in the table at the end of a path. -/
def putUnder (path : List String) (key : List String) (value : Value) (members : Members) :
    Option Members :=
  match key.getLast? with
  | none => none
  | some last =>
    let dots := key.dropLast
    Members.change false (fun origin inner =>
      Members.change true (Members.add (!dots.isEmpty) last value) dots origin inner)
      path .defined members

mutual

/-- Reads a value. -/
def readValue : Written → Except Fault Value
  | .plain cs => orRefused (plainValue? cs)
  | .array items => do return .array false (← readItems items)
  | .table members => do return .table .inline (← readMembers members [])

/-- Reads the items of an array. -/
def readItems : List Written → Except Fault (List Value)
  | [] => .ok []
  | item :: rest => do
    let v ← readValue item
    return v :: (← readItems rest)

/-- Reads the members of a table in braces after others. -/
def readMembers : List (WrittenKey × Written) → Members → Except Fault Members
  | [], members => .ok members
  | (key, written) :: rest, members => do
    let key ← readKey key
    let v ← readValue written
    readMembers rest (← orRefused (putUnder [] key v members))

end

/-- The members after a header. -/
def enter (path : List String) (isArray : Bool) (members : Members) : Option Members :=
  match path.getLast? with
  | none => none
  | some last =>
    Members.change false (if isArray then Members.append last else Members.define last)
      path.dropLast .defined members

/-- Reads lines. The path is that of the last header. -/
def readLines : List Line → List String → Members → Except Fault Members
  | [], _, members => .ok members
  | .header isArray path :: rest, _, members => do
    let path ← readKey path
    readLines rest path (← orRefused (enter path isArray members))
  | .entry key written :: rest, path, members => do
    let key ← readKey key
    let v ← readValue written
    readLines rest path (← orRefused (putUnder path key v members))

/-- The characters without a mark of the order of bytes in front. -/
def withoutMark : List Char → List Char
  | '\ufeff' :: cs => cs
  | cs => cs

/-- The table that a text is. -/
def document (text : String) : Except Fault Members := do
  readLines (← orRefused (lines? (withoutMark text.toList))) [] []

end ModuleBridge.Toml
