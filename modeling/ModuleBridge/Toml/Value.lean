import ModuleBridge.Json.Value

/-!
# Tables of a configuration

A configuration is a table of values under keys. A table remembers how it came about, because that
decides what may be added to it later: the header of a table defines it once, the keys in front of
the last one of a header or of a dotted key imply it, and a table in braces is complete.
-/

namespace ModuleBridge.Toml

/-- How a table came about. -/
inductive Origin
  /-- By a header of its own. -/
  | defined
  /-- By the header of a table inside it. -/
  | implied
  /-- By a key with dots in it. -/
  | dotted
  /-- In braces. -/
  | inline
  deriving DecidableEq, Repr

/-- A value of a configuration. -/
inductive Value
  | text (value : String)
  | flag (value : Bool)
  /-- An integer or a float. No option is a number, so nothing else of it is kept but whether it is
  one: a number may be written well and yet be too large. That is a fault only where the value is
  looked at. -/
  | number (isNumber : Bool)
  /-- A date, a time or both, as it is written. -/
  | moment (text : String)
  /-- An array. One of tables grows by headers. -/
  | array (ofTables : Bool) (items : List Value)
  | table (origin : Origin) (members : List (String × Value))
  deriving Repr

/-- The members of a table. -/
abbrev Members := List (String × Value)

/-- The value of a key. -/
def Members.find? (members : Members) (key : String) : Option Value :=
  Json.find? key members

/-- The members with the value of a key replaced, or with the key after them. -/
def Members.put (members : Members) (key : String) (value : Value) : Members :=
  match members with
  | [] => [(key, value)]
  | (k, v) :: rest => if k = key then (key, value) :: rest else (k, v) :: Members.put rest key value

/-- Changes the table at the end of a path, with the tables on the way to it made if they are
missing. A key with dots does not lead into tables that have a header, and nothing leads into a
table in braces. In an array of tables the last one is meant, whatever leads to it. -/
def Members.change (isDotted : Bool) (leaf : Origin → Members → Option Members) :
    List String → Origin → Members → Option Members
  | [], origin, members => leaf origin members
  | key :: path, _, members =>
    let way := Members.change isDotted leaf path
    match members.find? key with
    | none => do
      let origin := if isDotted then .dotted else .implied
      return members.put key (.table origin (← way origin []))
    | some (.table origin inner) =>
      if origin = .inline || (isDotted && origin = .defined) then none
      else do return members.put key (.table origin (← way origin inner))
    | some (.array true items) =>
      match items.getLast? with
      | some (.table origin inner) => do
        let last ← way origin inner
        return members.put key (.array true (items.dropLast ++ [.table origin last]))
      | _ => none
    | some _ => none

/-- Adds a value under a key in a table. A key with dots belongs in a table that came about by dots,
and one without in any other. -/
def Members.add (viaDots : Bool) (key : String) (value : Value) (origin : Origin)
    (members : Members) : Option Members :=
  if (origin = .dotted) ≠ viaDots || (members.find? key).isSome then none
  else some (members.put key value)

/-- Defines a table under a key. One that was only implied by headers is kept. -/
def Members.define (key : String) (_ : Origin) (members : Members) : Option Members :=
  match members.find? key with
  | none => some (members.put key (.table .defined []))
  | some (.table .implied inner) => some (members.put key (.table .defined inner))
  | some _ => none

/-- Adds a table to the array of tables under a key. -/
def Members.append (key : String) (_ : Origin) (members : Members) : Option Members :=
  match members.find? key with
  | none => some (members.put key (.array true [.table .defined []]))
  | some (.array true items) =>
    some (members.put key (.array true (items ++ [.table .defined []])))
  | some _ => none

/-- The key under which the text of a moment is found, as in a table. -/
def momentKey : String := "$__toml_private_datetime"

mutual

/-- The JSON value that is read as a value of a configuration is. -/
def Value.toJson : Value → Json
  | .text s => .string s
  | .flag b => .bool b
  | .number _ => .ofInt 0
  | .moment text => .object [(momentKey, .string text)]
  | .array _ items => .array (itemsToJson items)
  | .table _ members => .object (membersToJson members)

/-- The JSON values of some items. -/
def itemsToJson : List Value → List Json
  | [] => []
  | v :: rest => v.toJson :: itemsToJson rest

/-- The JSON values of some members. -/
def membersToJson : List (String × Value) → List (String × Json)
  | [] => []
  | (key, v) :: rest => (key, v.toJson) :: membersToJson rest

end

mutual

/-- Is there a number in the value that is none? -/
def Value.isFaulty : Value → Bool
  | .number isNumber => !isNumber
  | .array _ items => areFaulty items
  | .table _ members => areFaultyMembers members
  | _ => false

/-- Is there a number in one of some items that is none? -/
def areFaulty : List Value → Bool
  | [] => false
  | v :: rest => v.isFaulty || areFaulty rest

/-- Is there a number in one of some members that is none? -/
def areFaultyMembers : List (String × Value) → Bool
  | [] => false
  | (_, v) :: rest => v.isFaulty || areFaultyMembers rest

end

end ModuleBridge.Toml
