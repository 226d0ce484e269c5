import ModuleBridge.Decimal.Shortest

/-!
# JSON values

A number is an integer of 64 bits, with or without a sign, or a double. The members of an object are
in the order in which they are written. A value whose shape is not known beforehand is read with the
members in the order of their keys and no key twice, which is what `Json.insert` keeps up.
-/

namespace ModuleBridge

/-- A JSON number. -/
inductive JsonNumber
  /-- An integer from `-2 ^ 63` up to, but not including, `2 ^ 64`. -/
  | integer (value : Int)
  /-- Any other number, rounded to a double. -/
  | real (value : Decimal.Binary64)
  deriving DecidableEq, Repr

/-- A JSON value. -/
inductive Json
  | null
  | bool (value : Bool)
  | number (value : JsonNumber)
  | string (value : String)
  | array (items : List Json)
  | object (members : List (String × Json))
  deriving Repr

namespace Json

/-- The members with the key's value replaced, or with the key put in its place. -/
def insert (key : String) (value : α) : List (String × α) → List (String × α)
  | [] => [(key, value)]
  | (k, v) :: rest =>
    if key < k then (key, value) :: (k, v) :: rest
    else if key = k then (key, value) :: rest
    else (k, v) :: insert key value rest

/-- The object with the members of a list; a later member replaces an earlier one with its key. -/
def ofMembers (members : List (String × Json)) : Json :=
  .object (members.foldl (fun sorted m => insert m.1 m.2 sorted) [])

mutual

/-- The value with the members of every object in the order of their keys. -/
def sorted : Json → Json
  | .array items => .array (sortedItems items)
  | .object members => .object (sortedMembers members [])
  | v => v

/-- The items with the members of every object in the order of their keys. -/
def sortedItems : List Json → List Json
  | [] => []
  | v :: rest => sorted v :: sortedItems rest

/-- The members put into members that are in order already. -/
def sortedMembers : List (String × Json) → List (String × Json) → List (String × Json)
  | [], done => done
  | (key, v) :: rest, done => sortedMembers rest (insert key (sorted v) done)

end

/-- The value of a key. -/
def find? (key : String) : List (String × α) → Option α
  | [] => none
  | (k, v) :: rest => if key = k then some v else find? key rest

/-- An integer as a value. -/
def ofInt (n : Int) : Json :=
  .number (.integer n)

end Json

end ModuleBridge
