import ModuleBridge.Json.Document
import ModuleBridge.Json.Render

/-!
# Shapes of documents

A shape says how the values of a type are written as JSON, and by that how they are read: off a text
by `Shape.read`, and out of a value that has been read already by `Shape.ofJson`. `Shape.toJson`
writes.

A record is written as an object with one member for each field, in the order of the fields. It is
read from an object with the members in any order and under any of their names, where members that
no field has are passed over, and also from an array of the fields in their order. While a record is
read, each field has a slot, which is empty until its member has been read.
-/

namespace ModuleBridge.Wire

open Json (Reader Cause)

/-- A field of a record, apart from the shape of its value. -/
structure Field (α : Type) where
  /-- The name under which the field is written. -/
  name : String
  /-- Other names under which it is read. -/
  aliases : List String := []
  /-- The value of the field if an object has no member for it. -/
  absent : Option α := none
  /-- The value of the field if an array ends before it. -/
  beyond : Option α := none
  /-- The values for which no member is written. -/
  omitted : α → Bool := fun _ => false

/-- Is the field read under the name? -/
def Field.named (field : Field α) (key : String) : Bool :=
  field.name = key || field.aliases.contains key

mutual

/-- How the values of a type are written. -/
inductive Shape : Type → Type 1
  /-- A string. -/
  | text : Shape String
  /-- A string that names a file. -/
  | path : Shape String
  /-- `true` or `false`. -/
  | flag : Shape Bool
  /-- An integer of 64 bits with a sign. -/
  | integer : Shape Int
  /-- Any value at all. -/
  | free : Shape Json
  /-- One of some names, each with the value it stands for. -/
  | choice {α : Type} (known : List (String × α)) (nameOf : α → String) : Shape α
  /-- `null` or a value. -/
  | optional {α : Type} (shape : Shape α) : Shape (Option α)
  /-- An array of values of one shape. -/
  | list {α : Type} (shape : Shape α) : Shape (List α)
  /-- The fields of a structure. -/
  | record {α β σ : Type} (name : String) (fields : Fields α σ) (build : α → β) (parts : β → α) :
    Shape β
  /-- A value of another shape that passes a check, or the reason why it does not. -/
  | checked {α β : Type} (shape : Shape α) (check : α → Except String β) (view : β → α) : Shape β

/-- The fields of a record in their order. The first type is that of all values together, the second
that of their slots. -/
inductive Fields : Type → Type → Type 1
  | nil : Fields Unit Unit
  | cons {α β σ : Type} (field : Field α) (shape : Shape α) (rest : Fields β σ) :
    Fields (α × β) (Option α × σ)

end

/-- The number of fields. -/
def Fields.count : Fields α σ → Nat
  | .nil => 0
  | .cons _ _ rest => rest.count + 1

/-- The number of fields in the record that is the value of a field, if it is one. -/
def Fields.width? : Fields α σ → String → Option Nat
  | .nil, _ => none
  | .cons field shape rest, key =>
    if field.named key then
      match shape with
      | .record _ fields _ _ => some fields.count
      | _ => none
    else rest.width? key

/-- The number of fields in the record under a key of a record, if there is one. -/
def Shape.width? : Shape α → String → Option Nat
  | .record _ fields _ _, key => fields.width? key
  | _, _ => none

/-- Slots that are all empty. -/
def Fields.empty : Fields α σ → σ
  | .nil => ()
  | .cons _ _ rest => (none, rest.empty)

/-- The values in the slots, or the name of the first field that has none. -/
def Fields.finish : Fields α σ → σ → Except Cause α
  | .nil, () => .ok ()
  | .cons field _ rest, (slot, slots) =>
    match slot <|> field.absent with
    | none => .error (.missingField field.name)
    | some x =>
      match rest.finish slots with
      | .error cause => .error cause
      | .ok xs => .ok (x, xs)

/-- What a record is called in messages. -/
def recordName (name : String) : String :=
  s!"struct {name}"

/-- What an array of the fields of a record is called in messages. -/
def recordOf (name : String) (count : Nat) : String :=
  if count = 1 then s!"struct {name} with 1 element" else s!"struct {name} with {count} elements"

/-- The value of a name. -/
def variant? (known : List (String × α)) (name : String) : Except Cause α :=
  match Json.find? name known with
  | some x => .ok x
  | none => .error (.unknownVariant name (known.map (·.1)))

/-- The number of integers of 64 bits that are not negative. -/
def int64Bound : Nat := Nat.pow 2 63

/-- Is the integer one of 64 bits with a sign? -/
def isInt64 (n : Int) : Bool :=
  -(int64Bound : Int) ≤ n && n < int64Bound

/-- The integer that a number is, if it is one of 64 bits with a sign. -/
def int64? : JsonNumber → Except Cause Int
  | .integer n => if isInt64 n then .ok n else .error (.invalidValue (.integer n) "i64")
  | .real x => .error (.invalidType (.real x) "i64")

/-! ## Reading off a text -/

namespace Shape

/-- Refuses the value that begins with the given byte. A scalar is read first. -/
def mismatch (first : UInt8) (expected : String) : Reader α := do
  if first = 0x5B then Reader.failed (.invalidType .sequence expected)
  else if first = 0x7B then Reader.failed (.invalidType .map expected)
  else
    let v ← Reader.scalar first
    Reader.failed (.invalidType (Json.found v) expected)

/-- The first byte of the value that comes next. -/
def firstByte : Reader UInt8 := do
  match ← Reader.peek with
  | none => Reader.failedNext .endInValue
  | some b => return b

/-- Fails with a cause found in what was just read. -/
def orFail (result : Except Cause α) : Reader α :=
  match result with
  | .ok x => return x
  | .error cause => Reader.failed cause

/-- Reads a string, called by the given words in messages. -/
def readString (expected : String) : Reader String := do
  let b ← firstByte
  if b = 0x22 then
    Reader.skip
    Reader.string
  else mismatch b expected

/-- Reads `true` or `false`. -/
def readFlag : Reader Bool := do
  let b ← firstByte
  match ← (if b = 0x74 || b = 0x66 then Reader.scalar b else mismatch b "a boolean") with
  | .bool value => return value
  | v => Reader.failed (.invalidType (Json.found v) "a boolean")

/-- Reads an integer of 64 bits with a sign. -/
def readInteger : Reader Int := do
  let b ← firstByte
  if b = 0x2D then
    Reader.skip
    orFail (int64? (← Reader.number true))
  else if Json.isDigit b then orFail (int64? (← Reader.number false))
  else mismatch b "i64"

/-- Reads the name of a variant. -/
def readVariant (known : List (String × α)) : Reader α := do
  orFail (variant? known (← readString "variant identifier"))

/-- Reads `null` where a variant carries no value. -/
def readUnit : Reader Unit := do
  let b ← firstByte
  if b = 0x6E then
    Reader.skip
    Reader.word Reader.nullTail
  else mismatch b "unit"

/-- Reads one of some names, alone or as the only key of an object with the value `null`. -/
def readChoice (known : List (String × α)) (nesting : Nat) : Reader α := do
  let b ← firstByte
  if b = 0x22 then readVariant known
  else if b = 0x7B then
    Reader.nested nesting fun _ => do
      let x ← readVariant known
      Reader.colon
      readUnit
      match ← Reader.peek with
      | none => Reader.failed .endInObject
      | some 0x7D =>
        Reader.skip
        return x
      | some _ => Reader.failed .valueExpected
  else Reader.failedNext .valueExpected

/-- Fails in an object that is being read, or right after it if it ends here. -/
def failedInObject (cause : Cause) : Reader α := do
  match ← Reader.peek with
  | some 0x7D =>
    Reader.skip
    Reader.failed cause
  | _ => Reader.failed cause

end Shape

mutual

/-- Reads a value of a shape, in which `nesting` more brackets may be opened. -/
def Shape.read {α : Type} : Shape α → Nat → Reader α
  | .text, _ => Shape.readString "a string"
  | .path, _ => Shape.readString "path string"
  | .flag, _ => Shape.readFlag
  | .integer, _ => Shape.readInteger
  | .free, nesting => Reader.value nesting
  | .choice known _, nesting => Shape.readChoice known nesting
  | .optional shape, nesting => do
    match ← Reader.peek with
    | some 0x6E =>
      Reader.skip
      Reader.word Reader.nullTail
      return none
    | _ => return some (← shape.read nesting)
  | .list shape, nesting => do
    let b ← Shape.firstByte
    if b = 0x5B then
      Reader.nested nesting fun nesting => do
        let xs ← Reader.items (shape.read nesting)
        Reader.skip
        return xs
    else Shape.mismatch b "a sequence"
  | .record name fields build _, nesting => do
    let b ← Shape.firstByte
    if b = 0x7B then
      Reader.nested nesting fun nesting => do
        let slots ← Reader.members Reader.string
          (fun key slots => fields.readMember nesting key slots)
          fields.empty
        Reader.skip
        return build (← Shape.orFail (fields.finish slots))
    else if b = 0x5B then
      Reader.nested nesting fun nesting => do
        let xs ← fields.readItems nesting (recordOf name fields.count) 0
        Reader.closeArray
        return build xs
    else Shape.mismatch b (recordName name)
  | .checked shape check _, nesting => do
    match check (← shape.read nesting) with
    | .ok x => return x
    | .error reason => fun _ => .error ⟨.refused reason, none⟩

/-- Reads what follows a key into the slot of its field. A key that no field has is passed over with
its value. -/
def Fields.readMember {α σ : Type} : Fields α σ → Nat → String → σ → Reader σ
  | .nil, _, _, slots => do
    Reader.colon
    Reader.skipValue
    return slots
  | .cons field shape rest, nesting, key, (slot, slots) =>
    if field.named key then
      if slot.isSome then Shape.failedInObject (.duplicateField field.name)
      else do
        Reader.colon
        let x ← shape.read nesting
        return (some x, slots)
    else do
      let slots ← rest.readMember nesting key slots
      return (slot, slots)

/-- Reads the items of an array as the fields in their order, `index` of which have been read. -/
def Fields.readItems {α σ : Type} : Fields α σ → Nat → String → Nat → Reader α
  | .nil, _, _, _ => return ()
  | .cons field shape rest, nesting, expected, index => do
    if ← Reader.hasItem (index == 0) then
      let x ← shape.read nesting
      let xs ← rest.readItems nesting expected (index + 1)
      return (x, xs)
    else
      match field.beyond with
      | none =>
        Reader.skip
        Reader.failed (.invalidLength index expected)
      | some x =>
        let xs ← rest.readItems nesting expected (index + 1)
        return (x, xs)

end

/-- The value of a shape that a text is. -/
def Shape.parse (shape : Shape α) (text : List UInt8) : Except Json.Error α :=
  Reader.run (shape.read Json.nestingLimit) text

/-! ## Reading out of a value -/

/-- What a language of values says about records and choices beyond their shape. -/
structure Dialect where
  /-- The values that a variant without a value may carry. -/
  isUnit : Json → Bool
  /-- May an array go on after the last field of a record? -/
  spareItems : Bool
  /-- The words for what a choice may be. -/
  choiceName : String

/-- Values that were read from JSON. -/
def Dialect.json : Dialect where
  isUnit v := match v with
    | .null => true
    | _ => false
  spareItems := false
  choiceName := "string or map"

namespace Shape

/-- Refuses a value. -/
def mismatched (v : Json) (expected : String) : Except Cause α :=
  .error (.invalidType (Json.found v) expected)

/-- The choice that a value is. -/
def choiceOf (dialect : Dialect) (known : List (String × α)) : Json → Except Cause α
  | .string name => variant? known name
  | .object [(name, v)] => do
    let x ← variant? known name
    if dialect.isUnit v then return x else mismatched v "unit"
  | .object members => .error (.invalidValue (Json.found (.object members)) "map with a single key")
  | v => mismatched v dialect.choiceName

end Shape

/-- Reads each item of a list. -/
def readEach (read : Json → Except Cause α) : List Json → Except Cause (List α)
  | [] => .ok []
  | v :: rest => do
    let x ← read v
    let xs ← readEach read rest
    return x :: xs

/-- Reads each member of an object into slots. -/
def readInto (read : String → Json → σ → Except Cause σ) : List (String × Json) → σ → Except Cause σ
  | [], slots => .ok slots
  | (key, v) :: rest, slots => do
    let slots ← read key v slots
    readInto read rest slots

mutual

/-- The value of a shape that a JSON value stands for. -/
def Shape.ofJson {α : Type} (dialect : Dialect) : Shape α → Json → Except Cause α
  | .text, v => match v with
    | .string s => .ok s
    | v => Shape.mismatched v "a string"
  | .path, v => match v with
    | .string s => .ok s
    | v => Shape.mismatched v "path string"
  | .flag, v => match v with
    | .bool b => .ok b
    | v => Shape.mismatched v "a boolean"
  | .integer, v => match v with
    | .number n => int64? n
    | v => Shape.mismatched v "i64"
  | .free, v => .ok v
  | .choice known _, v => Shape.choiceOf dialect known v
  | .optional shape, v => match v with
    | .null => .ok none
    | v => do return some (← shape.ofJson dialect v)
  | .list shape, v => match v with
    | .array vs => readEach (fun v => shape.ofJson dialect v) vs
    | v => Shape.mismatched v "a sequence"
  | .record name fields build _, v => match v with
    | .object members => do
      let slots ← readInto (fun key v slots => fields.ofMember dialect key v slots) members
        fields.empty
      return build (← fields.finish slots)
    | .array vs => do
      return build (← fields.ofItems dialect (recordOf name fields.count) vs.length 0 vs)
    | v => Shape.mismatched v (recordName name)
  | .checked shape check _, v => do
    match check (← shape.ofJson dialect v) with
    | .ok x => return x
    | .error reason => throw (.refused reason)

/-- Reads a member into the slot of its field, if a field has its key. -/
def Fields.ofMember {α σ : Type} (dialect : Dialect) :
    Fields α σ → String → Json → σ → Except Cause σ
  | .nil, _, _, slots => .ok slots
  | .cons field shape rest, key, v, (slot, slots) =>
    if field.named key then
      if slot.isSome then .error (.duplicateField field.name)
      else do return (some (← shape.ofJson dialect v), slots)
    else do return (slot, ← rest.ofMember dialect key v slots)

/-- Reads the items of an array of `total` items as the fields in their order, `index` of which have
been read. -/
def Fields.ofItems {α σ : Type} (dialect : Dialect) :
    Fields α σ → String → Nat → Nat → List Json → Except Cause α
  | .nil, _, total, _, vs =>
    if vs.isEmpty || dialect.spareItems then .ok ()
    else .error (.invalidLength total "fewer elements in array")
  | .cons field shape rest, expected, total, index, vs =>
    match vs with
    | v :: vs => do
      let x ← shape.ofJson dialect v
      return (x, ← rest.ofItems dialect expected total (index + 1) vs)
    | [] =>
      match field.beyond with
      | none => .error (.invalidLength index expected)
      | some x => do return (x, ← rest.ofItems dialect expected total (index + 1) [])

end

/-! ## Writing -/

mutual

/-- The JSON value of a value of a shape. -/
def Shape.toJson {α : Type} : Shape α → α → Json
  | .text, s => .string s
  | .path, s => .string s
  | .flag, b => .bool b
  | .integer, n => .ofInt n
  | .free, v => v
  | .choice _ nameOf, x => .string (nameOf x)
  | .optional shape, x => match x with
    | none => .null
    | some x => shape.toJson x
  | .list shape, xs => .array (xs.map fun x => shape.toJson x)
  | .record _ fields _ parts, x => .object (fields.toMembers (parts x))
  | .checked shape _ view, x => shape.toJson (view x)

/-- The members of a record. -/
def Fields.toMembers {α σ : Type} : Fields α σ → α → List (String × Json)
  | .nil, () => []
  | .cons field shape rest, (x, xs) =>
    if field.omitted x then rest.toMembers xs
    else (field.name, shape.toJson x) :: rest.toMembers xs

end

/-- The text of a value without blanks. -/
def Shape.print (shape : Shape α) (x : α) : String :=
  (shape.toJson x).compact

end ModuleBridge.Wire
