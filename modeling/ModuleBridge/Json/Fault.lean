import ModuleBridge.Json.Value
import ModuleBridge.Text.Lines
import ModuleBridge.Text.Quoted

/-!
# What can be wrong with a JSON text

A cause says what is wrong, a fault also where reading stopped, and an error gives the place as a
line and a column. Lines count from one; columns count the bytes of a line, also from one.
-/

namespace ModuleBridge.Json

/-- What stands where something else was expected. -/
inductive Found
  | null
  | bool (value : Bool)
  | integer (value : Int)
  | real (value : Decimal.Binary64)
  | string (value : String)
  | sequence
  | map

/-- The words for what was found. -/
def Found.describe : Found → String
  | .null => "null"
  | .bool value => s!"boolean `{value}`"
  | .integer value => s!"integer `{value}`"
  | .real value => "floating point `" ++ String.ofList value.render ++ "`"
  | .string value => "string " ++ Text.quoted value
  | .sequence => "sequence"
  | .map => "map"

/-- What a value is found to be. -/
def found : Json → Found
  | .null => .null
  | .bool b => .bool b
  | .number (.integer n) => .integer n
  | .number (.real x) => .real x
  | .string s => .string s
  | .array _ => .sequence
  | .object _ => .map

/-- What is wrong with a text or a value. -/
inductive Cause
  | endInValue
  | endInArray
  | endInObject
  | endInString
  | colonExpected
  | arrayEndExpected
  | objectEndExpected
  | wordExpected
  | valueExpected
  | invalidEscape
  | invalidNumber
  | numberOutOfRange
  | invalidCodePoint
  | controlCharacter
  | keyNotString
  | loneSurrogate
  | endOfHexEscape
  | trailingComma
  | trailingCharacters
  | tooDeep
  | invalidType (found : Found) (expected : String)
  | invalidValue (found : Found) (expected : String)
  | invalidLength (length : Nat) (expected : String)
  | missingField (name : String)
  | duplicateField (name : String)
  | unknownVariant (name : String) (known : List String)
  /-- The value has the right shape, and its type refuses it for the reason given. -/
  | refused (reason : String)

/-- The words for a cause. -/
def Cause.message : Cause → String
  | .endInValue => "EOF while parsing a value"
  | .endInArray => "EOF while parsing a list"
  | .endInObject => "EOF while parsing an object"
  | .endInString => "EOF while parsing a string"
  | .colonExpected => "expected `:`"
  | .arrayEndExpected => "expected `,` or `]`"
  | .objectEndExpected => "expected `,` or `\x7d`"
  | .wordExpected => "expected ident"
  | .valueExpected => "expected value"
  | .invalidEscape => "invalid escape"
  | .invalidNumber => "invalid number"
  | .numberOutOfRange => "number out of range"
  | .invalidCodePoint => "invalid unicode code point"
  | .controlCharacter => "control character (\\u0000-\\u001F) found while parsing a string"
  | .keyNotString => "key must be a string"
  | .loneSurrogate => "lone leading surrogate in hex escape"
  | .endOfHexEscape => "unexpected end of hex escape"
  | .trailingComma => "trailing comma"
  | .trailingCharacters => "trailing characters"
  | .tooDeep => "recursion limit exceeded"
  | .invalidType found expected => s!"invalid type: {found.describe}, expected {expected}"
  | .invalidValue found expected => s!"invalid value: {found.describe}, expected {expected}"
  | .invalidLength length expected => s!"invalid length {length}, expected {expected}"
  | .missingField name => s!"missing field `{name}`"
  | .duplicateField name => s!"duplicate field `{name}`"
  | .unknownVariant name known =>
    let names := Text.joinWith ", " (known.map fun k => s!"`{k}`")
    s!"unknown variant `{name}`, expected one of {names}"
  | .refused reason => reason

/-- A cause and the number of bytes that were still unread when it was found, unless it is not tied
to a place. -/
structure Fault where
  cause : Cause
  unread : Option Nat

/-- A place in a text. -/
structure Position where
  line : Nat
  column : Nat
  deriving DecidableEq, Repr

/-- The place after some bytes. A line feed just read leaves column zero of the next line. -/
def Position.after (bytes : List UInt8) : Position :=
  ⟨1 + bytes.count 0x0A, (bytes.reverse.takeWhile (· ≠ 0x0A)).length⟩

/-- Why a text or a value was refused. -/
structure Error where
  cause : Cause
  position : Option Position

/-- The words for an error. -/
def Error.message (e : Error) : String :=
  match e.position with
  | none => e.cause.message
  | some p => s!"{e.cause.message} at line {p.line} column {p.column}"

/-- The error that a fault is in a text. -/
def Fault.toError (text : List UInt8) (fault : Fault) : Error :=
  ⟨fault.cause, fault.unread.map fun n => .after (text.take (text.length - n))⟩

end ModuleBridge.Json
