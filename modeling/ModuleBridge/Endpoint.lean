import ModuleBridge.Error
import ModuleBridge.Text.Blank
import ModuleBridge.Wire.Shape

/-!
# Session endpoints

An endpoint names the host and port of a session, without a scheme and without a path.
-/

namespace ModuleBridge

/-- Where a session listens. Reference: `SessionEndpoint`. -/
structure SessionEndpoint where
  text : String
  deriving DecidableEq, Repr

namespace SessionEndpoint

/-- Does the first list occur in the second? -/
def occurs (needle : List Char) : List Char → Bool
  | [] => needle.isEmpty
  | c :: cs => needle.isPrefixOf (c :: cs) || occurs needle cs

/-- Why the characters are no endpoint, if they are none. Blanks around them are gone. -/
def refusal? (cs : List Char) : Option String :=
  if cs.isEmpty then some "endpoint cannot be empty"
  else if occurs [':', '/', '/'] cs then some "endpoint must be host:port without a scheme"
  else if cs.any fun c => c = '/' || c = '\\' then some "endpoint must not contain a path"
  else if cs.any Text.isBlank then some "endpoint must not contain whitespace"
  else none

/-- The endpoint that a text names, with the blanks around it removed. Reference:
`SessionEndpoint::new`. -/
def ofText (text : String) : Except Error SessionEndpoint :=
  let cs := Text.trimBlanks text.toList
  match refusal? cs with
  | some reason => .error (.validation "endpoint" reason)
  | none => .ok ⟨String.ofList cs⟩

/-- How an endpoint is written. It is checked again when it is read. -/
def shape : Wire.Shape SessionEndpoint :=
  .checked .text (fun text => (ofText text).mapError (·.message)) (·.text)

end SessionEndpoint

end ModuleBridge
