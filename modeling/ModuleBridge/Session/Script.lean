import ModuleBridge.Error
import ModuleBridge.Json.Document
import ModuleBridge.Json.Render

/-!
# Call scripts

A call runs in a session as a script of one line that returns the value of the function. The
arguments are written as JSON, which Python reads as the same strings, integers, lists and
dictionaries.
-/

namespace ModuleBridge.Session

/-- The script that calls a function with its arguments, if there are as many as parameters.
Reference: `call_script`. -/
def callScript (function : String) (parameters : List String) (arguments : List Json) :
    Except Error String :=
  if arguments.length ≠ parameters.length then
    .error (.arityMismatch function parameters.length arguments.length)
  else
    let values := Text.joinWith ", " (arguments.map Json.compact)
    .ok s!"return {function}({values})"

/-- The values that the arguments of a command are, each read as JSON. Arguments are counted from
`number`. -/
def argumentsFrom (number : Nat) : List String → Except Error (List Json)
  | [] => .ok []
  | text :: rest => do
    match Json.parse (Text.Utf8.bytes text) with
    | .error e =>
      throw (.invalidArgument s!"argument {number} is not valid JSON ({text}): {e.message}")
    | .ok v => return v :: (← argumentsFrom (number + 1) rest)

/-- The values that the arguments of a command are. Reference: `parse_arguments`. -/
def parseArguments (texts : List String) : Except Error (List Json) :=
  argumentsFrom 1 texts

end ModuleBridge.Session
