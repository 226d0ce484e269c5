import ModuleBridge.Json.Ascii
import ModuleBridge.Signature

/-!
# The helper's answer

The helper prints one line: an object that has either the exported functions or the words of an
error, in ASCII.
-/

namespace ModuleBridge.Source

open Json (asciiString asciiArray asciiObject)

/-- What the helper finds out about a source. Reference: `describe`. -/
abbrev Answer := Except String (List FunctionSignature)

namespace Answer

/-- The text of a function. -/
def functionText (f : FunctionSignature) : List Char :=
  asciiObject [("name", asciiString f.name),
    ("parameters", asciiArray (f.parameters.map asciiString))]

/-- The text of an answer. -/
def text : Answer → List Char
  | .ok functions => asciiObject [("functions", asciiArray (functions.map functionText))]
  | .error message => asciiObject [("error", asciiString message)]

/-- The line that is printed. Reference: `main` of the helper. -/
def line (answer : Answer) : String :=
  String.ofList (answer.text ++ ['\n'])

end Answer

end ModuleBridge.Source
