/-!
# Coloured text

A text is coloured by a sequence in front of it and a reset after it. A reset inside the text would
end the colour, so the sequence is repeated after each.
-/

namespace ModuleBridge.Report

/-- What a text is coloured for. -/
inductive Style
  | key
  | null
  | bool
  | number
  | string
  | error
  deriving DecidableEq, Repr

/-- The parameters of the sequence that begins a style. -/
def Style.parameters : Style → String
  | .key => "1;34"
  | .null => "2"
  | .bool => "33"
  | .number => "36"
  | .string => "32"
  | .error => "1;31"

/-- The sequence that begins a style. -/
def Style.opening (style : Style) : List Char :=
  '\x1b' :: '[' :: style.parameters.toList ++ ['m']

/-- The sequence that ends every style. -/
def reset : List Char := ['\x1b', '[', '0', 'm']

/-- The characters with some more after each reset. -/
def afterResets (more : List Char) : List Char → List Char
  | '\x1b' :: '[' :: '0' :: 'm' :: cs => reset ++ more ++ afterResets more cs
  | c :: cs => c :: afterResets more cs
  | [] => []

/-- A text in a style, if colours are on. -/
def paint (isColoured : Bool) (style : Style) (text : String) : String :=
  if isColoured then
    String.ofList (style.opening ++ afterResets style.opening text.toList ++ reset)
  else text

end ModuleBridge.Report
