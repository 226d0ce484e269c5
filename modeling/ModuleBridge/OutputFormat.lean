import ModuleBridge.Error

/-!
# Output formats

The formats in which a report can be printed.
-/

namespace ModuleBridge

/-- How a report is printed. Reference: `OutputFormat`. -/
inductive OutputFormat
  /-- Indented JSON. -/
  | json
  /-- JSON on one line. -/
  | text
  /-- An outline for people to read. -/
  | pretty
  deriving DecidableEq, Repr

namespace OutputFormat

/-- The name of a format. -/
def name : OutputFormat → String
  | .json => "json"
  | .text => "text"
  | .pretty => "pretty"

/-- The format that a text names, in letters of either case. No character outside ASCII has a letter
of one of the names as its lower case, so that of the ASCII letters decides. Reference:
`OutputFormat::from_str`. -/
def ofText (text : String) : Except Error OutputFormat :=
  let cs := text.toList.map Char.toLower
  if cs = OutputFormat.json.name.toList then .ok .json
  else if cs = OutputFormat.text.name.toList then .ok .text
  else if cs = OutputFormat.pretty.name.toList then .ok .pretty
  else
    .error (.invalidArgument s!"invalid output format: '{text}' (expected: json, text, or pretty)")

end OutputFormat

end ModuleBridge
