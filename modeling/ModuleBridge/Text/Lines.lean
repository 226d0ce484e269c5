/-!
# Lines and joining

The lines of a text end in a line feed; a carriage return right before it belongs to the ending.
-/

namespace ModuleBridge.Text

/-- A line without the carriage return at its end. -/
def dropCarriageReturn (line : List Char) : List Char :=
  if line.getLast? = some '\r' then line.dropLast else line

/-- Lines of the characters, read with a line already begun. A line that the text does not end is a
line only if it holds something, and keeps its carriage return. -/
def linesFrom (begun : List Char) : List Char → List (List Char)
  | [] => if begun.isEmpty then [] else [begun.reverse]
  | '\n' :: rest => dropCarriageReturn begun.reverse :: linesFrom [] rest
  | c :: rest => linesFrom (c :: begun) rest

/-- The lines of a text, without their endings. -/
def lines (s : String) : List String :=
  (linesFrom [] s.toList).map String.ofList

/-- The texts one after the other, with a separator between neighbours. -/
def joinWith (separator : String) : List String → String
  | [] => ""
  | [s] => s
  | s :: rest => s ++ separator ++ joinWith separator rest

end ModuleBridge.Text
