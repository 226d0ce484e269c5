import ModuleBridge.Json.Render
import ModuleBridge.Report.Style
import ModuleBridge.Text.Lines

/-!
# Outlines

An outline shows a value to people: one line for each member and item, two spaces deeper than what
it is in, and one line for each line of a string that has several. The members of an object come in
the order of their keys.
-/

namespace ModuleBridge.Report

/-- The spaces in front of a line. -/
def indent (depth : Nat) : String :=
  String.ofList (List.replicate (2 * depth) ' ')

/-- A value without brackets. Reference: `scalar_text`. -/
def scalarText (isColoured : Bool) : Json → String
  | .null => paint isColoured .null "null"
  | .bool b => paint isColoured .bool (if b then "true" else "false")
  | .number n => paint isColoured .number (String.ofList n.render)
  | .string s => paint isColoured .string s
  | v => v.compact

/-- Does the text have more than one line? -/
def hasLineFeed (s : String) : Bool :=
  s.toList.contains '\n'

mutual

/-- The lines for a value that has a label. Reference: `write_entry`. -/
def entryLines (isColoured : Bool) (depth : Nat) (label : String) : Json → List String
  | .object [] => [label ++ " \x7b\x7d"]
  | .array [] => [label ++ " []"]
  | .object (m :: ms) => label :: memberLines isColoured (depth + 1) (m :: ms)
  | .array (v :: vs) => label :: itemLines isColoured (depth + 1) (v :: vs)
  | .string s =>
    if hasLineFeed s then
      (label ++ " |") :: (Text.lines s).map fun line =>
        indent (depth + 1) ++ paint isColoured .string line
    else [label ++ " " ++ scalarText isColoured (.string s)]
  | .null => [label ++ " " ++ scalarText isColoured .null]
  | .bool b => [label ++ " " ++ scalarText isColoured (.bool b)]
  | .number n => [label ++ " " ++ scalarText isColoured (.number n)]

/-- The lines for the members of an object. -/
def memberLines (isColoured : Bool) (depth : Nat) : List (String × Json) → List String
  | [] => []
  | (key, v) :: rest =>
    entryLines isColoured depth (indent depth ++ paint isColoured .key key ++ ":") v ++
      memberLines isColoured depth rest

/-- The lines for the items of an array. -/
def itemLines (isColoured : Bool) (depth : Nat) : List Json → List String
  | [] => []
  | v :: rest =>
    entryLines isColoured depth (indent depth ++ "-") v ++ itemLines isColoured depth rest

end

/-- The characters without the line feeds at their end. -/
def dropLineFeeds (cs : List Char) : List Char :=
  (cs.reverse.dropWhile (· = '\n')).reverse

/-- The outline of a value whose members are in order. Reference: `write_block`. -/
def outlineOf (isColoured : Bool) : Json → String
  | .object [] => "\x7b\x7d"
  | .array [] => "[]"
  | .object (m :: ms) => Text.joinWith "\n" (memberLines isColoured 0 (m :: ms))
  | .array (v :: vs) => Text.joinWith "\n" (itemLines isColoured 0 (v :: vs))
  | v => String.ofList (dropLineFeeds (scalarText isColoured v).toList)

/-- The outline of a value. Reference: `pretty::format`. -/
def outline (isColoured : Bool) (v : Json) : String :=
  outlineOf isColoured v.sorted

end ModuleBridge.Report
