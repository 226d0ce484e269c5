import ModuleBridge.Json.Value

/-!
# The text of a JSON value

`Json.compact` has no blanks at all; `Json.indented` puts every item and member on a line of its
own, two spaces deeper than the bracket around it. In a string only the quote, the backslash and the
control characters below U+0020 are escaped.
-/

namespace ModuleBridge

open Decimal (natDigits)

namespace JsonNumber

/-- The text of a number. -/
def render : JsonNumber → List Char
  | .integer n => (if n < 0 then ['-'] else []) ++ natDigits n.natAbs
  | .real x => x.render

end JsonNumber

namespace Json

/-- A hexadecimal digit in lower case. -/
def hexDigit (n : Nat) : Char :=
  Nat.digitChar (n % 16)

/-- One character of a string between its quotes. -/
def escaped (c : Char) : List Char :=
  match c with
  | '"' => ['\\', '"']
  | '\\' => ['\\', '\\']
  | '\x08' => ['\\', 'b']
  | '\x0c' => ['\\', 'f']
  | '\n' => ['\\', 'n']
  | '\r' => ['\\', 'r']
  | '\t' => ['\\', 't']
  | c =>
    if c.toNat < 0x20 then
      ['\\', 'u', '0', '0', hexDigit (c.toNat / 16), hexDigit c.toNat]
    else [c]

/-- A string between quotes. -/
def renderString (s : String) : List Char :=
  '"' :: s.toList.flatMap escaped ++ ['"']

/-- The string literal of a text. -/
def literal (s : String) : String :=
  String.ofList (renderString s)

/-- Texts one after the other, with a separator between neighbours. -/
def separated (separator : List Char) : List (List Char) → List Char
  | [] => []
  | [t] => t
  | t :: rest => t ++ separator ++ separated separator rest

/-- How a value is laid out: what stands before each item or member at a depth, what before the
closing bracket, and what between a key and its value. -/
structure Layout where
  beforeItem : Nat → List Char
  beforeEnd : Nat → List Char
  afterKey : List Char

/-- No blanks. -/
def Layout.compact : Layout := ⟨fun _ => [], fun _ => [], [':']⟩

/-- Every item and member on a line of its own, two spaces deeper than the bracket around it. -/
def Layout.indented : Layout :=
  ⟨fun depth => '\n' :: List.replicate (2 * (depth + 1)) ' ',
    fun depth => '\n' :: List.replicate (2 * depth) ' ', [':', ' ']⟩

/-- The text between two brackets. Without items there is nothing between them. -/
def Layout.bracket (layout : Layout) (depth : Nat) (opening closing : Char)
    (items : List (List Char)) : List Char :=
  if items.isEmpty then [opening, closing]
  else
    opening :: separated [','] (items.map (layout.beforeItem depth ++ ·)) ++
      layout.beforeEnd depth ++ [closing]

mutual

/-- The text of a value in a layout. -/
def renderIn (layout : Layout) (depth : Nat) : Json → List Char
  | .null => ['n', 'u', 'l', 'l']
  | .bool true => ['t', 'r', 'u', 'e']
  | .bool false => ['f', 'a', 'l', 's', 'e']
  | .number n => n.render
  | .string s => renderString s
  | .array items => layout.bracket depth '[' ']' (renderItems layout (depth + 1) items)
  | .object members => layout.bracket depth '\x7b' '\x7d' (renderMembers layout (depth + 1) members)

/-- The texts of the items of an array. -/
def renderItems (layout : Layout) (depth : Nat) : List Json → List (List Char)
  | [] => []
  | v :: rest => renderIn layout depth v :: renderItems layout depth rest

/-- The texts of the members of an object. -/
def renderMembers (layout : Layout) (depth : Nat) : List (String × Json) → List (List Char)
  | [] => []
  | (key, v) :: rest =>
    (renderString key ++ layout.afterKey ++ renderIn layout depth v) ::
      renderMembers layout depth rest

end

/-- The text without blanks. -/
def compact (v : Json) : String :=
  String.ofList (renderIn .compact 0 v)

/-- The text with one item or member on a line. -/
def indented (v : Json) : String :=
  String.ofList (renderIn .indented 0 v)

end Json

end ModuleBridge
