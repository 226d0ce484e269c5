import ModuleBridge.Error
import ModuleBridge.Json.Render

/-!
# Templates

A template is a list of pieces: texts, and tags that stand for a value of a context. `render` puts
the values in and fails at the first tag whose value the context does not have. Values are put in as
they are, without any escaping.
-/

namespace ModuleBridge

/-- A piece of a template. Each keeps the characters it was written with. -/
inductive Piece
  /-- A text, as it is printed. -/
  | text (shown : String) (source : String)
  /-- The value at a path of names. -/
  | tag (path : List String) (name : String) (source : String)
  deriving DecidableEq, Repr

/-- A template. -/
abbrev Template := List Piece

namespace Piece

/-- A text that is printed as it is written. -/
def plain (s : String) : Piece := .text s s

/-- A tag with two braces on each side. -/
def tag₂ (name : String) : Piece := .tag [name] name s!"\x7b\x7b{name}\x7d\x7d"

/-- A tag with three braces on each side. -/
def tag₃ (name : String) : Piece := .tag [name] name s!"\x7b\x7b\x7b{name}\x7d\x7d\x7d"

/-- The characters that a piece was written with. -/
def source : Piece → String
  | .text _ source => source
  | .tag _ _ source => source

end Piece

namespace Template

/-- One more than the largest index. -/
def indexLimit : Nat := Nat.pow 2 64

/-- The index that a name is: digits, perhaps after a plus sign. -/
def index? (s : String) : Option Nat :=
  let digits := match s.toList with
    | '+' :: cs => cs
    | cs => cs
  let n := digits.foldl (fun n c => 10 * n + (c.toNat - '0'.toNat)) 0
  if digits.isEmpty || !digits.all Char.isDigit || indexLimit ≤ n then none else some n

/-- Why a path leads to no value. -/
inductive PathFault
  /-- There is nothing at its end. -/
  | missing
  /-- The name is asked of an array, and is no index. -/
  | noIndex (name : String)
  deriving DecidableEq, Repr

/-- The value at a path in a value. The names of a path are keys of objects or indices of arrays. -/
def lookup : List String → Json → Except PathFault Json
  | [], v => .ok v
  | name :: names, .object members =>
    match Json.find? name members with
    | some v => lookup names v
    | none => .error .missing
  | name :: names, .array items =>
    match index? name with
    | none => .error (.noIndex name)
    | some i =>
      match items[i]? with
      | some v => lookup names v
      | none => .error .missing
  | _ :: _, _ => .error .missing

/-- The helpers that stand for no value, each with the fault of calling it without an argument. One
without a fault prints nothing. -/
def helpers : List (String × Option String) :=
  let byIndex := "param at index 0 required but not found"
  let byName := "param with name x required but not found"
  [("if", some s!"if {byIndex}"), ("unless", some s!"if {byIndex}"), ("each", some s!"each {byIndex}"),
    ("with", some s!"with {byIndex}"), ("lookup", some s!"lookup {byIndex}"), ("raw", none),
    ("log", none)] ++
    ["eq", "ne", "gt", "gte", "lt", "lte", "and", "or", "not", "len"].map fun name =>
      (name, some s!"{name} {byName}")

mutual

/-- How a value is put in. -/
def shown : Json → String
  | .null => ""
  | .bool b => if b then "true" else "false"
  | .number n => String.ofList n.render
  | .string s => s
  | .array items => "[" ++ Text.joinWith ", " (shownEach items) ++ "]"
  | .object _ => "[object]"

/-- How each of some values is put in. -/
def shownEach : List Json → List String
  | [] => []
  | v :: rest => shown v :: shownEach rest

end

/-- A line and a column of a template, both counted from one. -/
structure Place where
  line : Nat := 1
  column : Nat := 1

/-- The place after some characters. A carriage return right before a line feed takes no column. -/
def Place.after (place : Place) : List Char → Place
  | [] => place
  | '\r' :: '\n' :: cs => Place.after ⟨place.line + 1, 1⟩ cs
  | '\n' :: cs => Place.after ⟨place.line + 1, 1⟩ cs
  | _ :: cs => Place.after ⟨place.line, place.column + 1⟩ cs

/-- The words for a tag without a value, which is written with the given name. -/
def PathFault.message (written : String) : PathFault → String
  | .missing => s!"Failed to access variable in strict mode Some({Text.quoted written})"
  | .noIndex name => s!"Cannot access array/vector with string index, {name}"

/-- The text for a tag with a path, which is written with the given name, or what is wrong with
it. -/
def tagText (context : Json) (path : List String) (written : String) : Except String String :=
  match helpers.find? (·.1 = written) with
  | some (_, some fault) => .error s!"Helper/Decorator {fault}"
  | some (_, none) => .ok ""
  | none =>
    match lookup path context with
    | .ok v => .ok (shown v)
    | .error fault => .error (fault.message written)

/-- The error of rendering a template at a place of it. -/
def renderError (template : String) (place : Place) (message : String) : Error :=
  .template (s!"Rendering '{template}' failed: Error rendering \"{template}\" " ++
    s!"line {place.line}, col {place.column}: {message}")

/-- Renders pieces that begin at a place of the template with the given name. -/
def renderFrom (name : String) (context : Json) : Place → List Piece → Except Error String
  | _, [] => .ok ""
  | place, piece :: rest => do
    let front ← match piece with
      | .text shown _ => .ok shown
      | .tag path written _ => (tagText context path written).mapError (renderError name place)
    let back ← renderFrom name context (place.after piece.source.toList) rest
    return front ++ back

/-- Renders the template with the given name. -/
def render (template : Template) (name : String) (context : Json) : Except Error String :=
  renderFrom name context {} template

end Template

end ModuleBridge
