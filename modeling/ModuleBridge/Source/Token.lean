/-!
# Tokens of a Python source

A source is a list of tokens. The layout of its lines is in the tokens too: `newline` ends a logical
line, and `indent` and `dedent` stand where a block begins and ends.
-/

namespace ModuleBridge.Source

/-- A part of a text with expressions in it. The formats of expressions have parts too, and so on;
the depth of a part is the number of formats it is in. -/
inductive FormatPart
  /-- Some characters. -/
  | text (depth : Nat)
  /-- An expression, in its own characters. -/
  | expression (depth : Nat) (characters : List Char)
  deriving DecidableEq, Repr

/-- What a string literal, apart from its spelling, is. -/
inductive StringLiteral
  /-- A text. There is none if half of a surrogate pair is in it: no name can be equal to it. -/
  | text (value : Option String)
  /-- A string of bytes. -/
  | bytes
  /-- A text with expressions in it. -/
  | format (parts : List FormatPart)
  deriving DecidableEq, Repr

/-- A token. -/
inductive Token
  /-- A name that is no keyword. -/
  | name (text : String)
  | keyword (text : String)
  | number (imaginary : Bool)
  | string (literal : StringLiteral)
  /-- An operator, a bracket or a separator. -/
  | op (text : String)
  | newline
  | indent
  | dedent
  deriving DecidableEq, Repr

/-- The names that have a meaning of their own everywhere. -/
def keywords : List String := [
  "False", "None", "True", "and", "as", "assert", "async", "await", "break", "class", "continue",
  "def", "del", "elif", "else", "except", "finally", "for", "from", "global", "if", "import",
  "in", "is", "lambda", "nonlocal", "not", "or", "pass", "raise", "return", "try", "while",
  "with", "yield"]

/-- The token of a name. -/
def Token.ofName (text : String) : Token :=
  if keywords.contains text then .keyword text else .name text

/-- Operators of three characters. -/
def tripleOperators : List String := ["**=", "...", "//=", "<<=", ">>="]

/-- Operators of two characters. -/
def doubleOperators : List String := [
  "!=", "%=", "&=", "**", "*=", "+=", "-=", "->", "/=", "//", ":=", "<<", "<=", "<>", "==", ">=",
  ">>", "@=", "^=", "|="]

/-- Operators of one character. -/
def singleOperators : List Char := [
  '%', '&', '(', ')', '*', '+', ',', '-', '.', '/', ':', ';', '<', '=', '>', '@', '[', ']', '^',
  '\x7b', '|', '\x7d', '~']

/-- The operator at the front of some characters, the longest there is, and the characters after
it. -/
def takeOperator (cs : List Char) : Option (String × List Char) :=
  let three := String.ofList (cs.take 3)
  let two := String.ofList (cs.take 2)
  if tripleOperators.contains three then some (three, cs.drop 3)
  else if doubleOperators.contains two then some (two, cs.drop 2)
  else
    match cs with
    | [] => none
    | c :: rest => if singleOperators.contains c then some (c.toString, rest) else none

/-- The closing bracket that an opening one asks for. -/
def closingBracket? (opening : String) : Option String :=
  match opening with
  | "(" => some ")"
  | "[" => some "]"
  | "\x7b" => some "\x7d"
  | _ => none

/-- Is the operator a closing bracket? -/
def isClosingBracket (text : String) : Bool :=
  text = ")" || text = "]" || text = "\x7d"

end ModuleBridge.Source
