import ModuleBridge.Error
import ModuleBridge.Text.Alphabetic
import ModuleBridge.Text.Numeric

/-!
# Identifiers of generated code

A name that Python code may use is also a name in generated code, unless it is a reserved word
there. `toIdentifier` makes an identifier of any text, and `freeName` one that nothing else has.
-/

namespace ModuleBridge.Generation

/-- The words that cannot be bound in a module. Reference: `RESERVED_WORDS`. -/
def reservedWords : List String := [
  "arguments", "await", "break", "case", "catch", "class", "const", "continue", "debugger",
  "default", "delete", "do", "else", "enum", "eval", "export", "extends", "false", "finally",
  "for", "function", "if", "implements", "import", "in", "instanceof", "interface", "let", "new",
  "null", "package", "private", "protected", "public", "return", "static", "super", "switch",
  "this", "throw", "true", "try", "typeof", "var", "void", "while", "with", "yield"]

/-- Is the word one that cannot be bound? Reference: `is_reserved_word`. -/
def isReservedWord (word : String) : Bool :=
  reservedWords.contains word

/-- Is the character a letter or a digit of any script? -/
def isAlphanumeric (c : Char) : Bool :=
  Text.isAlphabetic c || Text.isNumeric c

/-- Can the character stand in an identifier after the first one? -/
def isIdentifierTail (c : Char) : Bool :=
  c = '_' || isAlphanumeric c

/-- Can the character begin an identifier? -/
def isIdentifierStart (c : Char) : Bool :=
  c = '_' || Text.isAlphabetic c

/-- Is the name an identifier? Reserved words are. Reference: `is_identifier`. -/
def isIdentifier (name : String) : Bool :=
  match name.toList with
  | [] => false
  | c :: cs => isIdentifierStart c && cs.all isIdentifierTail

/-- Does an underscore have to go in front of the characters to make them an identifier? -/
def needsUnderscore : List Char → Bool
  | [] => true
  | c :: _ => Text.isNumeric c

/-- The identifier for a name. Each character that cannot stand in one becomes an underscore, one
goes in front of a digit, and one after a reserved word. Reference: `to_identifier`. -/
def toIdentifier (name : String) : String :=
  let cs := name.toList.map fun c => if isIdentifierTail c then c else '_'
  let identifier := String.ofList (if needsUnderscore cs then '_' :: cs else cs)
  if isReservedWord identifier then identifier ++ "_" else identifier

/-- Accepts an identifier, called by the name of its field in the error. Reference:
`require_identifier`. -/
def requireIdentifier (field name : String) : Except Error Unit :=
  if isIdentifier name then .ok ()
  else .error (.validation field s!"'{name}' is not a valid identifier")

/-- The candidate with as few underscores after it as make it differ from all names in use, if no
more than `spare` are needed. -/
def extendWithin (used : List String) : Nat → String → String
  | 0, candidate => candidate
  | spare + 1, candidate =>
    if used.contains candidate then extendWithin used spare (candidate ++ "_") else candidate

/-- The candidate with as few underscores after it as make it differ from all names in use. No more
are needed than there are names. -/
def extend (used : List String) (candidate : String) : String :=
  extendWithin used used.length candidate

/-- The base with at least one underscore after it, so that it is neither reserved nor in use.
Reference: `free_name`. -/
def freeName (base : String) (used : List String) : String :=
  extend (reservedWords ++ used) (base ++ "_")

end ModuleBridge.Generation
