import ModuleBridge.Template.Template

/-!
# Reading templates

A tag is a path between two or three braces, with blanks around it. A path is a row of names with
dots or slashes between them. A backslash in front of two braces makes them a text; a row of
backslashes there loses one. What is no tag in this sense is no template.
-/

namespace ModuleBridge.Template

/-- Is the character a blank inside a tag? -/
def isTagBlank (c : Char) : Bool :=
  c = ' ' || c = '\t' || c = '\n' || c = '\r'

/-- Can the character be part of a name in a path? -/
def isNameChar (c : Char) : Bool :=
  c.isAlphanum || c = '-' || c = '_' || c = '$' || 0x80 ≤ c.toNat

/-- Does the character stand between two names of a path? -/
def isSeparator (c : Char) : Bool := c = '.' || c = '/'

/-- The name by which a path means the value it begins at. -/
def selfName : List Char := ['t', 'h', 'i', 's']

/-- Takes a name off the front of some characters. In square brackets it may have any characters
but the closing one. -/
def takeName : List Char → Option (List Char × List Char)
  | '[' :: cs =>
    let name := cs.takeWhile (· ≠ ']')
    match cs.drop name.length with
    | ']' :: rest => some (name, rest)
    | _ => none
  | cs =>
    let name := cs.takeWhile isNameChar
    if name.isEmpty then none else some (name, cs.drop name.length)

/-- Takes the names after the first, each with a separator in front of it, in at most `fuel`
steps. -/
def takeNames : Nat → List Char → Option (List (List Char) × List Char)
  | 0, _ => none
  | _ + 1, [] => some ([], [])
  | fuel + 1, c :: cs =>
    if isSeparator c then do
      let (name, rest) ← takeName cs
      let (names, rest) ← takeNames fuel rest
      return (name :: names, rest)
    else some ([], c :: cs)

/-- What follows the steps at the front of a path that stay at the value where it begins, in at
most `fuel` steps: `this`, a dot, or two dots, since nothing lies above the context. -/
def dropStays : Nat → List Char → List Char
  | 0, cs => cs
  | fuel + 1, cs =>
    match cs with
    | '.' :: '/' :: rest => dropStays fuel rest
    | '.' :: '.' :: c :: rest => if isSeparator c then dropStays fuel rest else cs
    | 't' :: 'h' :: 'i' :: 's' :: c :: rest => if isSeparator c then dropStays fuel rest else cs
    | _ => cs

/-- Takes a path off the front of some characters. A name `this` in it stays where it is. -/
def takePath (cs : List Char) : Option (List String × List Char) := do
  let (first, rest) ← takeName (dropStays cs.length cs)
  let (more, rest) ← takeNames (rest.length + 1) rest
  return (((first :: more).filter (· ≠ selfName)).map String.ofList, rest)

/-- Takes the tag after its opening braces, which ends in `count` closing ones. With two braces
`else` is no path. -/
def takeTag (count : Nat) (cs : List Char) : Option (Piece × List Char) := do
  let front := cs.takeWhile isTagBlank
  let inner := cs.drop front.length
  let (path, rest) ← takePath inner
  let written := String.ofList (inner.take (inner.length - rest.length))
  let back := rest.takeWhile isTagBlank
  let rest := rest.drop back.length
  let closing := List.replicate count '\x7d'
  if !closing.isPrefixOf rest || (count = 2 && written = "else") then none
  else
    let rest := rest.drop count
    let opening := List.replicate count '\x7b'
    let source := opening ++ cs.take (cs.length - rest.length)
    return (.tag path written (String.ofList source), rest)

/-- A text as a piece before others, if there is any. -/
def withText (shown source : List Char) (pieces : List Piece) : List Piece :=
  if source.isEmpty then pieces
  else .text (String.ofList shown.reverse) (String.ofList source.reverse) :: pieces

/-- Reads pieces in at most `fuel` steps. The text begun is given in reverse, as it is printed and
as it was written. -/
def pieces : Nat → List Char → List Char → List Char → Option (List Piece)
  | 0, _, _, _ => none
  | _ + 1, shown, source, [] => some (withText shown source [])
  | fuel + 1, shown, source, '\\' :: cs =>
    let slashes := cs.takeWhile (· = '\\')
    let rest := cs.drop slashes.length
    match rest with
    | '\x7b' :: '\x7b' :: after =>
      if slashes.isEmpty then
        let more := if ['\x7b', '\x7b'].isPrefixOf after then ['\x7b', '\x7b'] else []
        let braces := '\x7b' :: '\x7b' :: more
        pieces fuel (braces ++ shown) (braces ++ '\\' :: source) (after.drop more.length)
      else do
        let (tag, after) ← takeBraces ('\x7b' :: '\x7b' :: after)
        let rest ← pieces fuel [] [] after
        return withText (slashes ++ shown) ('\\' :: slashes ++ source) (tag :: rest)
    | _ => pieces fuel ('\\' :: slashes ++ shown) ('\\' :: slashes ++ source) rest
  | fuel + 1, shown, source, '\x7b' :: '\x7b' :: cs => do
    let (tag, after) ← takeBraces ('\x7b' :: '\x7b' :: cs)
    let rest ← pieces fuel [] [] after
    return withText shown source (tag :: rest)
  | fuel + 1, shown, source, c :: cs => pieces fuel (c :: shown) (c :: source) cs
where
  /-- Takes the tag at the front of some characters. -/
  takeBraces : List Char → Option (Piece × List Char)
    | '\x7b' :: '\x7b' :: '\x7b' :: cs => takeTag 3 cs
    | '\x7b' :: '\x7b' :: cs => takeTag 2 cs
    | _ => none

/-- The template that a text is. -/
def parse? (text : String) : Option Template :=
  pieces (text.toList.length + 1) [] [] text.toList

end ModuleBridge.Template
