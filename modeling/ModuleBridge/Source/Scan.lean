import ModuleBridge.Source.TextLiteral

/-!
# From characters to tokens

`tokens?` gives the tokens of a source, or none if a lexeme or the layout of the lines is faulty.
Blocks are found by the columns in which lines begin, once with tabs taken as jumps to the next
multiple of eight and once with tabs taken as single blanks; both have to tell the same. Lines
inside brackets, lines joined by a backslash and lines without a token do not count.
-/

namespace ModuleBridge.Source

/-- The columns in which a line begins, by both ways of counting tabs. -/
structure Columns where
  column : Nat
  tabless : Nat
  deriving DecidableEq, Repr

/-- The columns after the blanks of a line, and what follows the blanks. A backslash before the end
of a line joins the next line and fixes the column, unless that is still zero. -/
def indentation (columns : Columns) (fixed : Nat) : List Char → Option (Columns × List Char)
  | ' ' :: cs => indentation ⟨columns.column + 1, columns.tabless + 1⟩ fixed cs
  | '\t' :: cs => indentation ⟨(columns.column / 8 + 1) * 8, columns.tabless + 1⟩ fixed cs
  | '\x0c' :: cs => indentation ⟨0, 0⟩ fixed cs
  | '\\' :: '\n' :: c :: cs =>
    indentation columns (if fixed = 0 then columns.column else fixed) (c :: cs)
  | '\\' :: _ => none
  | cs => some (if fixed = 0 then columns else ⟨fixed, fixed⟩, cs)

/-- The most blocks that may be open at once, the outermost one counted. -/
def blockLimit : Nat := 100

/-- Closes the blocks that begin in a later column. Gives their number and the blocks that stay. -/
def closeBlocks (column : Nat) : List Columns → Nat × List Columns
  | [] => (0, [])
  | b :: blocks =>
    if column < b.column then
      let (count, blocks) := closeBlocks column blocks
      (count + 1, blocks)
    else (0, b :: blocks)

/-- The blocks that are open in a line which begins in the given columns, and the tokens for those
that begin or end there. -/
def layout (columns : Columns) (blocks : List Columns) : Option (List Token × List Columns) :=
  match blocks with
  | [] => none
  | b :: _ =>
    if b.column < columns.column then
      if blockLimit ≤ blocks.length || columns.tabless ≤ b.tabless then none
      else some ([.indent], columns :: blocks)
    else
      let (count, blocks) := closeBlocks columns.column blocks
      if blocks.head? = some columns then some (List.replicate count .dedent, blocks) else none

/-- Is the character one of those that a name is cut out by? -/
def isNamePart (c : Char) : Bool :=
  c = '_' || c.isAlphanum || 0x80 ≤ c.toNat

/-- The name at the front of some characters, if its characters may form one. -/
def takeName (cs : List Char) : Option (Token × List Char) :=
  let name := cs.takeWhile isNamePart
  match name with
  | [] => none
  | c :: rest =>
    if isNameStart c && rest.all isNameTail then
      some (.ofName (String.ofList name), cs.drop name.length)
    else none

/-- The lexeme at the front of some characters that are not blank. -/
def takeLexeme (cs : List Char) : Option (Token × List Char) :=
  match takeString cs with
  | some (literal, rest) => literal.map fun literal => (.string literal, rest)
  | none =>
    match cs with
    | [] => none
    | c :: rest =>
      if c.isDigit then (takeNumber c rest).map fun (imaginary, rest) => (.number imaginary, rest)
      else if c = '.' && (rest.head?.map Char.isDigit).getD false then
        (fraction rest).map fun (imaginary, rest) => (.number imaginary, rest)
      else if isNamePart c then takeName cs
      else (takeOperator cs).map fun (text, rest) => (.op text, rest)

/-- The brackets that are open after a lexeme, each by the bracket that will close it. -/
def afterLexeme (token : Token) (brackets : List String) : Option (List String) :=
  match token with
  | .op text =>
    match closingBracket? text with
    | some closing => if bracketLimit ≤ brackets.length then none else some (closing :: brackets)
    | none =>
      if isClosingBracket text then
        match brackets with
        | b :: brackets => if b = text then some brackets else none
        | [] => none
      else some brackets
  | _ => some brackets

/-- Where a scan is in its line. -/
inductive LineScan
  /-- In front of the line. -/
  | front
  /-- In a line whose tokens count. -/
  | inside
  /-- In a line without a token. -/
  | empty
  deriving DecidableEq

/-- Is the character a blank between tokens? -/
def isTokenBlank (c : Char) : Bool :=
  c = ' ' || c = '\t' || c = '\x0c'

/-- Scans characters in at most `fuel` steps. The tokens so far are in reverse. -/
def scan : Nat → List Columns → List String → LineScan → List Token → List Char →
    Option (List Token)
  | 0, _, _, _, _, _ => none
  | fuel + 1, blocks, brackets, .front, done, cs => do
    let (columns, cs) ← indentation ⟨0, 0⟩ 0 cs
    if cs.head? = some '#' || cs.head? = some '\n' then scan fuel blocks brackets .empty done cs
    else if !brackets.isEmpty then scan fuel blocks brackets .inside done cs
    else
      let (tokens, blocks) ← layout columns blocks
      scan fuel blocks brackets .inside (tokens ++ done) cs
  | fuel + 1, blocks, brackets, line, done, cs =>
    match cs.dropWhile isTokenBlank with
    | [] => if brackets.isEmpty then some done.reverse else none
    | '\n' :: cs =>
      if line = .empty || !brackets.isEmpty then scan fuel blocks brackets .front done cs
      else scan fuel blocks brackets .front (.newline :: done) cs
    | '#' :: cs => scan fuel blocks brackets line done (cs.dropWhile (· ≠ '\n'))
    | '\\' :: '\n' :: c :: cs => scan fuel blocks brackets line done (c :: cs)
    | '\\' :: _ => none
    | cs => do
      let (token, cs) ← takeLexeme cs
      let brackets ← afterLexeme token brackets
      scan fuel blocks brackets line (token :: done) cs

/-- The characters with every line ended by a line feed, the last one too. -/
def withLineFeeds (cs : List Char) : List Char :=
  let rec go : List Char → List Char
    | [] => []
    | '\r' :: '\n' :: cs => '\n' :: go cs
    | '\r' :: cs => '\n' :: go cs
    | c :: cs => c :: go cs
  let cs := go cs
  if cs.getLast? = some '\n' || cs.isEmpty then cs else cs ++ ['\n']

/-- The tokens of a source. No source has the character U+0000 in it. -/
def tokens? (source : List Char) : Option (List Token) :=
  if source.contains '\x00' then none
  else
    let cs := withLineFeeds source
    scan (2 * cs.length + 3) [⟨0, 0⟩] [] .front [] cs

end ModuleBridge.Source
