import ModuleBridge.Source.NumberLiteral
import ModuleBridge.Source.Token
import ModuleBridge.Text.CharacterName

/-!
# String literals

A string literal has letters in front that say what it is, one or three quotes, and a body. Escapes
in the body are replaced unless the literal is raw. The body of a formatted literal is cut into
literal parts and expressions; an expression ends where a brace, a conversion or a format closes it
outside all brackets and strings of its own.
-/

namespace ModuleBridge.Source

/-- What the letters in front of a string literal say. -/
structure LiteralKind where
  bytes : Bool := false
  /-- Is it said that the literal is a text? -/
  text : Bool := false
  raw : Bool := false
  format : Bool := false
  deriving DecidableEq, Repr

/-- The kind with one more letter, if the letter may stand there. -/
def LiteralKind.add (kind : LiteralKind) (c : Char) : Option LiteralKind :=
  if (c = 'b' || c = 'B') && !kind.bytes && !kind.text && !kind.format then
    some { kind with bytes := true }
  else if (c = 'u' || c = 'U') && !kind.bytes && !kind.text && !kind.raw && !kind.format then
    some { kind with text := true }
  else if (c = 'r' || c = 'R') && !kind.raw && !kind.text then some { kind with raw := true }
  else if (c = 'f' || c = 'F') && !kind.format && !kind.bytes && !kind.text then
    some { kind with format := true }
  else none

/-- The kind of a string literal that the characters begin with, its quote and what follows the
quote. -/
def literalStart (kind : LiteralKind) : List Char → Option (LiteralKind × Char × List Char)
  | [] => none
  | c :: cs =>
    if c = '\'' || c = '"' then some (kind, c, cs)
    else (kind.add c).bind fun kind => literalStart kind cs

/-- Takes the body of a literal between single quotes, and the quote after it. -/
def shortBody (quote : Char) (body : List Char) : List Char → Option (List Char × List Char)
  | [] => none
  | '\\' :: c :: cs => shortBody quote (c :: '\\' :: body) cs
  | c :: cs =>
    if c = quote then some (body.reverse, cs)
    else if c = '\n' then none
    else shortBody quote (c :: body) cs

/-- Takes the body of a literal between triple quotes, and the quotes after it. `seen` quotes stand
right before the characters. -/
def longBody (quote : Char) (seen : Nat) (body : List Char) :
    List Char → Option (List Char × List Char)
  | [] => none
  | '\\' :: c :: cs => longBody quote 0 (c :: '\\' :: body) cs
  | c :: cs =>
    if c = quote then
      if seen = 2 then some ((body.drop 2).reverse, cs)
      else longBody quote (seen + 1) (c :: body) cs
    else longBody quote 0 (c :: body) cs

/-- Takes the body of a literal whose first quote is taken. -/
def literalBody (quote : Char) : List Char → Option (List Char × List Char)
  | a :: b :: cs =>
    if a = quote && b = quote then longBody quote 0 [] cs
    else if a = quote then some ([], b :: cs)
    else shortBody quote [] (a :: b :: cs)
  | [a] => if a = quote then some ([], []) else none
  | [] => none

/-! ## Escapes -/

/-- The value of a hexadecimal digit. -/
def hexValue? (c : Char) : Option Nat :=
  if c.isDigit then some (c.toNat - 48)
  else if 'a' ≤ c && c ≤ 'f' then some (c.toNat - 87)
  else if 'A' ≤ c && c ≤ 'F' then some (c.toNat - 55)
  else none

/-- The value of hexadecimal digits. -/
def hexNumber? (cs : List Char) : Option Nat :=
  cs.foldlM (fun n c => (hexValue? c).map (n * 16 + ·)) 0

/-- Takes as many hexadecimal digits as asked for. -/
def takeHex (count : Nat) (cs : List Char) : Option (Nat × List Char) :=
  if cs.length < count then none
  else (hexNumber? (cs.take count)).map fun n => (n, cs.drop count)

/-- The character with a code, unless it is half of a surrogate pair. -/
def scalar? (n : Nat) : Option Char :=
  if 0xD800 ≤ n && n ≤ 0xDFFF then none else some (Char.ofNat n)

/-- Takes the name of a character between braces, and gives the character. -/
def takeNamed (cs : List Char) : Option (Char × List Char) :=
  match cs with
  | '\x7b' :: cs => do
    let name := cs.takeWhile (· ≠ '\x7d')
    if (cs.drop name.length).isEmpty then none
    else
      let c ← Text.CharacterName.find? name
      return (c, cs.drop (name.length + 1))
  | _ => none

/-- At most `count` octal digits at the front of some characters, and the characters after them. -/
def takeOctal : Nat → Nat → List Char → Nat × List Char
  | 0, value, cs => (value, cs)
  | _ + 1, value, [] => (value, [])
  | count + 1, value, c :: cs =>
    if isOctalDigit c then takeOctal count (value * 8 + (c.toNat - 48)) cs else (value, c :: cs)

/-- The character that a letter after a backslash stands for. -/
def simpleEscape? (c : Char) : Option Char :=
  match c with
  | '\\' => some '\\'
  | '\'' => some '\''
  | '"' => some '"'
  | 'a' => some '\x07'
  | 'b' => some '\x08'
  | 'f' => some '\x0c'
  | 'n' => some '\n'
  | 'r' => some '\r'
  | 't' => some '\t'
  | 'v' => some '\x0b'
  | _ => none

/-- What an escape in a text stands for, and the characters after it. An escape that has no meaning
stands for itself. -/
def takeEscape (c : Char) (cs : List Char) : Option (List (Option Char) × List Char) :=
  if c = '\n' then some ([], cs)
  else if c = 'x' then (takeHex 2 cs).map fun (n, cs) => ([scalar? n], cs)
  else if c = 'u' then (takeHex 4 cs).map fun (n, cs) => ([scalar? n], cs)
  else if c = 'U' then do
    let (n, cs) ← takeHex 8 cs
    if 0x10FFFF < n then none else some ([scalar? n], cs)
  else if c = 'N' then (takeNamed cs).map fun (named, cs) => ([some named], cs)
  else if isOctalDigit c then
    let (n, cs) := takeOctal 3 0 (c :: cs)
    some ([scalar? n], cs)
  else
    match simpleEscape? c with
    | some c => some ([some c], cs)
    | none => some ([some '\\', some c], cs)

/-- The characters of a text with its escapes replaced, at most `fuel` of them. A character that is
none by itself is left open. -/
def unescape : Nat → List Char → Option (List (Option Char))
  | 0, _ => some []
  | _ + 1, [] => some []
  | fuel + 1, '\\' :: c :: cs => do
    let (value, cs) ← takeEscape c cs
    return value ++ (← unescape fuel cs)
  | fuel + 1, c :: cs => do return some c :: (← unescape fuel cs)

/-- The text that a body stands for. -/
def textOf (raw : Bool) (body : List Char) : Option StringLiteral :=
  if raw then some (.text (some (String.ofList body)))
  else (unescape body.length body).map fun cs => .text ((cs.mapM id).map String.ofList)

/-- Are the numbered escapes among the bytes of a body complete? -/
def completeByteEscapes : List Char → Bool
  | '\\' :: 'x' :: cs =>
    match cs with
    | a :: b :: cs => isHexDigit a && isHexDigit b && completeByteEscapes cs
    | _ => false
  | '\\' :: _ :: cs => completeByteEscapes cs
  | _ :: cs => completeByteEscapes cs
  | [] => true

/-- The bytes that a body stands for. Only ASCII characters stand for bytes. -/
def bytesOf (raw : Bool) (body : List Char) : Option StringLiteral :=
  if body.all (·.toNat < 0x80) && (raw || completeByteEscapes body) then some .bytes else none

/-! ## Formatted literals -/

/-- Is the character a brace? -/
def isBrace (c : Char) : Bool :=
  c = '\x7b' || c = '\x7d'

/-- Ends a literal part at a brace. Outside all formats two equal braces are one literal brace,
which the flag tells, and a closing brace does not stand alone. -/
def endPart (depth : Nat) (part : List Char) (brace : Char) (cs : List Char) :
    Option (List Char × Bool × List Char) :=
  if depth = 0 then
    if cs.head? = some brace then some ((brace :: part).reverse, true, cs.drop 1)
    else if brace = '\x7d' then none
    else some (part.reverse, false, brace :: cs)
  else some (part.reverse, false, brace :: cs)

/-- The literal part at the front of a formatted body, whether two equal braces end it, and what
follows it, at the depth of nested formats. -/
def formatText (raw : Bool) (depth : Nat) (part : List Char) :
    List Char → Option (List Char × Bool × List Char)
  | [] => some (part.reverse, false, [])
  | '\\' :: c :: cs =>
    if raw then formatText raw depth ('\\' :: part) (c :: cs)
    else if c = 'N' && cs.head? = some '\x7b' then
      let name := cs.takeWhile (· ≠ '\x7d')
      formatText raw depth ((cs.take (name.length + 1)).reverse ++ 'N' :: '\\' :: part)
        (cs.drop (name.length + 1))
    else if isBrace c then endPart depth ('\\' :: part) c cs
    else formatText raw depth (c :: '\\' :: part) cs
  | c :: cs => if isBrace c then endPart depth part c cs else formatText raw depth (c :: part) cs
termination_by cs => cs.length
decreasing_by
  all_goals
    simp only [List.length_cons, List.length_drop]
    omega

/-- The most brackets that may be open at once. -/
def bracketLimit : Nat := 200

/-- Where a scan of an expression in a formatted body is. -/
inductive FormatScan
  /-- Outside all strings. -/
  | plain
  /-- In a string with the given quote, three of it if `triple`. -/
  | quoted (quote : Char) (triple : Bool)

/-- Does the character follow twice more? -/
def isTripled (c : Char) (cs : List Char) : Bool :=
  [c, c].isPrefixOf cs

/-- May the character end an expression outside all of its brackets and strings? -/
def isExpressionMark (c : Char) : Bool :=
  c = '!' || c = ':' || c = '\x7d' || c = '=' || c = '<' || c = '>'

/-- Is the character, with an equals sign after it, a comparison? -/
def isComparisonMark (c : Char) : Bool :=
  c = '!' || c = '=' || c = '<' || c = '>'

/-- The expression at the front of a formatted body, whose brace is taken, and what follows it from
the character that ends it. `brackets` are open and wait for these closing ones. -/
def formatExpression (scan : FormatScan) (brackets : List Char) (expression : List Char) :
    List Char → Option (List Char × List Char)
  | [] => none
  | c :: cs =>
    if c = '\\' then none
    else
      match scan with
      | .quoted quote triple =>
        if c ≠ quote then formatExpression scan brackets (c :: expression) cs
        else if !triple then formatExpression .plain brackets (c :: expression) cs
        else if isTripled c cs then
          formatExpression .plain brackets (c :: c :: c :: expression) (cs.drop 2)
        else formatExpression scan brackets (c :: expression) cs
      | .plain =>
        if c = '\'' || c = '"' then
          if isTripled c cs then
            formatExpression (.quoted c true) brackets (c :: c :: c :: expression) (cs.drop 2)
          else formatExpression (.quoted c false) brackets (c :: expression) cs
        else if c = '#' then none
        else
          match closingBracket? c.toString with
          | some closing =>
            if bracketLimit ≤ brackets.length then none
            else formatExpression .plain (closing.toList ++ brackets) (c :: expression) cs
          | none =>
            if brackets.isEmpty && isExpressionMark c then
              if isComparisonMark c && cs.head? = some '=' then
                formatExpression .plain brackets ('=' :: c :: expression) (cs.drop 1)
              else if c = '<' || c = '>' then
                formatExpression .plain brackets (c :: expression) cs
              else some (expression.reverse, c :: cs)
            else if isClosingBracket c.toString then
              match brackets with
              | b :: brackets =>
                if b = c then formatExpression .plain brackets (c :: expression) cs else none
              | [] => none
            else formatExpression .plain brackets (c :: expression) cs
termination_by cs => cs.length
decreasing_by
  all_goals
    simp only [List.length_cons, List.length_drop]
    omega

/-- Is the character a blank inside an expression? -/
def isExpressionBlank (c : Char) : Bool :=
  c = ' ' || c = '\t' || c = '\n' || c = '\x0c'

/-- Takes a conversion, if there is one: a mark and one of three letters. -/
def takeConversion : List Char → Option (List Char)
  | '!' :: c :: cs => if c = 's' || c = 'r' || c = 'a' then some cs else none
  | ['!'] => none
  | cs => some cs

/-- Takes the sign that asks for the text of an expression, if there is one, and the blanks after
it. -/
def takeSelfText : List Char → List Char
  | '=' :: cs => cs.dropWhile fun c => isExpressionBlank c || c = '\x0b' || c = '\r'
  | cs => cs

/-- Formats nest at most this deep. -/
def formatDepth : Nat := 2

/-- The parts of a formatted body, and what follows it: nothing outside all formats, and the closing
brace inside one. -/
def formatParts (raw : Bool) : Nat → Nat → List Char → Option (List FormatPart × List Char)
  | 0, _, _ => none
  | fuel + 1, depth, cs => do
    let (part, again, rest) ← formatText raw depth [] cs
    let value ← textOf raw part
    let text := if value = .text (some "") then [] else [FormatPart.text depth]
    if again then
      let (later, rest) ← formatParts raw fuel depth rest
      return (text ++ later, rest)
    else
      match rest with
      | '\x7b' :: rest =>
        if formatDepth ≤ depth then none
        else
          let (expression, rest) ← formatExpression .plain [] [] rest
          if expression.all isExpressionBlank then none
          else
            let rest ← takeConversion (takeSelfText rest)
            let (inner, rest) ←
              match rest with
              | ':' :: rest => if rest.isEmpty then none else formatParts raw fuel (depth + 1) rest
              | rest => some ([], rest)
            match rest with
            | '\x7d' :: rest =>
              let (later, rest) ← formatParts raw fuel depth rest
              return (text ++ .expression depth expression :: inner ++ later, rest)
            | _ => none
      | rest => some (text, rest)

/-- What a formatted body stands for. -/
def formatOf (raw : Bool) (body : List Char) : Option StringLiteral :=
  match formatParts raw (body.length + 1) 0 body with
  | some (parts, []) => some (.format parts)
  | _ => none

/-- What a literal of a kind with a body stands for. -/
def literalOf (kind : LiteralKind) (body : List Char) : Option StringLiteral :=
  if kind.bytes then bytesOf kind.raw body
  else if kind.format then formatOf kind.raw body
  else textOf kind.raw body

/-- Takes a string literal off the front of some characters. -/
def takeString (cs : List Char) : Option (Option StringLiteral × List Char) := do
  let (kind, quote, cs) ← literalStart {} cs
  match literalBody quote cs with
  | none => return (none, [])
  | some (body, rest) => return (literalOf kind body, rest)

end ModuleBridge.Source
