import ModuleBridge.Toml.Text

/-!
# The lines of a configuration

A line holds a header, or a key and a value; values in brackets may go over several lines. `lines?`
cuts a text into its lines and leaves keys, texts, numbers and moments as they are written, so that
a fault of one of those is met only when the lines are read in their order. Brackets nest at most 80
deep.
-/

namespace ModuleBridge.Toml

/-- A key as it is written: the parts between its dots. -/
abbrev WrittenKey := List (List Char)

/-- A value as it is written. -/
inductive Written
  /-- A text in quotes, or anything else without brackets. -/
  | plain (cs : List Char)
  | array (items : List Written)
  | table (members : List (WrittenKey × Written))

/-- A line as it is written. -/
inductive Line
  /-- The header of a table, or of one more table in an array. -/
  | header (isArray : Bool) (path : WrittenKey)
  /-- A value under a key. -/
  | entry (key : WrittenKey) (value : Written)

/-- Takes something off the front of a text, or fails. -/
abbrev Take (α : Type) := StateT (List Char) Option α

namespace Take

/-- Fails. -/
def fail : Take α := fun _ => none

/-- The characters that are left. -/
def left : Take (List Char) := fun cs => some (cs, cs)

/-- Takes as many characters as the front of those that are left has by a measure. -/
def front (length : List Char → Nat) : Take (List Char) := fun cs =>
  some (cs.take (length cs), cs.drop (length cs))

/-- Takes the given character if it is next. -/
def accept (c : Char) : Take Bool := fun cs =>
  match cs with
  | d :: rest => if d = c then some (true, rest) else some (false, cs)
  | [] => some (false, [])

/-- Takes the given character. -/
def expect (c : Char) : Take Unit := do
  if ← accept c then return () else fail

/-- Takes blanks. -/
def spaces : Take Unit := fun cs => some ((), cs.dropWhile isSpace)

/-- Takes a comment, if one is next. -/
def comment : Take Unit := fun cs =>
  match cs with
  | '#' :: rest => some ((), rest.dropWhile isPlain)
  | _ => some ((), cs)

/-- What follows blanks, comments and the ends of lines at the front. -/
def afterGaps (cs : List Char) : List Char :=
  match _h : afterBlanks cs with
  | '#' :: comment =>
    let rest := comment.dropWhile isPlain
    if atLineEnd rest then afterGaps rest else '#' :: rest
  | cs => cs
termination_by cs.length
decreasing_by
  have hle := length_afterBlanks_le cs
  have hdrop := (List.dropWhile_suffix isPlain : comment.dropWhile isPlain <:+ comment).length_le
  rw [_h, List.length_cons] at hle
  omega

/-- Takes blanks, comments and the ends of lines. -/
def gaps : Take Unit := fun cs => some ((), afterGaps cs)

end Take

open Take

/-! ## How far a part goes -/

/-- The length of a text that ends with a quote or before the end of the line. -/
def shortLength (quote : Char) : List Char → Nat
  | [] => 0
  | ['\\'] => 1
  | '\\' :: c :: cs =>
    if quote = '"' && (c = '"' || c = '\\') then shortLength quote cs + 2
    else if c = quote then 2
    else shortLength quote (c :: cs) + 1
  | c :: cs =>
    if c = quote then 1 else if c = '\n' then 0 else shortLength quote cs + 1

/-- The length of a text that ends with three to five quotes. -/
def longLength (quote : Char) : List Char → Nat
  | [] => 0
  | c :: cs =>
    if c = quote && [quote, quote].isPrefixOf cs then
      3 + innerQuotes ((c :: cs).takeWhile (· = quote)).length
    else
      match c, cs with
      | '\\', d :: ds =>
        if quote = '"' && (d = '"' || d = '\\') then longLength quote ds + 2
        else longLength quote (d :: ds) + 1
      | _, cs => longLength quote cs + 1

/-- The length of the text in quotes at the front. Without quotes there it is zero. -/
def quotedLength : List Char → Nat
  | '"' :: '"' :: '"' :: cs => longLength '"' cs + 3
  | '\'' :: '\'' :: '\'' :: cs => longLength '\'' cs + 3
  | '"' :: cs => shortLength '"' cs + 1
  | '\'' :: cs => shortLength '\'' cs + 1
  | _ => 0

/-- Can the character go on a word, which is written without quotes? -/
def isWordChar (c : Char) : Bool :=
  !(isSpace c || ['\n', '\r', ',', '[', ']', '\x7b', '\x7d', '#', '=', '.'].contains c)

/-- Is a word next, after blanks? -/
def wordFollows (cs : List Char) : Bool :=
  match cs.dropWhile isSpace with
  | c :: _ => isWordChar c && c ≠ '"' && c ≠ '\''
  | [] => false

/-- The length of a value without quotes: words and dots, where blanks may stand before a word. -/
def bareLength : List Char → Nat
  | [] => 0
  | c :: cs =>
    if isWordChar c || c = '.' || (isSpace c && wordFollows cs) then bareLength cs + 1 else 0

/-- Takes what is in quotes, or else a front without quotes that has a length by a measure. -/
def quotedOr (length : List Char → Nat) : Take (List Char) :=
  front fun cs => if 0 < quotedLength cs then quotedLength cs else length cs

/-! ## Keys and values -/

/-- Takes the parts of a key and the blanks after it, in at most `fuel` steps. -/
def keyWithin : Nat → Take WrittenKey
  | 0 => fail
  | fuel + 1 => do
    let first ← quotedOr fun cs => (cs.takeWhile isWordChar).length
    spaces
    if ← accept '.' then
      spaces
      return first :: (← keyWithin fuel)
    else return [first]

/-- Takes a key and the blanks after it. -/
def key : Take WrittenKey := do
  keyWithin ((← left).length + 1)

/-- How many brackets may be open at once. -/
def nestingLimit : Nat := 80

/-- Is one of some characters next? -/
def isNext (expected : List Char) : Take Bool := fun cs =>
  some ((cs.head?.map expected.contains).getD false, cs)

/-- Takes the items of an array up to its closing bracket, in at most `fuel` steps. -/
def itemsWith (value : Take Written) : Nat → Take (List Written)
  | 0 => fail
  | fuel + 1 => do
    gaps
    if ← accept ']' then return []
    else if ← isNext [',', '=', '\x7d'] then fail
    else
      let v ← value
      gaps
      if ← accept ',' then return v :: (← itemsWith value fuel)
      else
        expect ']'
        return [v]

/-- Takes the members of a table in braces up to the closing one, in at most `fuel` steps. A key
without a value is refused when the table is read. -/
def membersWith (value : Take Written) : Nat → Take (List (WrittenKey × Written))
  | 0 => fail
  | fuel + 1 => do
    gaps
    if ← accept '\x7d' then return []
    else if ← isNext [',', '[', ']', '\x7b'] then fail
    else
      let k ← key
      gaps
      if ← accept '\x7d' then return [(k, .plain [])]
      else
        expect '='
        gaps
        if ← isNext [',', '=', ']'] then fail
        else
          let v ← value
          gaps
          if ← accept ',' then return (k, v) :: (← membersWith value fuel)
          else
            expect '\x7d'
            return [(k, v)]

/-- Takes a value in which `nesting` more brackets may be opened. -/
def value : Nat → Take Written
  | 0 => do
    if ← isNext ['[', '\x7b'] then fail
    else return .plain (← quotedOr bareLength)
  | nesting + 1 => do
    let fuel := (← left).length + 1
    if ← accept '[' then return .array (← itemsWith (value nesting) fuel)
    else if ← accept '\x7b' then return .table (← membersWith (value nesting) fuel)
    else return .plain (← quotedOr bareLength)

/-! ## Lines -/

/-- Takes the end of a line, with a comment before it. -/
def lineEnd : Take Unit := do
  spaces
  comment
  let cs ← left
  if cs.isEmpty then return ()
  else if atLineEnd cs then set (afterLineFeed cs)
  else fail

/-- Takes all that is left of a line. -/
def restOfLine : Take Unit := fun cs => some ((), (cs.dropWhile (· ≠ '\n')).drop 1)

/-- Takes a header. Where nothing that could be a key is next, the header ends with the line. -/
def header : Take Line := do
  expect '['
  let isArray ← accept '['
  spaces
  let path ← key
  if path = [[]] && !(← isNext [']']) then
    restOfLine
    return .header isArray path
  else
    expect ']'
    if isArray then expect ']'
    lineEnd
    return .header isArray path

/-- Takes a key and a value. -/
def entry : Take Line := do
  let k ← key
  expect '='
  spaces
  let v ← value nestingLimit
  lineEnd
  return .entry k v

/-- Takes all lines, in at most `fuel` steps. -/
def linesWithin : Nat → Take (List Line)
  | 0 => fail
  | fuel + 1 => do
    spaces
    let cs ← left
    if cs.isEmpty then return []
    else if cs.head? = some '#' || atLineEnd cs then
      lineEnd
      linesWithin fuel
    else
      let line ← if cs.head? = some '[' then header else entry
      return line :: (← linesWithin fuel)

/-- The lines of a text, if it has any. -/
def lines? (cs : List Char) : Option (List Line) :=
  (linesWithin (cs.length + 1) cs).map (·.1)

end ModuleBridge.Toml
