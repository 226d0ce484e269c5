/-!
# Texts of a configuration

A text stands between one or three quotes. Between double quotes there are escapes; between three of
a kind there may be line feeds, and the first one does not count.
-/

namespace ModuleBridge.Toml

/-- Can the character stand in a text or a comment? -/
def isPlain (c : Char) : Bool :=
  c = '\t' || (0x20 ≤ c.toNat && c ≠ '\x7f')

/-- Is the character a blank between tokens? -/
def isSpace (c : Char) : Bool :=
  c = ' ' || c = '\t'

/-- The value of a hexadecimal digit. -/
def hexValue? (c : Char) : Option Nat :=
  if '0' ≤ c && c ≤ '9' then some (c.toNat - '0'.toNat)
  else if 'a' ≤ c && c ≤ 'f' then some (c.toNat - 'a'.toNat + 10)
  else if 'A' ≤ c && c ≤ 'F' then some (c.toNat - 'A'.toNat + 10)
  else none

/-- The character whose number has `count` hexadecimal digits. -/
def codePoint (count : Nat) (cs : List Char) : Option (Char × List Char) := do
  let digits := cs.take count
  if digits.length < count then none
  else
    let values ← digits.mapM hexValue?
    let n := values.foldl (fun n d => 16 * n + d) 0
    if n.isValidChar then return (Char.ofNat n, cs.drop count) else none

/-- The character that an escape stands for, after the backslash. -/
def escape : List Char → Option (Char × List Char)
  | 'b' :: cs => some ('\x08', cs)
  | 't' :: cs => some ('\t', cs)
  | 'n' :: cs => some ('\n', cs)
  | 'f' :: cs => some ('\x0c', cs)
  | 'r' :: cs => some ('\r', cs)
  | 'e' :: cs => some ('\x1b', cs)
  | '"' :: cs => some ('"', cs)
  | '\\' :: cs => some ('\\', cs)
  | 'x' :: cs => codePoint 2 cs
  | 'u' :: cs => codePoint 4 cs
  | 'U' :: cs => codePoint 8 cs
  | _ => none

/-- The text up to a double quote, and what follows that. -/
def basicText : Nat → List Char → Option (List Char × List Char)
  | 0, _ => none
  | _ + 1, '"' :: cs => some ([], cs)
  | fuel + 1, '\\' :: cs => do
    let (c, cs) ← escape cs
    let (text, rest) ← basicText fuel cs
    return (c :: text, rest)
  | fuel + 1, c :: cs =>
    if isPlain c then do
      let (text, rest) ← basicText fuel cs
      return (c :: text, rest)
    else none
  | _ + 1, [] => none

/-- The text up to a single quote, and what follows that. -/
def literalText (cs : List Char) : Option (List Char × List Char) :=
  let text := cs.takeWhile (· ≠ '\'')
  match cs.drop text.length with
  | _ :: rest => if text.all isPlain then some (text, rest) else none
  | [] => none

/-- What follows the blanks and line feeds at the front. A carriage return goes with a line feed. -/
def afterBlanks : List Char → List Char
  | ' ' :: cs => afterBlanks cs
  | '\t' :: cs => afterBlanks cs
  | '\n' :: cs => afterBlanks cs
  | '\r' :: '\n' :: cs => afterBlanks cs
  | cs => cs

theorem length_afterBlanks_le (cs : List Char) : (afterBlanks cs).length ≤ cs.length := by
  fun_induction afterBlanks cs <;> simp <;> omega

/-- What follows a line feed at the front, if one is there. -/
def afterLineFeed : List Char → List Char
  | '\n' :: cs => cs
  | '\r' :: '\n' :: cs => cs
  | cs => cs

/-- Does a line end at the front? -/
def atLineEnd : List Char → Bool
  | '\n' :: _ => true
  | '\r' :: '\n' :: _ => true
  | _ => false

/-- The quotes of a text that belong to it although they stand before the three that end it: two at
most. -/
def innerQuotes (quotes : Nat) : Nat :=
  min (quotes - 3) 2

/-- The text up to three quotes of a kind, and what follows those. -/
def longText (quote : Char) : Nat → List Char → Option (List Char × List Char)
  | 0, _ => none
  | _ + 1, [] => none
  | fuel + 1, c :: cs =>
    if c = quote then
      let quotes := (c :: cs).takeWhile (· = quote)
      if 3 ≤ quotes.length then
        let inner := innerQuotes quotes.length
        some (List.replicate inner quote, (c :: cs).drop (inner + 3))
      else do
        let (text, rest) ← longText quote fuel cs
        return (c :: text, rest)
    else if c = '\\' && quote = '"' then
      if atLineEnd (cs.dropWhile isSpace) then longText quote fuel (afterBlanks cs)
      else do
        let (e, cs) ← escape cs
        let (text, rest) ← longText quote fuel cs
        return (e :: text, rest)
    else if c = '\n' || isPlain c || (c = '\r' && cs.head? = some '\n') then do
      let (text, rest) ← longText quote fuel cs
      return (c :: text, rest)
    else none

/-- The text in quotes on one line at the front of some characters, if there is one. -/
def shortQuoted? (cs : List Char) : Option (Option (String × List Char)) :=
  match cs with
  | '"' :: cs => some ((basicText (cs.length + 1) cs).map fun (t, rest) => (String.ofList t, rest))
  | '\'' :: cs => some ((literalText cs).map fun (t, rest) => (String.ofList t, rest))
  | _ => none

/-- The text in quotes at the front of some characters, if there is one. -/
def quoted? (cs : List Char) : Option (Option (String × List Char)) :=
  match cs with
  | '"' :: '"' :: '"' :: cs => some (long '"' cs)
  | '\'' :: '\'' :: '\'' :: cs => some (long '\'' cs)
  | _ => shortQuoted? cs
where
  /-- The text after three quotes. -/
  long (quote : Char) (cs : List Char) : Option (String × List Char) :=
    let cs := afterLineFeed cs
    (longText quote (cs.length + 1) cs).map fun (t, rest) => (String.ofList t, rest)

end ModuleBridge.Toml
