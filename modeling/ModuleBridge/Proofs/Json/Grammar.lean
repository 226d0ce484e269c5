import Mathlib.Data.List.Forall2
import ModuleBridge.Json.Render

/-!
# The grammar of JSON

What a text may look like, apart from any reader. Blanks stand between tokens; a character of a
string stands for itself or is escaped by a letter, by the number of its UTF-16 unit or by those of
its surrogate pair (`SpellsChar`); arrays and objects nest to any depth (`IsValue`). The strings in
a value that nobody asks for need not make sense as characters (`IsString`), and its numbers need
not fit anywhere (`IsNumber`).
-/

namespace ModuleBridge.Json

/-! ## Blanks -/

/-- Nothing but blanks. -/
def IsGap (cs : List Char) : Prop := ∀ c ∈ cs, c ∈ [' ', '\t', '\n', '\r']

/-- A text with what stands around it. -/
structure Padded where
  before : List Char
  inner : List Char
  after : List Char

namespace Padded

def text (p : Padded) : List Char := p.before ++ (p.inner ++ p.after)

/-- There are only blanks around the text. -/
structure IsSpaced (p : Padded) : Prop where
  before : IsGap p.before
  after : IsGap p.after

end Padded

/-! ## Strings -/

/-- The letters that may follow a backslash, each with the character that it stands for. -/
def letterEscapes : List (Char × Char) :=
  [('"', '"'), ('\\', '\\'), ('/', '/'), ('b', '\x08'), ('f', '\x0c'), ('n', '\n'), ('r', '\r'),
    ('t', '\t')]

/-- A character that may stand for itself. -/
structure IsVerbatim (c : Char) : Prop where
  printable : 0x20 ≤ c.toNat
  quote : c ≠ '"'
  backslash : c ≠ '\\'

/-- A hexadecimal digit, in lower or in upper case. -/
def IsHexDigit (c : Char) (value : Nat) : Prop :=
  value < 16 ∧ (c = Nat.digitChar value ∨ c = (Nat.digitChar value).toUpper)

/-- The four digits of a UTF-16 unit. -/
inductive SpellsUnit : List Char → Nat → Prop
  | intro {a b c d : Char} {i j k l : Nat} (ha : IsHexDigit a i) (hb : IsHexDigit b j)
    (hc : IsHexDigit c k) (hd : IsHexDigit d l) :
    SpellsUnit [a, b, c, d] (((i * 16 + j) * 16 + k) * 16 + l)

/-- What may stand between the quotes of a string for a character. -/
inductive SpellsChar : List Char → Char → Prop
  | verbatim {c : Char} (h : IsVerbatim c) : SpellsChar [c] c
  | letter {letter c : Char} (h : (letter, c) ∈ letterEscapes) : SpellsChar ['\\', letter] c
  | unit {digits : List Char} {n : Nat} (h : SpellsUnit digits n)
    (whole : n < 0xD800 ∨ 0xDFFF < n) : SpellsChar ('\\' :: 'u' :: digits) (Char.ofNat n)
  | pair {first second : List Char} {m n : Nat} (hm : SpellsUnit first m)
    (hn : SpellsUnit second n) (leading : 0xD800 ≤ m ∧ m ≤ 0xDBFF)
    (trailing : 0xDC00 ≤ n ∧ n ≤ 0xDFFF) :
    SpellsChar ('\\' :: 'u' :: (first ++ '\\' :: 'u' :: second))
      (Char.ofNat (0x10000 + (m - 0xD800) * 0x400 + (n - 0xDC00)))

/-- Quotes with the characters of a string between them. -/
def SpellsString (text : List Char) (s : String) : Prop :=
  ∃ spellings, List.Forall₂ SpellsChar spellings s.toList ∧
    text = '"' :: (spellings.flatten ++ ['"'])

/-- What may stand between the quotes of a string that is not read: units may be halves of pairs. -/
inductive IsPiece : List Char → Prop
  | verbatim {c : Char} (h : IsVerbatim c) : IsPiece [c]
  | letter {letter c : Char} (h : (letter, c) ∈ letterEscapes) : IsPiece ['\\', letter]
  | unit {digits : List Char} {n : Nat} (h : SpellsUnit digits n) : IsPiece ('\\' :: 'u' :: digits)

/-- A string that is not read. -/
def IsString (text : List Char) : Prop :=
  ∃ pieces : List (List Char), (∀ piece ∈ pieces, IsPiece piece) ∧
    text = '"' :: (pieces.flatten ++ ['"'])

/-! ## Numbers -/

/-- Some digits, one at least. -/
def IsDigits (cs : List Char) : Prop := cs ≠ [] ∧ ∀ c ∈ cs, c.isDigit = true

/-- The whole part of a number. A zero in front stands alone. -/
inductive IsWhole : List Char → Prop
  | zero : IsWhole ['0']
  | digits {c : Char} {cs : List Char} (first : c.isDigit = true) (positive : c ≠ '0')
    (others : ∀ d ∈ cs, d.isDigit = true) : IsWhole (c :: cs)

/-- The fraction of a number, if it has one. -/
inductive IsFraction : List Char → Prop
  | none : IsFraction []
  | some {digits : List Char} (h : IsDigits digits) : IsFraction ('.' :: digits)

/-- The exponent of a number, if it has one. -/
inductive IsExponent : List Char → Prop
  | none : IsExponent []
  | some {letter : Char} {sign digits : List Char} (hletter : letter ∈ ['e', 'E'])
    (hsign : sign ∈ [[], ['+'], ['-']]) (h : IsDigits digits) :
    IsExponent (letter :: (sign ++ digits))

/-- A number. -/
inductive IsNumber : List Char → Prop
  | intro {sign whole fraction exponent : List Char} (hsign : sign ∈ [[], ['-']])
    (hwhole : IsWhole whole) (hfraction : IsFraction fraction) (hexponent : IsExponent exponent) :
    IsNumber (sign ++ (whole ++ (fraction ++ exponent)))

/-! ## Values -/

/-- A member of an object: a key and a value, with blanks around each. -/
structure Member where
  key : Padded
  value : Padded

namespace Member

def text (m : Member) : List Char := m.key.text ++ ':' :: m.value.text

/-- There are only blanks around the key and the value. -/
structure IsSpaced (m : Member) : Prop where
  key : m.key.IsSpaced
  value : m.value.IsSpaced

end Member

/-- Brackets around some texts, with commas between these and something before the closing one. -/
def enclosed (opening closing : Char) (gap : List Char) (texts : List (List Char)) : List Char :=
  opening :: (separated [','] texts ++ (gap ++ [closing]))

/-- A value that is well formed. -/
inductive IsValue : List Char → Prop
  | word {text : List Char}
    (h : text ∈ [['n', 'u', 'l', 'l'], ['t', 'r', 'u', 'e'], ['f', 'a', 'l', 's', 'e']]) :
    IsValue text
  | number {text : List Char} (h : IsNumber text) : IsValue text
  | string {text : List Char} (h : IsString text) : IsValue text
  | array {items : List Padded} {gap : List Char} (hgap : IsGap gap)
    (spaced : ∀ i ∈ items, i.IsSpaced) (parts : ∀ i ∈ items, IsValue i.inner) :
    IsValue (enclosed '[' ']' gap (items.map Padded.text))
  | object {members : List Member} {gap : List Char} (hgap : IsGap gap)
    (spaced : ∀ m ∈ members, m.IsSpaced) (keys : ∀ m ∈ members, IsString m.key.inner)
    (parts : ∀ m ∈ members, IsValue m.value.inner) :
    IsValue (enclosed '\x7b' '\x7d' gap (members.map Member.text))

/-- The member has the key, and its value the text. -/
structure Member.Spells (m : Member) (key : String) : Prop where
  spaced : m.IsSpaced
  key : SpellsString m.key.inner key

/-- An object with one member for each entry. The relation is between an entry, a key and the text
of a value, and tells which members stand for the entry. -/
def IsObject {ε : Type} (stands : ε → String → List Char → Prop) (entries : List ε)
    (text : List Char) : Prop :=
  ∃ members gap, IsGap gap ∧ text = enclosed '\x7b' '\x7d' gap (members.map Member.text) ∧
    List.Forall₂ (fun e m => ∃ key, m.Spells key ∧ stands e key m.value.inner) entries members

end ModuleBridge.Json
