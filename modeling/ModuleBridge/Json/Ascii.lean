import ModuleBridge.Json.Render

/-!
# Texts in ASCII

Some writers of JSON use no character beyond printable ASCII: every other character of a string is
escaped by the number of its UTF-16 unit, or by those of its surrogate pair. They put one blank
after each comma between items and members and after each colon.
-/

namespace ModuleBridge.Json

/-- The escape of a UTF-16 unit by its number. -/
def numbered (unit : Nat) : List Char :=
  ['\\', 'u', hexDigit (unit / 0x1000), hexDigit (unit / 0x100), hexDigit (unit / 0x10),
    hexDigit unit]

/-- One character of a string between its quotes. -/
def asciiEscaped (c : Char) : List Char :=
  if c.toNat < 0x7F then escaped c
  else if c.toNat < 0x10000 then numbered c.toNat
  else
    numbered (0xD800 + (c.toNat - 0x10000) / 0x400) ++
      numbered (0xDC00 + (c.toNat - 0x10000) % 0x400)

/-- A string between quotes. -/
def asciiString (s : String) : List Char :=
  '"' :: s.toList.flatMap asciiEscaped ++ ['"']

/-- The text of an array from those of its items. -/
def asciiArray (items : List (List Char)) : List Char :=
  '[' :: separated [',', ' '] items ++ [']']

/-- The text of an object from those of the values under its keys. -/
def asciiObject (members : List (String × List Char)) : List Char :=
  let texts := members.map fun m => asciiString m.1 ++ ':' :: ' ' :: m.2
  '\x7b' :: separated [',', ' '] texts ++ ['\x7d']

end ModuleBridge.Json
