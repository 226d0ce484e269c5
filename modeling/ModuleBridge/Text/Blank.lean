import ModuleBridge.Text.Ranges

/-!
# Blank characters

The characters with the Unicode property White_Space, and texts with the blanks at both ends
removed.
-/

namespace ModuleBridge.Text

/-- Ranges of code points with the property White_Space. -/
def blankRanges : List (Nat × Nat) := [
  (0x9, 0xD), (0x20, 0x20), (0x85, 0x85), (0xA0, 0xA0), (0x1680, 0x1680), (0x2000, 0x200A),
  (0x2028, 0x2029), (0x202F, 0x202F), (0x205F, 0x205F), (0x3000, 0x3000)]

/-- Does the character have the Unicode property White_Space? -/
def isBlank (c : Char) : Bool :=
  inRanges blankRanges c

/-- The characters without the blanks in front and behind. -/
def trimBlanks (cs : List Char) : List Char :=
  ((cs.dropWhile isBlank).reverse.dropWhile isBlank).reverse

end ModuleBridge.Text
