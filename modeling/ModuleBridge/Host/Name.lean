import ModuleBridge.Host.Direction
import ModuleBridge.Host.Joining
import ModuleBridge.Host.Punycode
import ModuleBridge.Host.Spelling

/-!
# Names of hosts

A name is made of labels with dots between them. `Name.toAscii?` gives a name in ASCII alone, with
each label that is not in ASCII in its ASCII form, and refuses what is no name. A label may also be
given in its ASCII form.
-/

namespace ModuleBridge.Host

/-- Some characters split at each dot. -/
def splitDots : List Char → List (List Char)
  | [] => [[]]
  | c :: cs =>
    match splitDots cs with
    | [] => [[c]]
    | label :: rest => if c = '.' then [] :: label :: rest else (c :: label) :: rest

/-- What begins a label in its ASCII form. -/
def asciiMark : List Char := ['x', 'n', '-', '-']

/-- The most characters that a label beyond ASCII may have. -/
def labelLimit : Nat := 1000

/-- The most characters that its ASCII form may have after the mark. -/
def asciiFormLimit : Nat := 2000

/-- Is every character in ASCII? -/
def isAscii (label : List Char) : Bool :=
  label.all Punycode.isAscii

/-- The label that is meant by one as it is spelled. -/
def meant? (label : List Char) : Option (List Char) :=
  if asciiMark.isPrefixOf label then
    let form := label.drop asciiMark.length
    if isAscii label && form.length ≤ asciiFormLimit then do
      let decoded ← Punycode.decode? form
      if !isAscii decoded && spelling? decoded = some decoded then return decoded else none
    else none
  else some label

/-- May the character not stand in a name, although it is in ASCII? -/
def isRefused (c : Char) : Bool :=
  c.toNat ≤ 0x20 || c = '\x7f' ||
    ['#', '%', '/', ':', '<', '>', '?', '@', '[', '\\', ']', '^', '|'].contains c

/-- May the label stand in a name? -/
def isLabel (label : List Char) : Bool :=
  !label.any isRefused &&
    (isAscii label || (label.length ≤ labelLimit && !label.head?.any Text.isMark &&
      joinersMatter [] label))

/-- A label in ASCII. -/
def labelToAscii (label : List Char) : List Char :=
  if isAscii label then label else asciiMark ++ Punycode.encode label

/-- Labels with dots between them. -/
def joinDots (labels : List (List Char)) : List Char :=
  ['.'].intercalate labels

/-- A name in ASCII, if it is one. -/
def Name.toAscii? (name : List Char) : Option (List Char) := do
  let labels ← (splitDots (← spelling? name)).mapM meant?
  if labels.all isLabel && (!labels.any readsBackward || labels.all keepsDirection) then
    return joinDots (labels.map labelToAscii)
  else none

end ModuleBridge.Host
