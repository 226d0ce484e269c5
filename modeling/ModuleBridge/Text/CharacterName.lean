import ModuleBridge.Text.CharacterName.Alphabets
import ModuleBridge.Text.CharacterName.Antiquity
import ModuleBridge.Text.CharacterName.EastAsia
import ModuleBridge.Text.CharacterName.Emblems
import ModuleBridge.Text.CharacterName.Notations
import ModuleBridge.Text.CharacterName.Pictographs
import ModuleBridge.Text.CharacterName.Syllabaries
import ModuleBridge.Text.CharacterName.Symbols
import ModuleBridge.Text.Ranges

/-!
# Names of characters

Most characters have a name in capitals, and some have further ones. `CharacterName.find?` gives the
character that a name belongs to. The names of ideographs end in their code points, and those of
syllables are made of the names of their sounds. All others are listed in lines. A line begins with
the code point of its first name in hexadecimal digits, and the names after that one belong to the
code points after it. Before a name, small letters tell how many characters it shares with the name
before it, be that on the line before: each letter from `a` on for one more, and `z` together with
further letters for 25 and what those say.
-/

namespace ModuleBridge.Text.CharacterName

/-- Lines of further names. -/
def aliasNames : List String := [
  "0aNULLaSTART OF HEADINGjTEXTaEND OF TEXTiRANSMISSIONcQUIRYaACKNOWLEDGEbLERTaBACKSPACE",
  "9aCHARACTER TABULATIONaLINE FEEDfTABULATIONaFORM FEEDaCARRIAGE RETURNaSHIFT OUTgIN",
  "10aDATA LINK ESCAPEbEVICE CONTROL ONEpTWOqHREEpFOURaNEGATIVE ACKNOWLEDGEaSYNCHRONOUS IDLE",
  "17aEND OF TRANSMISSION BLOCKaCANCELaEND OF MEDIUMaSUBSTITUTEaESCAPEaINFORMATION SEPARATOR FOUR",
  "1DwTHREExWOwONEaSP",
  "7FaDELETEaPADDING CHARACTERaHIGH OCTET PRESETaBREAK PERMITTED HEREaNO BREAK HEREaINDEX",
  "85aNEXT LINEaSTART OF SELECTED AREAaEND OF SELECTED AREAaCHARACTER TABULATION SET",
  "89vWITH JUSTIFICATIONaLINE TABULATION SETaPARTIAL LINE FORWARDnBACKWARDaREVERSE LINE FEED",
  "8EaSINGLE SHIFT TWOoHREEaDEVICE CONTROL STRINGaPRIVATE USE ONEmTWOaSET TRANSMIT STATE",
  "94aCANCEL CHARACTERaMESSAGE WAITINGaSTART OF GUARDED AREAaEND OF GUARDED AREAaSTART OF STRING",
  "99bINGLE GRAPHIC CHARACTER INTRODUCERhCHARACTER INTRODUCERaCONTROL SEQUENCE INTRODUCER",
  "9CaSTRING TERMINATORaOPERATING SYSTEM COMMANDaPRIVACY MESSAGEaAPPLICATION PROGRAM COMMANDaNBSP",
  "ADaSHY",
  "1A2aLATIN CAPITAL LETTER GHAgSMALL LETTER GHA",
  "34FaCGJ",
  "61CaALM",
  "709aSYRIAC SUBLINEAR COLON SKEWED LEFT",
  "CDEaKANNADA LETTER LLLA",
  "E9DaLAO LETTER FO FON",
  "E9FpAY",
  "EA3lRO",
  "EA5lLO",
  "FD0aTIBETAN MARK BKA- SHOG GI MGO RGYAN",
  "11ECaHANGUL JONGSEONG YESIEUNG-KIYEOKzbSSANGKIYEOKrSSANGYESIEUNGrYESIEUNG-KHIEUKH",
  "180BaFVS1d2d3aMVSaFVS4",
  "200BaZWSPcNJcJaLRMaRLM",
  "202AaLREaRLEaPDFaLROaRLOaNNBSP",
  "205FaMMSPaWJ",
  "2066aLRIaRLIaFSIaPDI",
  "2118aWEIERSTRASS ELLIPTIC FUNCTION",
  "2448aMICR ON US SYMBOLfDASH SYMBOL",
  "2B7AaLEFTWARDS TRIANGLE-HEADED ARROW WITH DOUBLE VERTICAL STROKE",
  "2B7CaRIGHTWARDS TRIANGLE-HEADED ARROW WITH DOUBLE VERTICAL STROKE",
  "A015aYI SYLLABLE ITERATION MARK",
  "AA6EaMYANMAR LETTER KHAMTI LLA",
  "FE00aVS1c2c3c4c5c6c7c8c9c10d1d2d3d4d5d6",
  "FE18aPRESENTATION FORM FOR VERTICAL RIGHT WHITE LENTICULAR BRACKET",
  "FEFFaBYTE ORDER MARK",
  "122D4aCUNEIFORM SIGN NU11 TENUuOVER NU11 BUR OVER BUR",
  "16E56aMEDEFAIDRIN CAPITAL LETTER HzcNG",
  "16E76mSMALL LETTER HzNG",
  "1B001aHENTAIGANA LETTER E-1",
  "1D0C5aBYZANTINE MUSICAL SYMBOL FTHORA SKLIRON CHROMA VASIS",
  "E0100aVS17d8d9c20d1d2d3d4d5d6d7d8d9c30d1d2d3d4d5d6d7d8d9c40d1d2d3d4d5d6d7d8d9c50d1d2d3d4d5d6d7",
  "E0129d8d9c60d1d2d3d4d5d6d7d8d9c70d1d2d3d4d5d6d7d8d9c80d1d2d3d4d5d6d7d8d9c90d1d2d3d4d5d6d7d8d9",
  "E0153c100e1e2e3e4e5e6e7e8e9d10e1e2e3e4e5e6e7e8e9d20e1e2e3e4e5e6e7e8e9d30e1e2e3e4e5e6e7e8e9d40",
  "E017Ce1e2e3e4e5e6e7e8e9d50e1e2e3e4e5e6e7e8e9d60e1e2e3e4e5e6e7e8e9d70e1e2e3e4e5e6e7e8e9d80e1e2",
  "E01A6e3e4e5e6e7e8e9d90e1e2e3e4e5e6e7e8e9c200e1e2e3e4e5e6e7e8e9d10e1e2e3e4e5e6e7e8e9d20e1e2e3e4",
  "E01D0e5e6e7e8e9d30e1e2e3e4e5e6e7e8e9d40e1e2e3e4e5e6e7e8e9d50e1e2e3e4e5e6",
  "0aNULaSOHbTXaETXbOTbNQaACKaBELbSaHORIZONTAL TABULATIONaNEW LINEaVERTICAL TABULATIONaFFaCR",
  "EaLOCKING-SHIFT ONEoZEROaDLEbC1c2c3c4aNAKaSYNaETBaCANaEOMaSUBaESCaFILE SEPARATOR",
  "1DaGROUP SEPARATORaRECORD SEPARATORaUNIT SEPARATOR",
  "7FaDELaPADaHOPaBPHaNBHaINDaNELaSSAaESAaHORIZONTAL TABULATION SETwWITH JUSTIFICATION",
  "8AaVERTICAL TABULATION SETaPARTIAL LINE DOWNnUPaREVERSE INDEXaSINGLE-SHIFT-2n3aDCS",
  "91aPRIVATE USE-1m2aSTSaCCHaMWaSTART OF PROTECTED AREAaEND OF PROTECTED AREAaSOSbGCbCIaCSIaST",
  "9DaOSCaPMaAPC",
  "FEFFaBOM",
  "9aHTaEND OF LINEaVT",
  "EaSObI",
  "1CaFSaGSaRSaUS",
  "88aHTScJaVTSaPLDcUaRIaSS2c3",
  "91aPU1c2",
  "96aSPAaEPA",
  "FEFFaZWNBSP",
  "9aTABaEOL",
  "AaLF",
  "AaNL"]

/-! ## Lines of names -/

/-- The number of characters shared that small letters tell. -/
def sharedCount (letters : List Char) : Nat :=
  letters.foldl (fun n c => n + (c.toNat - 'a'.toNat)) 0

/-- The number that hexadecimal digits in capitals are. -/
def codeOf (digits : List Char) : Nat :=
  digits.foldl (fun n c =>
    16 * n + (if c.isDigit then c.toNat - '0'.toNat else c.toNat - 'A'.toNat + 10)) 0

/-- What a search in a line comes to: the code point, or the last name of the line. -/
abbrev Search := Nat ⊕ List Char

/-- Searches the names that are left of a line, whose letters are set apart from them, with the code
point of the first one and the name before it. -/
def searchNames (name : List Char) (code : Nat) (before : List Char) : List (List Char) → Search
  | letters :: tail :: rest =>
    let next := before.take (sharedCount letters) ++ tail
    if next = name then .inl code else searchNames name (code + 1) next rest
  | _ => .inr before

/-- Searches a line after the name before it. -/
def searchLine (name before : List Char) (line : String) : Search :=
  match line.toList.splitBy fun a b => a.isLower = b.isLower with
  | digits :: rest => searchNames name (codeOf digits) before rest
  | [] => .inr before

/-- Searches lines after the name before them. -/
def searchLines (name before : List Char) : List String → Option Nat
  | [] => none
  | line :: rest =>
    match searchLine name before line with
    | .inl code => some code
    | .inr last => searchLines name last rest

/-- The lists of names. -/
def listedNames : List (List String) := [
  alphabetNames, syllabaryNames, symbolNames, eastAsianNames, ancientNames,
  pictographNames, notationNames, emblemNames, aliasNames]

/-! ## Ideographs -/

/-- What the names of unified ideographs begin with. -/
def unifiedIdeograph : String := "CJK UNIFIED IDEOGRAPH-"

/-- Ranges of unified ideographs. -/
def unifiedRanges : List (Nat × Nat) := [
  (0x3400, 0x4DBF), (0x4E00, 0x9FFF), (0x20000, 0x2A6DF), (0x2A700, 0x2B738),
  (0x2B740, 0x2B81D), (0x2B820, 0x2CEA1), (0x2CEB0, 0x2EBE0), (0x30000, 0x3134A)]

/-- Ranges of other characters whose names end in their code points, with what those begin with. -/
def numberedRanges : List (Nat × Nat × String) := [
  (0xF900, 0xFA6D, "CJK COMPATIBILITY IDEOGRAPH-"),
  (0xFA70, 0xFAD9, "CJK COMPATIBILITY IDEOGRAPH-"),
  (0x18B00, 0x18CD5, "KHITAN SMALL SCRIPT CHARACTER-"),
  (0x1B170, 0x1B2FB, "NUSHU CHARACTER-"),
  (0x2F800, 0x2FA1D, "CJK COMPATIBILITY IDEOGRAPH-")]

/-- Is the character a hexadecimal digit in capitals? -/
def isDigit (c : Char) : Bool :=
  c.isDigit || ('A' ≤ c && c ≤ 'F')

/-- The unified ideograph whose number has four or five digits. -/
def ideograph? (digits : List Char) : Option Char :=
  let c := Char.ofNat (codeOf digits)
  if (digits.length = 4 || digits.length = 5) && digits.all isDigit && inRanges unifiedRanges c then
    some c
  else none

/-- The code point with a name that ends in it. -/
def numbered? (name : List Char) : Option Nat :=
  numberedRanges.findSome? fun (first, last, start) =>
    if start.toList.isPrefixOf name then
      let digits := name.drop start.length
      let code := codeOf digits
      if digits.all isDigit && digits.head? ≠ some '0' && first ≤ code && code ≤ last then some code
      else none
    else none

/-! ## Syllables -/

/-- What the names of syllables begin with. -/
def hangulSyllable : String := "HANGUL SYLLABLE "

/-- The names of the consonants with which a syllable begins. -/
def leadingNames : List String := [
  "G", "GG", "N", "D", "DD", "R", "M", "B", "BB", "S", "SS", "", "J", "JJ", "C", "K", "T", "P", "H"]

/-- The names of the vowels. -/
def vowelNames : List String := [
  "A", "AE", "YA", "YAE", "EO", "E", "YEO", "YE", "O", "WA", "WAE", "OE", "YO", "U", "WEO", "WE",
  "WI", "YU", "EU", "YI", "I"]

/-- The names of what a syllable ends with. -/
def trailingNames : List String := [
  "", "G", "GG", "GS", "N", "NJ", "NH", "D", "L", "LG", "LM", "LB", "LS", "LT", "LP", "LH", "M",
  "B", "BS", "S", "SS", "NG", "J", "C", "K", "T", "P", "H"]

/-- The place of the longest of some names that others begin with, and what is left of those. -/
def longest? (names : List String) (cs : List Char) : Option (Nat × List Char) :=
  names.zipIdx.foldl (fun best (name, i) =>
    let isBetter := match best with
      | some (_, rest) => cs.length - name.length < rest.length
      | none => true
    if name.toList.isPrefixOf cs && isBetter then some (i, cs.drop name.length) else best) none

/-- The syllable with the names of its sounds. -/
def syllable? (cs : List Char) : Option Char := do
  let (leading, cs) ← longest? leadingNames cs
  let (vowel, cs) ← longest? vowelNames cs
  let (trailing, cs) ← longest? trailingNames cs
  if cs.isEmpty then
    let index := (leading * vowelNames.length + vowel) * trailingNames.length + trailing
    return Char.ofNat (0xAC00 + index)
  else none

/-! ## All characters -/

/-- The character that a name belongs to. Capitals and small letters are alike, but in the names of
syllables and unified ideographs they are not. -/
def find? (name : List Char) : Option Char :=
  if hangulSyllable.toList.isPrefixOf name then syllable? (name.drop hangulSyllable.length)
  else if unifiedIdeograph.toList.isPrefixOf name then
    ideograph? (name.drop unifiedIdeograph.length)
  else
    let capitals := name.map Char.toUpper
    ((numbered? capitals).or (listedNames.findSome? (searchLines capitals []))).map Char.ofNat

end ModuleBridge.Text.CharacterName
