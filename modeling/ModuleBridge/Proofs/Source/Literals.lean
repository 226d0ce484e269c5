import Mathlib.Data.List.Forall2
import ModuleBridge.Proofs.Json.Values
import ModuleBridge.Source.Scan

/-!
# Expressions made of literals

A reader of the expressions of Python that are made of literals, with the value that each denotes:
an integer, which may have a minus sign, a text, a list, or a dict whose keys are texts. Texts and
numbers are taken as lexemes of a source are (`takeString`, `takeNumber`), so a text ends at the
first quote that no backslash escapes and no line ends in it. Brackets nest as deep as they like:
how many may be open at once (`bracketLimit`) is a limit of the tokens of a source, and no rule of
literals.

What is written as JSON is taken whole, whatever comes after it, as long as that begins where a
literal ends (`Takes`): the digits of an integer (`takeInteger_digits`), a string, each character of
which is spelled in one of three ways (`Spells`, `takes_string`), and items with commas between them
up to a closing bracket (`takeMany_separated`).
-/

namespace ModuleBridge.Source

open Decimal (natDigits)
open Json (bracket_compact escaped hexDigit renderString separated separated_cons_cons)

/-! ## The reader -/

/-- What an expression made of literals denotes. -/
inductive Value
  | integer (n : Int)
  | text (s : String)
  | list (items : List Value)
  /-- The entries, in the order in which their keys came first. -/
  | dict (entries : List (String × Value))

/-- The entries with a key set to a value. A key that is there keeps its place. -/
def setEntry (key : String) (v : Value) : List (String × Value) → List (String × Value)
  | [] => [(key, v)]
  | e :: rest => if e.1 = key then (key, v) :: rest else e :: setEntry key v rest

/-- The entries of a dict whose entries are written like this: the last value of a key counts. -/
def dictOf (written : List (String × Value)) : List (String × Value) :=
  written.foldl (fun entries e => setEntry e.1 e.2 entries) []

/-- Takes something off the front of some characters. -/
abbrev Taker (α : Type) := List Char → Option (α × List Char)

/-- The characters after the blanks in front. -/
def afterBlanks (cs : List Char) : List Char :=
  cs.dropWhile isTokenBlank

/-- Takes a string literal that is a text. -/
def takeText : Taker String := fun cs =>
  match takeString cs with
  | some (some (.text (some s)), rest) => some (s, rest)
  | _ => none

/-- Takes a number that is written with decimal digits only. -/
def takeInteger : Taker Nat
  | [] => none
  | c :: cs =>
    if c.isDigit then
      (takeNumber c cs).bind fun (_, rest) =>
        let digits := (c :: cs).take (cs.length + 1 - rest.length)
        if digits.all Char.isDigit then some (Nat.ofDigitChars 10 digits 0, rest) else none
    else none

/-- Takes a text or an integer. -/
def takeScalar : Taker Value
  | '-' :: cs => (takeInteger (afterBlanks cs)).map fun (n, rest) => (.integer (-n), rest)
  | cs =>
    match takeText cs with
    | some (s, rest) => some (.text s, rest)
    | none => (takeInteger cs).map fun (n, rest) => (.integer n, rest)

/-- Takes items up to a closing bracket, and the bracket. Commas stand between the items, and one
may stand after the last. There are fewer items than `count`. -/
def takeMany {α : Type} (take : Taker α) (closing : Char) : Nat → Taker (List α)
  | 0, _ => none
  | count + 1, cs =>
    let cs := afterBlanks cs
    if cs.head? = some closing then some ([], cs.drop 1)
    else
      (take cs).bind fun (x, rest) =>
        match afterBlanks rest with
        | [] => none
        | c :: rest =>
          if c = closing then some ([x], rest)
          else if c = ',' then
            (takeMany take closing count rest).map fun (xs, rest) => (x :: xs, rest)
          else none

/-- Takes a key, a colon and a value. -/
def takeEntry (take : Taker Value) : Taker (String × Value) := fun cs =>
  (takeText cs).bind fun (key, rest) =>
    match afterBlanks rest with
    | ':' :: rest => (take (afterBlanks rest)).map fun (v, rest) => ((key, v), rest)
    | _ => none

/-- Takes an expression in which at most `nesting` brackets are open at once. -/
def takeValue : Nat → Taker Value
  | 0, cs => takeScalar cs
  | nesting + 1, '[' :: cs =>
    (takeMany (takeValue nesting) ']' (cs.length + 1) cs).map fun (items, rest) =>
      (.list items, rest)
  | nesting + 1, '\x7b' :: cs =>
    (takeMany (takeEntry (takeValue nesting)) '\x7d' (cs.length + 1) cs).map fun (entries, rest) =>
      (.dict (dictOf entries), rest)
  | _ + 1, cs => takeScalar cs

/-- What is taken off a source that is one line, if nothing but blanks is left of the line. -/
def readLine {α : Type} (take : Taker α) (source : String) : Option α :=
  if source.toList.contains '\x00' then none
  else
    (take (withLineFeeds source.toList)).bind fun (x, rest) =>
      if afterBlanks rest = ['\n'] then some x else none

/-- The value that a line denotes. No more brackets are open at once than there are characters. -/
def readLiteral (source : String) : Option Value :=
  readLine (fun cs => takeValue source.length (afterBlanks cs)) source

/-- The values of the arguments of a call, up to the parenthesis that closes them. No more follow
each other, and no more brackets are open at once, than there are characters. -/
def readArguments (source : String) : Option (List Value) :=
  readLine (takeMany (takeValue source.length) ')' (source.length + 1)) source

/-! ## Where literals end -/

/-- May the character stand right after a literal, to separate or to close? -/
def endsLiteral (c : Char) : Bool :=
  c = ',' || c = ':' || c = ')' || c = ']' || c = '\x7d' || c = '\n'

/-- A literal ends where the characters begin. -/
def Stops (rest : List Char) : Prop := ∀ c ∈ rest.head?, endsLiteral c = true

/-- Can a literal begin with the character? -/
def beginsLiteral (c : Char) : Bool :=
  !isTokenBlank c && !endsLiteral c

/-- Just the text is taken, whatever follows where a literal may end. -/
structure Takes {α : Type} (take : Taker α) (text : List Char) (x : α) : Prop where
  starts : ∃ c cs, text = c :: cs ∧ beginsLiteral c = true
  takes : ∀ rest, Stops rest → take (text ++ rest) = some (x, rest)

section
variable {α : Type} {c d : Char} {cs rest gap : List Char}

theorem Stops.cons (h : endsLiteral c = true) : Stops (c :: rest) := by
  rintro d ⟨⟩
  exact h

/-- The characters that may follow a literal in an answer. -/
theorem endsLiteral_iff :
    endsLiteral c = true ↔ c = ',' ∨ c = ':' ∨ c = ')' ∨ c = ']' ∨ c = '\x7d' ∨ c = '\n' := by
  simp [endsLiteral, or_assoc]

/-- The characters that end a literal are none of the others. -/
theorem ne_of_endsLiteral (hc : endsLiteral c = true) (hd : endsLiteral d = false) : c ≠ d := by
  rintro rfl
  cases hc.symm.trans hd

/-- What ends a literal is no blank. -/
theorem isTokenBlank_of_endsLiteral (h : endsLiteral c = true) : isTokenBlank c = false := by
  rcases endsLiteral_iff.1 h with rfl | rfl | rfl | rfl | rfl | rfl <;> rfl

/-- A literal begins with what is neither a blank nor an end. -/
theorem beginsLiteral_iff :
    beginsLiteral c = true ↔ isTokenBlank c = false ∧ endsLiteral c = false := by
  simp [beginsLiteral]

/-- Behind the blanks comes the first character that is none. -/
theorem afterBlanks_append (hgap : ∀ d ∈ gap, isTokenBlank d = true) (hc : isTokenBlank c = false) :
    afterBlanks (gap ++ c :: cs) = c :: cs := by
  rw [afterBlanks, List.dropWhile_append_of_pos hgap, List.dropWhile_cons_of_neg (by simp [hc])]

/-- Nothing is skipped in front of a character that is no blank. -/
theorem afterBlanks_cons (hc : isTokenBlank c = false) : afterBlanks (c :: cs) = c :: cs :=
  List.dropWhile_cons_of_neg (by simp [hc])

end

/-! ## Integers -/

section
variable {first : Char} {digits rest : List Char}

/-- A character that is no digit is different from each digit. -/
theorem ne_of_isDigit {c d : Char} (hc : c.isDigit = true) (hd : d.isDigit = false) : c ≠ d := by
  rintro rfl
  cases hc.symm.trans hd

/-- What ends a literal is no digit. -/
theorem isDigit_of_endsLiteral {c : Char} (h : endsLiteral c = true) : c.isDigit = false := by
  rcases endsLiteral_iff.1 h with rfl | rfl | rfl | rfl | rfl | rfl <;> rfl

/-- The digits in front of the end of a literal are taken. -/
theorem digitTail_append (hdigits : ∀ c ∈ digits, c.isDigit = true) (hrest : Stops rest)
    (count : Nat) :
    digitTail Char.isDigit count (digits ++ rest) = some (count + digits.length, rest) := by
  induction digits generalizing count with
  | nil =>
    cases rest with
    | nil => rfl
    | cons c rest =>
      have hend := hrest c rfl
      have hunderscore : c ≠ '_' := ne_of_endsLiteral hend rfl
      rw [List.nil_append, digitTail.eq_def]
      simp only [isDigit_of_endsLiteral hend, hunderscore, Bool.false_eq_true, if_false]
      rfl
  | cons d digits ih =>
    obtain ⟨hd, hdigits⟩ := List.forall_mem_cons.1 hdigits
    rw [List.cons_append, digitTail.eq_def]
    simp only [hd, if_true]
    rw [ih hdigits, List.length_cons, Nat.add_right_comm, Nat.add_assoc]

/-- A number does not go on where a literal ends. -/
theorem goesOn_of_stops (h : Stops rest) : goesOn rest = false := by
  cases rest with
  | nil => rfl
  | cons c rest => rcases endsLiteral_iff.1 (h c rfl) with rfl | rfl | rfl | rfl | rfl | rfl <;> rfl

/-- A number ends where a literal may end. -/
theorem endNumber_of_stops (h : Stops rest) : endNumber false rest = some (false, rest) := by
  have hends : endsNumber rest = true := by
    cases rest with
    | nil => rfl
    | cons c rest =>
      rcases endsLiteral_iff.1 (h c rfl) with rfl | rfl | rfl | rfl | rfl | rfl <;> rfl
  rw [endNumber, if_pos hends]

/-- A decimal integer without a zero in front is taken, if it is not too long. -/
theorem takeNumber_digits (hdigits : ∀ c ∈ digits, c.isDigit = true)
    (hzero : first = '0' → digits = []) (hlength : digits.length < integerDigitLimit)
    (hrest : Stops rest) : takeNumber first (digits ++ rest) = some (false, rest) := by
  have hbase (letter : Char) (hletter : letter.isDigit = false)
      (hend : endsLiteral letter = false) (cs : List Char) : digits ++ rest ≠ letter :: cs := by
    intro h
    cases digits with
    | nil => exact ne_of_endsLiteral (hrest letter (congrArg List.head? h)) hend rfl
    | cons d digits =>
      exact ne_of_isDigit (hdigits d List.mem_cons_self) hletter (List.cons.inj h).1
  have hlong : ¬integerDigitLimit < 1 + digits.length := by omega
  unfold takeNumber
  split
  · next h => exact absurd h (hbase 'x' rfl rfl _)
  · next h => exact absurd h (hbase 'X' rfl rfl _)
  · next h => exact absurd h (hbase 'o' rfl rfl _)
  · next h => exact absurd h (hbase 'O' rfl rfl _)
  · next h => exact absurd h (hbase 'b' rfl rfl _)
  · next h => exact absurd h (hbase 'B' rfl rfl _)
  · rw [digitTail_append hdigits hrest]
    simp only [Option.bind_eq_bind, Option.bind_some, goesOn_of_stops hrest, if_neg hlong,
      endNumber_of_stops hrest, Bool.false_eq_true, if_false]
    split
    · next h =>
      rw [hzero h, h]
      simp
    · rfl

/-- Only the digits of zero begin with a zero. -/
theorem eq_zero_of_natDigits {n : Nat} (h : natDigits n = '0' :: digits) : n = 0 := by
  induction n using Nat.strongRecOn generalizing digits with
  | ind n ih =>
    rw [natDigits] at h
    by_cases hsmall : n < 10
    · have hall : ∀ n < 10, Nat.digitChar n = '0' → n = 0 := by decide
      rw [Nat.toDigits_of_lt_base hsmall] at h
      exact hall n hsmall (List.cons.inj h).1
    · rw [Nat.toDigits_of_base_le (by decide) (Nat.le_of_not_lt hsmall)] at h
      obtain ⟨c, cs, hcs⟩ : ∃ c cs, Nat.toDigits 10 (n / 10) = c :: cs :=
        List.exists_cons_of_ne_nil Nat.toDigits_ne_nil
      rw [hcs, List.cons_append] at h
      obtain ⟨rfl, -⟩ := List.cons.inj h
      have hquotient : n / 10 = 0 := ih (n / 10) (by omega) hcs
      omega

/-- The digits of a number are digits, and a zero in front stands alone. -/
theorem natDigits_eq_cons (n : Nat) : ∃ c cs, natDigits n = c :: cs ∧ c.isDigit = true ∧
    (∀ d ∈ cs, d.isDigit = true) ∧ (c = '0' → cs = []) := by
  obtain ⟨c, cs, hcs⟩ : ∃ c cs, natDigits n = c :: cs :=
    List.exists_cons_of_ne_nil Nat.toDigits_ne_nil
  have hdigits : ∀ d ∈ natDigits n, d.isDigit = true :=
    fun d hd => Nat.isDigit_of_mem_toDigits (by decide) (by decide) hd
  rw [hcs, List.forall_mem_cons] at hdigits
  refine ⟨c, cs, hcs, hdigits.1, hdigits.2, ?_⟩
  rintro rfl
  rw [eq_zero_of_natDigits hcs, natDigits, Nat.toDigits_zero] at hcs
  exact (List.cons.inj hcs).2.symm

/-- An integer is taken from its digits, if there are not too many. -/
theorem takeInteger_digits {n : Nat} (hlength : (natDigits n).length ≤ integerDigitLimit)
    (hrest : Stops rest) : takeInteger (natDigits n ++ rest) = some (n, rest) := by
  have hvalue : Nat.ofDigitChars 10 (natDigits n) 0 = n := Nat.ofDigitChars_ten_toDigits
  obtain ⟨c, cs, hcs, hc, htail, hzero⟩ := natDigits_eq_cons n
  rw [hcs] at hlength hvalue ⊢
  have htake : (c :: (cs ++ rest)).take ((cs ++ rest).length + 1 - rest.length) = c :: cs := by
    have hcount : (cs ++ rest).length + 1 - rest.length = cs.length + 1 := by
      rw [List.length_append]
      omega
    rw [hcount, List.take_succ_cons, List.take_left]
  have hall : (c :: cs).all Char.isDigit = true :=
    List.all_eq_true.2 (List.forall_mem_cons.2 ⟨hc, htail⟩)
  rw [List.cons_append, takeInteger, if_pos hc,
    takeNumber_digits htail hzero (Nat.lt_of_succ_le hlength) hrest]
  simp only [Option.bind_some, htake, hall, if_true, hvalue]

end

/-! ## Texts -/

/-- What a character is written as in a text: an escape that stands for it, or itself. -/
inductive Spells (c : Char) : List Char → Prop
  | simple {e : Char} (h : ∀ cs, takeEscape e cs = some ([some c], cs)) : Spells c ['\\', e]
  | code (h : c.toNat < 0x20) :
    Spells c ['\\', 'u', '0', '0', hexDigit (c.toNat / 16), hexDigit c.toNat]
  | plain (hescape : c ≠ '\\') (hquote : c ≠ '"') (hline : c ≠ '\n') : Spells c [c]

section
variable {c : Char} {cs text body rest : List Char} {fuel : Nat}

/-- The escaped form of a character spells it. -/
theorem spells_escaped (c : Char) : Spells c (escaped c) := by
  unfold escaped
  split
  · exact .simple fun _ => rfl
  · exact .simple fun _ => rfl
  · exact .simple fun _ => rfl
  · exact .simple fun _ => rfl
  · exact .simple fun _ => rfl
  · exact .simple fun _ => rfl
  · exact .simple fun _ => rfl
  · next hquote hescape _ _ hline _ _ =>
    split
    · next hlow => exact .code hlow
    · exact .plain hescape hquote hline

/-- No spelling has a quote in front. -/
theorem Spells.exists_cons (h : Spells c text) : ∃ d ds, text = d :: ds ∧ d ≠ '"' := by
  cases h with
  | simple | code => exact ⟨_, _, rfl, by decide⟩
  | plain _ hquote => exact ⟨_, _, rfl, hquote⟩

/-- A character that neither escapes nor ends anything belongs to the body. -/
theorem shortBody_plain (hescape : c ≠ '\\') (hquote : c ≠ '"') (hline : c ≠ '\n') :
    shortBody '"' body (c :: cs) = shortBody '"' (c :: body) cs := by
  rw [shortBody, if_neg hquote, if_neg hline]
  exact fun _ _ h => absurd h hescape

/-- A hexadecimal digit is neither a backslash nor a quote nor a line feed. -/
theorem hexDigit_plain (n : Nat) : hexDigit n ≠ '\\' ∧ hexDigit n ≠ '"' ∧ hexDigit n ≠ '\n' := by
  have hall : ∀ d < 16,
      Nat.digitChar d ≠ '\\' ∧ Nat.digitChar d ≠ '"' ∧ Nat.digitChar d ≠ '\n' := by
    decide
  exact hall (n % 16) (Nat.mod_lt n (by decide))

/-- A spelling belongs to the body as a whole. -/
theorem Spells.shortBody_append (h : Spells c text) (body cs : List Char) :
    shortBody '"' body (text ++ cs) = shortBody '"' (text.reverse ++ body) cs := by
  cases h with
  | simple => rfl
  | code =>
    obtain ⟨h1, h2, h3⟩ := hexDigit_plain (c.toNat / 16)
    obtain ⟨h1', h2', h3'⟩ := hexDigit_plain c.toNat
    refine Eq.trans ?_ ((shortBody_plain h1 h2 h3).trans (shortBody_plain h1' h2' h3'))
    rfl
  | plain hescape hquote hline => exact shortBody_plain hescape hquote hline

/-- A body ends at the quote after the spellings of its characters. -/
theorem shortBody_flatMap (cs body rest : List Char) :
    shortBody '"' body (cs.flatMap escaped ++ '"' :: rest) =
      some (body.reverse ++ cs.flatMap escaped, rest) := by
  induction cs generalizing body with
  | nil =>
    rw [List.flatMap_nil, List.nil_append, List.append_nil, shortBody, if_pos rfl]
    rintro c' cs' ⟨⟩
  | cons c cs ih =>
    rw [List.flatMap_cons, List.append_assoc, (spells_escaped c).shortBody_append, ih,
      List.reverse_append, List.reverse_reverse, List.append_assoc]

/-- The body of a literal ends at its own quote, since no third quote follows two of them. -/
theorem literalBody_flatMap (cs : List Char) (hrest : Stops rest) :
    literalBody '"' (cs.flatMap escaped ++ '"' :: rest) = some (cs.flatMap escaped, rest) := by
  cases cs with
  | nil =>
    cases rest with
    | nil => rfl
    | cons d rest =>
      have hd : d ≠ '"' := ne_of_endsLiteral (hrest d rfl) rfl
      simp [literalBody, hd]
  | cons c cs =>
    obtain ⟨d, ds, hds, hd⟩ := (spells_escaped c).exists_cons
    obtain ⟨e, es, hes⟩ : ∃ e es, ds ++ (cs.flatMap escaped ++ '"' :: rest) = e :: es :=
      List.exists_cons_of_ne_nil (by simp)
    have hbody := shortBody_flatMap (c :: cs) [] rest
    rw [List.flatMap_cons, hds, List.append_assoc, List.cons_append, hes] at hbody ⊢
    simp only [literalBody, hd, decide_false, Bool.false_and, Bool.false_eq_true, if_false]
    exact hbody

/-- Two hexadecimal digits after two zeros are read back as the code they are of. -/
theorem takeHex_code {n : Nat} (h : n < 0x20) (cs : List Char) :
    takeHex 4 ('0' :: '0' :: hexDigit (n / 16) :: hexDigit n :: cs) = some (n, cs) := by
  have hall : ∀ n < 0x20, hexNumber? ['0', '0', hexDigit (n / 16), hexDigit n] = some n := by decide
  have hlong : ¬(cs.length + 1 + 1 + 1 + 1 < 4) := by omega
  simp [takeHex, hall n h, hlong]

/-- The escape of a control character is read back. -/
theorem takeEscape_code (h : c.toNat < 0x20) (cs : List Char) :
    takeEscape 'u' ('0' :: '0' :: hexDigit (c.toNat / 16) :: hexDigit c.toNat :: cs) =
      some ([some c], cs) := by
  have hscalar : scalar? c.toNat = some c := by
    rw [scalar?, if_neg (by simp; omega), Char.ofNat_toNat]
  rw [takeEscape, if_neg (by decide), if_neg (by decide), if_pos rfl, takeHex_code h]
  show some ([scalar? c.toNat], cs) = _
  rw [hscalar]

/-- An escape that stands for a character is replaced by it. -/
theorem unescape_escape {e : Char} (h : takeEscape e cs = some ([some c], rest)) :
    unescape (fuel + 1) ('\\' :: e :: cs) = (unescape fuel rest).map (some c :: ·) := by
  rw [unescape, h]
  show (unescape fuel rest).bind (fun after => some (some c :: after)) = _
  rw [Option.map_eq_bind]
  rfl

/-- A spelling stands for its character. -/
theorem Spells.unescape_append (h : Spells c text) (fuel : Nat) (cs : List Char) :
    unescape (fuel + 1) (text ++ cs) = (unescape fuel cs).map (some c :: ·) := by
  cases h with
  | simple h => exact unescape_escape (h cs)
  | code hlow => exact unescape_escape (takeEscape_code hlow cs)
  | plain hescape =>
    rw [List.singleton_append, unescape, Option.map_eq_bind]
    · rfl
    · exact fun _ _ h => absurd h hescape

/-- Characters are read back from their escaped forms, one by one. -/
theorem unescape_flatMap (cs : List Char) (hfuel : cs.length ≤ fuel) :
    unescape fuel (cs.flatMap escaped) = some (cs.map some) := by
  induction cs generalizing fuel with
  | nil => cases fuel <;> rfl
  | cons c cs ih =>
    obtain ⟨fuel, rfl⟩ : ∃ n, fuel = n + 1 := ⟨fuel - 1, by simp at hfuel; omega⟩
    rw [List.flatMap_cons, (spells_escaped c).unescape_append, ih (by simpa using hfuel)]
    rfl

/-- Escaping makes no text shorter. -/
theorem length_le_flatMap (cs : List Char) : cs.length ≤ (cs.flatMap escaped).length := by
  induction cs with
  | nil => exact Nat.zero_le _
  | cons c cs ih =>
    obtain ⟨d, ds, hds, -⟩ := (spells_escaped c).exists_cons
    rw [List.flatMap_cons, hds, List.length_append, List.length_cons, List.length_cons]
    omega

/-- A text is read back from the body it is written as. -/
theorem textOf_flatMap (s : String) :
    textOf false (s.toList.flatMap escaped) = some (.text (some s)) := by
  have hall : (s.toList.map some).mapM id = some s.toList := by
    rw [List.mapM_map]
    exact (List.mapM_pure (f := id)).trans (congrArg some (List.map_id _))
  rw [textOf, if_neg Bool.false_ne_true, unescape_flatMap _ (length_le_flatMap _), Option.map_some,
    hall, Option.map_some, String.ofList_toList]

/-- A string of JSON is taken as the text that it is. -/
theorem takes_string (s : String) : Takes takeText (renderString s) s := by
  refine ⟨⟨'"', _, rfl, rfl⟩, fun rest hrest => ?_⟩
  have hstart (cs : List Char) : literalStart {} ('"' :: cs) = some ({}, '"', cs) := rfl
  have htake : takeString (renderString s ++ rest) = some (some (.text (some s)), rest) := by
    rw [renderString, List.append_assoc, List.cons_append, List.singleton_append, takeString,
      hstart]
    simp only [Option.bind_eq_bind, Option.bind_some, literalBody_flatMap _ hrest]
    exact congrArg (fun literal => some (literal, rest)) (textOf_flatMap s)
  rw [takeText, htake]

end

/-! ## Scalars -/

section
variable {rest : List Char}

/-- A text is read back from its literal. -/
theorem takes_text (s : String) : Takes takeScalar (renderString s) (.text s) := by
  have htext := takes_string s
  refine ⟨htext.starts, fun rest hrest => ?_⟩
  have htake := htext.takes rest hrest
  rw [renderString, List.append_assoc, List.cons_append] at htake ⊢
  rw [takeScalar, htake]
  rintro cs ⟨⟩

/-- A literal may begin with a digit. -/
theorem beginsLiteral_of_isDigit {c : Char} (h : c.isDigit = true) : beginsLiteral c = true := by
  have hne {d : Char} (hd : d.isDigit = false) : c ≠ d := ne_of_isDigit h hd
  simp [beginsLiteral, isTokenBlank, endsLiteral, hne]

/-- No text begins with a digit. -/
theorem takeText_of_isDigit {c : Char} (h : c.isDigit = true) (cs : List Char) :
    takeText (c :: cs) = none := by
  have hne {d : Char} (hd : d.isDigit = false) : c ≠ d := ne_of_isDigit h hd
  have hstart : literalStart {} (c :: cs) = none := by
    simp [literalStart, LiteralKind.add, hne]
  rw [takeText, takeString, hstart]
  rfl

/-- An integer is taken as what it is, if it has not too many digits. -/
theorem takes_integer {n : Int} (hlength : (natDigits n.natAbs).length ≤ integerDigitLimit) :
    Takes takeScalar (JsonNumber.integer n).render (.integer n) := by
  obtain ⟨c, cs, hcs, hc, -, -⟩ := natDigits_eq_cons n.natAbs
  have hbegins := beginsLiteral_of_isDigit hc
  have htake {rest : List Char} (hrest : Stops rest) := takeInteger_digits hlength hrest
  rw [JsonNumber.render]
  rw [hcs] at htake ⊢
  by_cases hneg : n < 0
  · refine ⟨⟨'-', _, by rw [if_pos hneg]; rfl, rfl⟩, fun rest hrest => ?_⟩
    have habs : -(n.natAbs : Int) = n := by omega
    rw [if_pos hneg, List.append_assoc, List.singleton_append, takeScalar, List.cons_append,
      afterBlanks_cons (beginsLiteral_iff.1 hbegins).1, ← List.cons_append, htake hrest]
    show some (Value.integer (-n.natAbs), rest) = _
    rw [habs]
  · refine ⟨⟨c, cs, by rw [if_neg hneg]; rfl, hbegins⟩, fun rest hrest => ?_⟩
    have habs : (n.natAbs : Int) = n := by omega
    rw [if_neg hneg, List.nil_append, List.cons_append, takeScalar, takeText_of_isDigit hc,
      ← List.cons_append, htake hrest]
    · show some (Value.integer n.natAbs, rest) = _
      rw [habs]
    · exact fun _ h => ne_of_isDigit hc rfl (List.cons.inj h).1

end

/-! ## Items and entries -/

section
variable {α : Type} {take : Taker α} {texts : List (List Char)} {x : α} {xs : List α}
  {text gap lead rest : List Char} {c closing : Char} {count : Nat}

/-- The bracket may close right after the blanks. -/
theorem takeMany_closing (hlead : ∀ c ∈ lead, isTokenBlank c = true)
    (hclosing : endsLiteral closing = true) (rest : List Char) :
    takeMany take closing (count + 1) (lead ++ closing :: rest) = some ([], rest) := by
  rw [takeMany, afterBlanks_append hlead (isTokenBlank_of_endsLiteral hclosing)]
  exact if_pos rfl

/-- After an item the bracket closes, or more items follow a comma. -/
theorem takeMany_item (ht : Takes take text x) (hlead : ∀ c ∈ lead, isTokenBlank c = true)
    (hclosing : endsLiteral closing = true) (hend : endsLiteral c = true) :
    takeMany take closing (count + 1) (lead ++ (text ++ c :: rest)) =
      if c = closing then some ([x], rest)
      else if c = ',' then
        (takeMany take closing count rest).map fun (xs, rest) => (x :: xs, rest)
      else none := by
  have htake := ht.takes (c :: rest) (.cons hend)
  obtain ⟨d, cs, rfl, hd⟩ := ht.starts
  obtain ⟨hblank, hstart⟩ := beginsLiteral_iff.1 hd
  have hne : ¬(d :: (cs ++ c :: rest)).head? = some closing := fun h =>
    ne_of_endsLiteral hclosing hstart (Option.some.inj h).symm
  rw [List.cons_append] at htake ⊢
  rw [takeMany, afterBlanks_append hlead hblank]
  simp only [if_neg hne, htake, Option.bind_some,
    afterBlanks_cons (isTokenBlank_of_endsLiteral hend)]

/-- Items with a comma and blanks between them are taken up to the closing bracket. -/
theorem takeMany_separated (h : List.Forall₂ (Takes take) texts xs)
    (hgap : ∀ c ∈ gap, isTokenBlank c = true) (hlead : ∀ c ∈ lead, isTokenBlank c = true)
    (hclosing : endsLiteral closing = true) (hcomma : ',' ≠ closing) (hcount : xs.length < count)
    (rest : List Char) :
    takeMany take closing count (lead ++ (separated (',' :: gap) texts ++ closing :: rest)) =
      some (xs, rest) := by
  induction h generalizing count lead with
  | nil =>
    obtain ⟨count, rfl⟩ : ∃ n, count = n + 1 := ⟨count - 1, by simp at hcount; omega⟩
    exact takeMany_closing hlead hclosing rest
  | @cons text x texts xs ht htexts ih =>
    obtain ⟨count, rfl⟩ : ∃ n, count = n + 1 := ⟨count - 1, by simp at hcount; omega⟩
    cases htexts with
    | nil =>
      rw [separated, takeMany_item ht hlead hclosing hclosing, if_pos rfl]
    | @cons text' _ texts _ _ _ =>
      rw [separated_cons_cons, List.append_assoc, List.cons_append, List.cons_append,
        takeMany_item ht hlead hclosing rfl, if_neg hcomma, if_pos rfl, List.append_assoc,
        ih hgap (by simpa using hcount)]
      rfl

/-- Items without blanks are taken after the opening bracket. -/
theorem takeMany_compact (h : List.Forall₂ (Takes take) texts xs)
    (hclosing : endsLiteral closing = true) (hcomma : ',' ≠ closing) (rest : List Char) :
    takeMany take closing ((separated [','] texts ++ closing :: rest).length + 1)
      (separated [','] texts ++ closing :: rest) = some (xs, rest) := by
  have hcount := Json.count_le_separated [] texts
  have hnone : ∀ c ∈ ([] : List Char), isTokenBlank c = true := nofun
  refine takeMany_separated h hnone hnone hclosing hcomma ?_ rest
  rw [← h.length_eq, List.length_append, List.length_cons]
  omega

end

/-! ## Lists and dicts -/

section
variable {depth nesting : Nat} {text : List Char} {texts : List (List Char)} {v : Value}
  {values : List Value} {key : String} {entries done : List (String × Value)}

/-- A key that is not there is put at the end. -/
theorem setEntry_of_notMem (h : key ∉ done.map (·.1)) :
    setEntry key v done = done ++ [(key, v)] := by
  induction done with
  | nil => rfl
  | cons e done ih =>
    rw [List.map_cons, List.mem_cons, not_or] at h
    rw [setEntry, if_neg (Ne.symm h.1), ih h.2]
    rfl

/-- Entries with different keys are those of the dict. -/
theorem dictOf_of_nodup (h : (entries.map (·.1)).Nodup) : dictOf entries = entries := by
  have hfold : ∀ done, ((done ++ entries).map (·.1)).Nodup →
      entries.foldl (fun done e => setEntry e.1 e.2 done) done = done ++ entries := by
    clear h
    induction entries with
    | nil => exact fun done _ => (List.append_nil done).symm
    | cons e entries ih =>
      intro done h
      have hfresh : e.1 ∉ done.map (·.1) := by
        intro hmem
        rw [List.map_append, List.map_cons, List.nodup_append] at h
        exact h.2.2 _ hmem _ List.mem_cons_self rfl
      rw [List.append_cons] at h ⊢
      rw [List.foldl_cons, setEntry_of_notMem hfresh, ih _ h]
  exact hfold [] h

/-- What is taken as a scalar is taken as a value. -/
theorem Takes.ofScalar (h : Takes takeScalar text v) : Takes (takeValue nesting) text v := by
  refine ⟨h.starts, fun rest hrest => ?_⟩
  have htake := h.takes rest hrest
  cases nesting with
  | zero => exact htake
  | succ nesting =>
    obtain ⟨c, cs, rfl, -⟩ := h.starts
    have hbracket : takeScalar ('[' :: (cs ++ rest)) = none := rfl
    have hbrace : takeScalar ('\x7b' :: (cs ++ rest)) = none := rfl
    rw [List.cons_append] at htake ⊢
    rw [takeValue]
    · exact htake
    · rintro _ ⟨⟩
      cases hbracket.symm.trans htake
    · rintro _ ⟨⟩
      cases hbrace.symm.trans htake

/-- A list is taken if its items are. -/
theorem takes_list (h : List.Forall₂ (Takes (takeValue nesting)) texts values) :
    Takes (takeValue (nesting + 1)) (Json.Layout.compact.bracket depth '[' ']' texts)
      (.list values) := by
  rw [bracket_compact]
  refine ⟨⟨'[', _, rfl, rfl⟩, fun rest _ => ?_⟩
  rw [List.cons_append, List.append_assoc, List.singleton_append, takeValue,
    takeMany_compact h rfl (by decide)]
  rfl

/-- An entry is taken if its value is. -/
theorem takes_entry {take : Taker Value} (key : String) (h : Takes take text v) :
    Takes (takeEntry take) (renderString key ++ Json.Layout.compact.afterKey ++ text)
      (key, v) := by
  refine ⟨⟨'"', _, rfl, rfl⟩, fun rest hrest => ?_⟩
  obtain ⟨c, cs, rfl, hc⟩ := h.starts
  have htake := h.takes rest hrest
  have hkey : Json.Layout.compact.afterKey = [':'] := rfl
  rw [hkey, List.append_assoc, List.append_assoc, List.singleton_append, takeEntry,
    (takes_string key).takes _ (.cons rfl), Option.bind_some]
  rw [List.cons_append] at htake ⊢
  simp only [afterBlanks_cons (c := ':') rfl, afterBlanks_cons (beginsLiteral_iff.1 hc).1, htake]
  rfl

/-- A dict is taken if its entries are and have different keys. -/
theorem takes_dict (h : List.Forall₂ (Takes (takeEntry (takeValue nesting))) texts entries)
    (hkeys : (entries.map (·.1)).Nodup) :
    Takes (takeValue (nesting + 1)) (Json.Layout.compact.bracket depth '\x7b' '\x7d' texts)
      (.dict entries) := by
  rw [bracket_compact]
  refine ⟨⟨'\x7b', _, rfl, rfl⟩, fun rest _ => ?_⟩
  rw [List.cons_append, List.append_assoc, List.singleton_append, takeValue,
    takeMany_compact h rfl (by decide)]
  show some (Value.dict (dictOf entries), rest) = _
  rw [dictOf_of_nodup hkeys]

end

/-! ## Lines -/

section
variable {α : Type} {take : Taker α} {x : α} {cs : List Char} {source : String}

/-- A line without control characters only gets the line feed that it has not. -/
theorem withLineFeeds_line (h : ∀ c ∈ cs, 0x20 ≤ c.toNat) (hne : cs ≠ []) :
    withLineFeeds cs = cs ++ ['\n'] := by
  have hgo : withLineFeeds.go cs = cs := by
    clear hne
    induction cs with
    | nil => rfl
    | cons c cs ih =>
      obtain ⟨hc, h⟩ := List.forall_mem_cons.1 h
      have hreturn : c ≠ '\r' := by
        rintro rfl
        exact absurd hc (by decide)
      rw [withLineFeeds.go, ih h]
      · exact fun _ h _ => absurd h hreturn
      · exact fun h => absurd h hreturn
  have hlast : cs.getLast? ≠ some '\n' := by
    intro hlast
    exact absurd (h _ (List.mem_of_getLast? hlast)) (by decide)
  rw [withLineFeeds, hgo]
  simp [hlast, hne]

/-- A line without control characters is read if all of it is taken. -/
theorem readLine_eq (h : ∀ c ∈ source.toList, 0x20 ≤ c.toNat) (hne : source.toList ≠ [])
    (htake : take (source.toList ++ ['\n']) = some (x, ['\n'])) :
    readLine take source = some x := by
  have hnull : source.toList.contains '\x00' = false := by
    rw [← Bool.not_eq_true, List.contains_iff_mem]
    exact fun hmem => absurd (h _ hmem) (by decide)
  rw [readLine, hnull, if_neg Bool.false_ne_true, withLineFeeds_line h hne, htake]
  rfl

end

end ModuleBridge.Source
