import ModuleBridge.Json.Render

/-!
# The tokens of JavaScript

What is generated is read as JavaScript reads it, so that a statement about generated code can speak
of its tokens and not of the templates it was made with. The lexer is a machine that takes one
character after the other and gives out the tokens that end there; two texts in a row are read by
running it on (`Reads.append`). It knows as much of the language as generated code uses and refuses
the rest: a text with a division, a regular expression, a block comment or a backslash in a template
literal has no tokens here.
-/

namespace ModuleBridge.JavaScript

/-! ## Characters -/

/-- The characters that end a line, and with it a comment. -/
def lineTerminators : List Char := ['\n', '\r', '\u2028', '\u2029']

/-- The other characters that only separate tokens. -/
def spaces : List Char := [
  '\t', '\x0b', '\x0c', ' ', '\u00a0', '\u1680', '\u2000', '\u2001', '\u2002', '\u2003',
  '\u2004', '\u2005', '\u2006', '\u2007', '\u2008', '\u2009', '\u200a', '\u202f', '\u205f',
  '\u3000', '\ufeff']

/-- Does the character only separate tokens? -/
def isBlank (c : Char) : Bool :=
  lineTerminators.contains c || spaces.contains c

/-- Can the character stand in a word? Of the characters beyond ASCII all can that are no blanks. -/
def isWordChar (c : Char) : Bool :=
  c = '_' || c = '$' || c.isAlphanum || (0x80 ≤ c.toNat && !isBlank c)

/-- The characters that are tokens by themselves. -/
def marks : List Char := ['{', '}', '(', ')', '[', ']', '<', '>', ';', ',', '.', ':', '=', '!']

/-- Can the character stand in the code of a hole? -/
def isHoleChar (c : Char) : Bool :=
  isWordChar c || ['(', ')', '[', ']', '.'].contains c

/-! ## Tokens -/

/-- A part of a template literal. -/
inductive Part
  | text (cs : List Char)
  /-- The code between a dollar sign with a brace and the next brace. -/
  | hole (code : List Char)
  deriving DecidableEq, Repr

/-- A token. Numbers are words. -/
inductive Token
  | word (name : String)
  | mark (c : Char)
  /-- A string literal with the text it stands for. -/
  | literal (value : String)
  | template (parts : List Part)
  deriving DecidableEq, Repr

/-- What the lexer has begun to read. -/
inductive Mode
  /-- Nothing. -/
  | blank
  | word (name : List Char)
  /-- A slash, which must begin a comment. -/
  | slash
  | comment
  | quoted (quote : Char) (value : List Char)
  /-- A backslash in a string literal. -/
  | escaped (quote : Char) (value : List Char)
  /-- The digits of a numbered escape, of which some are left. -/
  | numbered (quote : Char) (value : List Char) (left code : Nat)
  /-- The parts of a template literal before a text. -/
  | template (parts : List Part) (text : List Char)
  /-- A dollar sign in a template literal. -/
  | dollar (parts : List Part) (text : List Char)
  | hole (parts : List Part) (code : List Char)
  deriving DecidableEq, Repr

/-- A text as a part, if it has a character. -/
def textPart (text : List Char) : List Part :=
  if text.isEmpty then [] else [.text text]

/-- The character that a letter after a backslash stands for. -/
def unescaped? (c : Char) : Option Char :=
  match c with
  | '"' => some '"'
  | '\'' => some '\''
  | '\\' => some '\\'
  | 'b' => some '\x08'
  | 'f' => some '\x0c'
  | 'n' => some '\n'
  | 'r' => some '\r'
  | 't' => some '\t'
  | _ => none

/-- The value of a hexadecimal digit. -/
def hexValue? (c : Char) : Option Nat :=
  ("0123456789abcdef".toList.findIdx? (· = c)).or ("0123456789ABCDEF".toList.findIdx? (· = c))

/-- The first character of a token, or one between tokens. -/
def begin (c : Char) : Option (Mode × List Token) :=
  if isBlank c then some (.blank, [])
  else if isWordChar c then some (.word [c], [])
  else if marks.contains c then some (.blank, [.mark c])
  else if c = '/' then some (.slash, [])
  else if c = '"' ∨ c = '\'' then some (.quoted c [], [])
  else if c = '`' then some (.template [] [], [])
  else none

/-- A character of a template literal outside of holes. -/
def inTemplate (parts : List Part) (text : List Char) (c : Char) : Option (Mode × List Token) :=
  if c = '`' then some (.blank, [.template (parts ++ textPart text)])
  else if c = '$' then some (.dollar parts text, [])
  else if c = '\\' ∨ c = '\r' then none
  else some (.template parts (text ++ [c]), [])

/-- Takes a character. -/
def step : Mode → Char → Option (Mode × List Token)
  | .blank, c => begin c
  | .word name, c =>
    if isWordChar c then some (.word (name ++ [c]), [])
    else (begin c).map fun (mode, tokens) => (mode, .word (String.ofList name) :: tokens)
  | .slash, c => if c = '/' then some (.comment, []) else none
  | .comment, c => if lineTerminators.contains c then some (.blank, []) else some (.comment, [])
  | .quoted quote value, c =>
    if c = quote then some (.blank, [.literal (String.ofList value)])
    else if c = '\\' then some (.escaped quote value, [])
    else if c = '\n' ∨ c = '\r' then none
    else some (.quoted quote (value ++ [c]), [])
  | .escaped quote value, c =>
    if c = 'u' then some (.numbered quote value 4 0, [])
    else (unescaped? c).map fun d => (.quoted quote (value ++ [d]), [])
  | .numbered quote value left code, c =>
    match hexValue? c, left with
    | some digit, 1 =>
      let code := 16 * code + digit
      if code.isValidChar then some (.quoted quote (value ++ [Char.ofNat code]), []) else none
    | some digit, left + 1 => some (.numbered quote value left (16 * code + digit), [])
    | _, _ => none
  | .template parts text, c => inTemplate parts text c
  | .dollar parts text, c =>
    if c = '{' then some (.hole (parts ++ textPart text) [], [])
    else inTemplate parts (text ++ ['$']) c
  | .hole parts code, c =>
    if c = '}' then some (.template (parts ++ [.hole code]) [], [])
    else if isHoleChar c then some (.hole parts (code ++ [c]), [])
    else none

section
variable {c quote : Char} {name value text code : List Char} {parts : List Part}

theorem step_blank : step .blank c = begin c := rfl

theorem step_word : step (.word name) c =
    if isWordChar c then some (.word (name ++ [c]), [])
    else (begin c).map fun (mode, tokens) => (mode, .word (String.ofList name) :: tokens) := rfl

theorem step_comment : step .comment c =
    if lineTerminators.contains c then some (.blank, []) else some (.comment, []) := rfl

theorem step_quoted : step (.quoted quote value) c =
    if c = quote then some (.blank, [.literal (String.ofList value)])
    else if c = '\\' then some (.escaped quote value, [])
    else if c = '\n' ∨ c = '\r' then none
    else some (.quoted quote (value ++ [c]), []) := rfl

theorem step_template : step (.template parts text) c = inTemplate parts text c := rfl

theorem step_hole : step (.hole parts code) c =
    if c = '}' then some (.template (parts ++ [.hole code]) [], [])
    else if isHoleChar c then some (.hole parts (code ++ [c]), [])
    else none := rfl

end

/-- Takes characters one after the other. -/
def run : Mode → List Char → Option (Mode × List Token)
  | mode, [] => some (mode, [])
  | mode, c :: cs => do
    let (mode, tokens) ← step mode c
    let (mode, more) ← run mode cs
    return (mode, tokens ++ more)

/-- The tokens of a text. It may end in a word or in a comment. -/
def tokens? (text : String) : Option (List Token) :=
  match run .blank text.toList with
  | some (.blank, tokens) | some (.comment, tokens) => some tokens
  | some (.word name, tokens) => some (tokens ++ [.word (String.ofList name)])
  | _ => none

/-! ## Reading texts in a row -/

/-- From one mode the characters give some tokens and lead to another mode. -/
def Reads (mode : Mode) (cs : List Char) (tokens : List Token) (mode' : Mode) : Prop :=
  run mode cs = some (mode', tokens)

instance (mode : Mode) (cs : List Char) (tokens : List Token) (mode' : Mode) :
    Decidable (Reads mode cs tokens mode') :=
  inferInstanceAs (Decidable (_ = _))

section
variable {mode mode' mode'' : Mode} {c quote : Char} {cs cs' value text code : List Char}
  {ts ts' : List Token} {parts : List Part} {name : String}

theorem Reads.nil (mode : Mode) : Reads mode [] [] mode := rfl

/-- Reading goes on with what one character gives. -/
theorem Reads.cons (hc : step mode c = some (mode', ts)) (h : Reads mode' cs ts' mode'') :
    Reads mode (c :: cs) (ts ++ ts') mode'' := by
  rw [Reads] at h ⊢
  simp only [run, hc, h, Option.bind_eq_bind, Option.bind_some, Option.pure_def]

/-- A character that gives no token. -/
theorem Reads.skip (hc : step mode c = some (mode', [])) (h : Reads mode' cs ts mode'') :
    Reads mode (c :: cs) ts mode'' :=
  Reads.cons hc h

/-- What is read is read character by character. -/
theorem Reads.of_cons (h : Reads mode (c :: cs) ts mode'') :
    ∃ mode' us vs, step mode c = some (mode', us) ∧ Reads mode' cs vs mode'' ∧ ts = us ++ vs := by
  rw [Reads, run] at h
  cases hc : step mode c with
  | none =>
    rw [hc] at h
    cases h
  | some first =>
    cases hr : run first.1 cs with
    | none =>
      simp only [hc, hr, Option.bind_eq_bind, Option.bind_some, Option.bind_none] at h
      cases h
    | some rest =>
      simp only [hc, hr, Option.bind_eq_bind, Option.bind_some] at h
      cases h
      exact ⟨first.1, first.2, rest.2, rfl, hr, rfl⟩

/-- Two texts in a row give their tokens in a row. -/
theorem Reads.append (h : Reads mode cs ts mode') (h' : Reads mode' cs' ts' mode'') :
    Reads mode (cs ++ cs') (ts ++ ts') mode'' := by
  induction cs generalizing mode ts with
  | nil =>
    cases h
    exact h'
  | cons c cs ih =>
    obtain ⟨m, us, vs, hc, hr, rfl⟩ := h.of_cons
    rw [List.cons_append, List.append_assoc]
    exact Reads.cons hc (ih hr)

/-- A text that is given by its characters need not be taken apart to be read. -/
theorem Reads.of_chars (h : Reads mode cs ts mode') :
    Reads mode (String.ofList cs).toList ts mode' := by
  rwa [String.toList_ofList]

/-- A text that is read from blank to blank has its tokens. -/
theorem tokens?_eq_some (h : Reads .blank name.toList ts .blank) : tokens? name = some ts := by
  rw [tokens?, h]

/-- Characters that a mode gathers one by one, however each is written. -/
theorem Reads.gather_written (gathering : List Char → Mode) (written : Char → List Char)
    (h : ∀ c ∈ cs, ∀ value, Reads (gathering value) (written c) [] (gathering (value ++ [c])))
    (value : List Char) :
    Reads (gathering value) (cs.flatMap written) [] (gathering (value ++ cs)) := by
  induction cs generalizing value with
  | nil =>
    rw [List.append_nil]
    exact .nil _
  | cons c cs ih =>
    have hrest := ih (fun d hd => h d (.tail _ hd)) (value ++ [c])
    rw [List.append_assoc, List.singleton_append] at hrest
    exact Reads.append (h c List.mem_cons_self value) hrest

/-- Characters that a mode gathers one by one as they are. -/
theorem Reads.gather (gathering : List Char → Mode)
    (h : ∀ c ∈ cs, ∀ value, step (gathering value) c = some (gathering (value ++ [c]), []))
    (value : List Char) : Reads (gathering value) cs [] (gathering (value ++ cs)) := by
  have hall := Reads.gather_written gathering (fun c => [c])
    (fun c hc value => .skip (h c hc value) (.nil _)) value
  rwa [List.flatMap_singleton'] at hall

/-! ## Words -/

/-- Characters that make up a word. -/
structure IsWord (cs : List Char) : Prop where
  ne_nil : cs ≠ []
  all : ∀ c ∈ cs, isWordChar c = true

instance (cs : List Char) : Decidable (IsWord cs) :=
  decidable_of_iff (cs ≠ [] ∧ cs.all isWordChar = true)
    ⟨fun h => ⟨h.1, List.all_eq_true.1 h.2⟩, fun h => ⟨h.ne_nil, List.all_eq_true.2 h.all⟩⟩

/-- No character both separates words and stands in them. -/
theorem isBlank_of_isWordChar (h : isWordChar c = true) : isBlank c = false := by
  have hall : ∀ c ∈ lineTerminators ++ spaces, ¬isWordChar c = true :=
    List.any_eq_false.1 (by rfl)
  rw [← Bool.not_eq_true]
  intro hb
  rw [isBlank, Bool.or_eq_true, List.contains_iff_mem, List.contains_iff_mem,
    ← List.mem_append] at hb
  exact hall c hb h

/-- A word is gathered from its first character on. -/
theorem Reads.of_isWord (h : IsWord cs) : Reads .blank cs [] (.word cs) := by
  cases cs with
  | nil => exact absurd rfl h.ne_nil
  | cons c cs =>
    have hc := h.all c List.mem_cons_self
    have hstep : step .blank c = some (.word [c], []) := by
      rw [step_blank, begin, isBlank_of_isWordChar hc, if_neg Bool.false_ne_true, if_pos hc]
    refine .skip hstep (Reads.gather .word (fun d hd value => ?_) [c])
    rw [step_word, if_pos (h.all d (.tail _ hd))]

/-- A text that ends a word does so whatever follows it. -/
theorem head?_append_of_not_isWordChar (h : cs.head?.map isWordChar = some false)
    (cs' : List Char) : (cs ++ cs').head?.map isWordChar = some false := by
  cases cs with
  | nil => cases h
  | cons c cs => exact h

/-- A word ends at a character that is in no word, which is read as if nothing stood before it. -/
theorem Reads.word (hs : IsWord name.toList) (hc : cs.head?.map isWordChar = some false)
    (h : Reads .blank cs ts mode) :
    Reads .blank (name.toList ++ cs) (.word name :: ts) mode := by
  cases cs with
  | nil => cases hc
  | cons c cs =>
    have hend : isWordChar c = false := Option.some.inj hc
    obtain ⟨mode', us, vs, hstep, hrest, rfl⟩ := h.of_cons
    have hword : step (.word name.toList) c = some (mode', .word name :: us) := by
      have hb : begin c = some (mode', us) := hstep
      simp [step_word, hend, hb]
    exact Reads.append (Reads.of_isWord hs) (Reads.cons hword hrest)

/-- The digits of a number make a word. -/
theorem isWord_natDigits (n : Nat) : IsWord (Decimal.natDigits n) where
  ne_nil := Nat.toDigits_ne_nil
  all := fun c hc => by
    have hdigit : c.isDigit = true := Nat.isDigit_of_mem_toDigits (by decide) (by decide) hc
    simp [isWordChar, Char.isAlphanum, hdigit]

/-! ## Comments and string literals -/

/-- A comment goes on up to the end of the line. -/
theorem Reads.comment (h : ∀ c ∈ cs, c ∉ lineTerminators) : Reads .comment cs [] .comment := by
  refine Reads.gather (fun _ => .comment) (fun c hc value => ?_) []
  simp [step_comment, h c hc]

/-- Characters that stand for themselves in a string literal. -/
theorem Reads.quoted_chars (h : ∀ c ∈ cs, c ≠ quote ∧ c ≠ '\\' ∧ c ≠ '\n' ∧ c ≠ '\r')
    (value : List Char) : Reads (.quoted quote value) cs [] (.quoted quote (value ++ cs)) := by
  refine Reads.gather (.quoted quote) (fun c hc value => ?_) value
  obtain ⟨hq, hb, hn, hr⟩ := h c hc
  simp [step_quoted, hq, hb, hn, hr]

/-- A string literal ends at its quote. -/
theorem Reads.end_quote (h : Reads .blank cs ts mode) :
    Reads (.quoted quote value) (quote :: cs) (.literal (String.ofList value) :: ts) mode := by
  have hstep : step (.quoted quote value) quote =
      some (.blank, [.literal (String.ofList value)]) := by
    rw [step_quoted, if_pos rfl]
  exact Reads.cons hstep h

/-- A hexadecimal digit is read back. -/
theorem hexValue?_hexDigit (n : Nat) : hexValue? (Json.hexDigit n) = some (n % 16) := by
  have hall : ∀ d < 16, hexValue? (Nat.digitChar d) = some d := by decide
  exact hall (n % 16) (Nat.mod_lt n (by decide))

/-- A control character is read back from its four digits. -/
theorem Reads.numbered (hc : c.toNat < 0x20) (value : List Char) :
    Reads (.quoted '"' value)
      ['\\', 'u', '0', '0', Json.hexDigit (c.toNat / 16), Json.hexDigit c.toNat] []
      (.quoted '"' (value ++ [c])) := by
  have hhigh : step (.numbered '"' value 2 0) (Json.hexDigit (c.toNat / 16)) =
      some (.numbered '"' value 1 (c.toNat / 16), []) := by
    have hdigit : c.toNat / 16 % 16 = c.toNat / 16 := Nat.mod_eq_of_lt (by omega)
    simp [step, hexValue?_hexDigit, hdigit]
  have hlow : step (.numbered '"' value 1 (c.toNat / 16)) (Json.hexDigit c.toNat) =
      some (.quoted '"' (value ++ [c]), []) := by
    have hcode : 16 * (c.toNat / 16) + c.toNat % 16 = c.toNat := Nat.div_add_mod _ _
    have hvalid : c.toNat.isValidChar := c.valid
    simp [step, hexValue?_hexDigit, hcode, hvalid]
  exact .skip rfl (.skip rfl (.skip rfl (.skip rfl (.skip hhigh (.skip hlow (.nil _))))))

/-- A character that is written as JSON is read back in a string literal. -/
theorem Reads.escaped (c : Char) (value : List Char) :
    Reads (.quoted '"' value) (Json.escaped c) [] (.quoted '"' (value ++ [c])) := by
  unfold Json.escaped
  split
  · exact .skip rfl (.skip rfl (.nil _))
  · exact .skip rfl (.skip rfl (.nil _))
  · exact .skip rfl (.skip rfl (.nil _))
  · exact .skip rfl (.skip rfl (.nil _))
  · exact .skip rfl (.skip rfl (.nil _))
  · exact .skip rfl (.skip rfl (.nil _))
  · exact .skip rfl (.skip rfl (.nil _))
  · next hquote hbackslash _ _ hn hr _ =>
    split
    · next hlow => exact Reads.numbered hlow value
    · refine Reads.quoted_chars (fun d hd => ?_) value
      rw [List.mem_singleton.1 hd]
      exact ⟨hquote, hbackslash, hn, hr⟩

/-- Characters that are written as JSON are read back in a string literal. -/
theorem Reads.escaped_chars (value cs : List Char) :
    Reads (.quoted '"' value) (cs.flatMap Json.escaped) [] (.quoted '"' (value ++ cs)) :=
  Reads.gather_written (.quoted '"') Json.escaped (fun c _ => Reads.escaped c) value

/-- A text that is written as JSON is read back as a string literal. -/
theorem Reads.json (text : String) :
    Reads .blank (Json.literal text).toList [.literal text] .blank := by
  have hend := Reads.append (Reads.escaped_chars [] text.toList) (Reads.end_quote (.nil .blank))
  rw [Json.literal, String.toList_ofList, Json.renderString, List.cons_append]
  rw [List.nil_append, List.nil_append, String.ofList_toList] at hend
  exact .skip (by rfl) hend

end

/-! ## String literals by themselves -/

/-- Goes on with a string literal up to the quote that ends it. Gives what the literal stands for
and the characters after the quote. -/
def finishLiteral (mode : Mode) : List Char → Option (String × List Char)
  | [] => none
  | c :: cs =>
    match step mode c with
    | some (mode, []) => finishLiteral mode cs
    | some (.blank, [.literal value]) => some (value, cs)
    | _ => none

/-- Takes a string literal between quotes of one kind. -/
def takeLiteral (quote : Char) : List Char → Option (String × List Char)
  | [] => none
  | c :: cs => if c = quote then finishLiteral (.quoted quote []) cs else none

/-- The literal stands for the text, and reading it ends with it, whatever follows. -/
def IsLiteral (quote : Char) (literal text : String) : Prop :=
  ∀ rest, takeLiteral quote (literal.toList ++ rest) = some (text, rest)

section
variable {mode mode' : Mode} {quote : Char} {cs value : List Char}

/-- Characters that give no token do not end a literal. -/
theorem finishLiteral_append (h : Reads mode cs [] mode') (rest : List Char) :
    finishLiteral mode (cs ++ rest) = finishLiteral mode' rest := by
  induction cs generalizing mode with
  | nil =>
    cases h
    rfl
  | cons c cs ih =>
    obtain ⟨next, us, vs, hc, hrest, hnil⟩ := h.of_cons
    obtain ⟨rfl, rfl⟩ := List.append_eq_nil_iff.1 hnil.symm
    rw [List.cons_append, finishLiteral, hc]
    exact ih hrest

/-- Characters between quotes are a literal, if they are read as its text. -/
theorem isLiteral_quoted (h : Reads (.quoted quote []) cs [] (.quoted quote value)) :
    IsLiteral quote (String.ofList (quote :: cs ++ [quote])) (String.ofList value) := by
  intro rest
  have hend : step (.quoted quote value) quote =
      some (.blank, [.literal (String.ofList value)]) := by
    rw [step_quoted, if_pos rfl]
  rw [String.toList_ofList, List.append_assoc, List.cons_append, takeLiteral, if_pos rfl,
    finishLiteral_append h, List.singleton_append, finishLiteral, hend]

/-- A text that is written as JSON is a literal of the text. -/
theorem isLiteral_json (text : String) : IsLiteral '"' (Json.literal text) text := by
  have hliteral := isLiteral_quoted (Reads.escaped_chars [] text.toList)
  rwa [List.nil_append, String.ofList_toList] at hliteral

end

section
variable {mode : Mode} {c : Char} {cs text code : List Char} {ts : List Token} {parts : List Part}

/-! ## Template literals -/

/-- Can the character stand in a template literal for itself, whatever follows it? -/
def isPlain (c : Char) : Bool := !(['`', '$', '\\', '\r'].contains c)

/-- The digits of a number are plain in a template. -/
theorem isPlain_natDigits (n : Nat) : ∀ c ∈ Decimal.natDigits n, isPlain c = true := by
  intro c hc
  have hdigit : c.isDigit = true := Nat.isDigit_of_mem_toDigits (by decide) (by decide) hc
  have hspecial : ∀ c ∈ ['`', '$', '\\', '\r'], ¬Char.isDigit c = true :=
    List.any_eq_false.1 (by rfl)
  rw [isPlain, Bool.not_eq_true', ← Bool.not_eq_true, List.contains_iff_mem]
  exact fun hmem => hspecial c hmem hdigit

/-- Characters that stand for themselves in a template literal. -/
theorem Reads.template_chars (h : ∀ c ∈ cs, isPlain c = true) (parts : List Part)
    (text : List Char) : Reads (.template parts text) cs [] (.template parts (text ++ cs)) := by
  refine Reads.gather (.template parts) (fun c hc text => ?_) text
  have hp := h c hc
  simp only [isPlain, List.contains_eq_mem, List.mem_cons, List.not_mem_nil, or_false,
    Bool.not_eq_true', decide_eq_false_iff_not, not_or] at hp
  obtain ⟨hquote, hdollar, hbackslash, hr⟩ := hp
  simp [step_template, inTemplate, hquote, hdollar, hbackslash, hr]

/-- A hole in a template literal. -/
theorem Reads.hole (h : ∀ c ∈ code, isHoleChar c = true) (parts : List Part) (text : List Char) :
    Reads (.template parts text) ('$' :: '{' :: code ++ ['}']) []
      (.template (parts ++ textPart text ++ [.hole code]) []) := by
  have hcode : Reads (.hole (parts ++ textPart text) []) code []
      (.hole (parts ++ textPart text) code) := by
    refine Reads.gather (.hole _) (fun c hc value => ?_) []
    have hne : c ≠ '}' := by
      rintro rfl
      exact absurd (h _ hc) (by decide)
    simp [step_hole, hne, h c hc]
  refine .skip rfl (.skip rfl (Reads.append hcode (.skip ?_ (.nil _))))
  rfl

/-- A template literal ends at its quote. -/
theorem Reads.end_template (h : Reads .blank cs ts mode) :
    Reads (.template parts text) ('`' :: cs) (.template (parts ++ textPart text) :: ts) mode := by
  have hstep : step (.template parts text) '`' =
      some (.blank, [.template (parts ++ textPart text)]) := rfl
  exact Reads.cons hstep h

end

end ModuleBridge.JavaScript
