import ModuleBridge.Generation.Module
import ModuleBridge.Proofs.Generation.Names
import ModuleBridge.Proofs.JavaScript.Module
import ModuleBridge.Session.Script

/-!
# Generated wrappers send the scripts of calls

The text of a wrapper reads as JavaScript (`reads_wrapperText`): a check of the number of arguments,
a template literal for the script, and a request that sends it. Running what was read builds the
script that `Session.callScript` makes for the same call, or throws before a script is built what
`Session.callScript` fails with. The literal has no holes but those for the arguments, because the
name of a function has no character that means anything in it.
-/

namespace ModuleBridge.Generation

open JavaScript

/-! ## Names as words -/

section
variable {name : String} {c : Char}

/-- No range of letters or digits has a blank in it. -/
theorem isAlphanumeric_of_isBlank (h : isBlank c = true) : isAlphanumeric c = false := by
  have hranges : (Text.alphabeticRanges ++ Text.numericRanges).all (fun r =>
      ((lineTerminators ++ spaces).map Char.toNat).all fun n => !(r.1.ble n && n.ble r.2)) =
        true := by
    decide +kernel
  rw [isBlank, Bool.or_eq_true, List.contains_iff_mem, List.contains_iff_mem,
    ← List.mem_append] at h
  rw [← Bool.not_eq_true, isAlphanumeric, Bool.or_eq_true, Text.isAlphabetic, Text.isNumeric,
    Text.inRanges_eq_true, Text.inRanges_eq_true]
  simp only [List.all_eq_true] at hranges
  rintro (⟨r, hr, hc⟩ | ⟨r, hr, hc⟩)
  · have hn := hranges r (List.mem_append_left _ hr) c.toNat (List.mem_map_of_mem h)
    simp [hc, Nat.ble_eq_true_of_le] at hn
  · have hn := hranges r (List.mem_append_right _ hr) c.toNat (List.mem_map_of_mem h)
    simp [hc, Nat.ble_eq_true_of_le] at hn

/-- What can stand in an identifier can stand in a word. -/
theorem isWordChar_of_isIdentifierTail (h : isIdentifierTail c = true) : isWordChar c = true := by
  rw [isIdentifierTail, Bool.or_eq_true, decide_eq_true_iff] at h
  rcases h with rfl | h
  · rfl
  · by_cases hc : c.toNat < 0x80
    · have hascii : ∀ n < 0x80, Text.inRanges [(0x41, 0x5A), (0x61, 0x7A), (0x30, 0x39)]
          (Char.ofNat n) = true → isWordChar (Char.ofNat n) = true := by decide +kernel
      have hchar := hascii c.toNat hc
      rw [Char.ofNat_toNat, ← isAlphanumeric_of_ascii hc] at hchar
      exact hchar h
    · have hblank : isBlank c = false := by
        rw [← Bool.not_eq_true]
        intro hb
        rw [isAlphanumeric_of_isBlank hb] at h
        cases h
      simp [isWordChar, hblank, Nat.le_of_not_lt hc]

/-- What can stand in an identifier stands for itself in a template literal. -/
theorem isPlain_of_isIdentifierTail (h : isIdentifierTail c = true) : isPlain c = true := by
  have hascii : ∀ c ∈ ['`', '$', '\\', '\r'], decide (c.toNat < 0x80) = true :=
    List.all_eq_true.1 (by rfl)
  have hspecial : ∀ c ∈ ['`', '$', '\\', '\r'],
      ¬(c = '_' || Text.inRanges [(0x41, 0x5A), (0x61, 0x7A), (0x30, 0x39)] c) = true :=
    List.any_eq_false.1 (by rfl)
  rw [isPlain, Bool.not_eq_true', ← Bool.not_eq_true, List.contains_iff_mem]
  intro hmem
  rw [isIdentifierTail_of_ascii (of_decide_eq_true (hascii c hmem))] at h
  exact hspecial c hmem h

/-- Characters of identifiers make a word. -/
theorem IsTail.isWord (h : IsTail name) : IsWord name.toList :=
  ⟨h.ne_nil, fun c hc => isWordChar_of_isIdentifierTail (h.all c hc)⟩

/-- Characters of identifiers are plain in a template. -/
theorem IsTail.isPlain (h : IsTail name) : ∀ c ∈ name.toList, isPlain c = true :=
  fun c hc => isPlain_of_isIdentifierTail (h.all c hc)

end

/-! ## Reading a wrapper -/

section
variable {w : Wrapper} {name : String} {indices : List Nat}

/-- The literal of the message for a wrong number of arguments. -/
def messageParts (arity : Nat) : List Part :=
  [.text ("Expected " ++ numeral arity ++ " arguments, but got ").toList,
    .hole "args.length".toList]

/-- What a wrapper reads as. -/
def wrapperBlock (w : Wrapper) : Block where
  binding := w.binding
  body := [
    .guard w.signature.arity (messageParts w.signature.arity),
    .script (callParts w.signature.name (List.range w.signature.arity)),
    .send]

/-- The text of a wrapper, piece by piece. -/
theorem wrapperText_eq (w : Wrapper) :
    wrapperText w = .ok ("  const " ++ (w.binding ++
      (" = (...args) => \x7b\n    if (args.length !== " ++ (numeral w.signature.arity ++
      (") \x7b\n      throw new Error(`Expected " ++ (numeral w.signature.arity ++
      (" arguments, but got $\x7bargs.length\x7d`);\n    \x7d\n\n    const script = `return " ++
      (w.signature.name ++ ("(" ++ (stringifiedArguments w.signature.arity ++
      (")`;\n\n    return client.executeScript(script);\n  \x7d;\n" ++ ""))))))))))) := by
  rfl

/-- The text of the hole for an argument. -/
def holeText (index : Nat) : String := s!"$\x7bJSON.stringify(args[{index}])\x7d"

/-- The text of an argument's hole is its code between the marks of a hole. -/
theorem toList_holeText (index : Nat) :
    (holeText index).toList = '$' :: '{' :: stringifyCode index ++ ['}'] := by
  have htext : holeText index = "$\x7bJSON.stringify(args[" ++ Nat.repr index ++ "])\x7d" := by
    unfold holeText
    simp only [toString]
  have hopen :
      "$\x7bJSON.stringify(args[".toList = '$' :: '{' :: "JSON.stringify(args[".toList := rfl
  have hclose : "])\x7d".toList = "])".toList ++ ['}'] := rfl
  rw [htext, String.toList_append, String.toList_append, Nat.toList_repr, hopen, hclose]
  unfold stringifyCode Decimal.natDigits
  simp only [List.append_assoc, List.cons_append]

/-- The code of an argument may stand in a hole. -/
theorem isHoleChar_stringifyCode (index : Nat) :
    ∀ c ∈ stringifyCode index, isHoleChar c = true := by
  have hopen : ∀ c ∈ "JSON.stringify(args[".toList, isHoleChar c = true :=
    List.all_eq_true.1 (by rfl)
  have hclose : ∀ c ∈ "])".toList, isHoleChar c = true := List.all_eq_true.1 (by rfl)
  intro c hc
  rcases List.mem_append.1 hc with hc | hc
  · exact hopen c hc
  · rcases List.mem_append.1 hc with hc | hc
    · rw [isHoleChar, (isWord_natDigits index).all c hc]
      rfl
    · exact hclose c hc

/-- Holes for arguments with commas between them are read as such. -/
theorem reads_arguments (hne : indices ≠ []) (parts : List Part) (text : List Char) :
    Reads (.template parts text) (Text.joinWith ", " (indices.map holeText)).toList []
      (.template (parts ++ textPart text ++ argumentParts indices) []) := by
  induction indices generalizing parts text with
  | nil => exact absurd rfl hne
  | cons index rest ih =>
    have hhole := Reads.hole (isHoleChar_stringifyCode index) parts text
    rw [← toList_holeText] at hhole
    cases rest with
    | nil => exact hhole
    | cons next rest =>
      have hcomma : ∀ c ∈ ", ".toList, isPlain c = true := List.all_eq_true.1 (by rfl)
      have hall := Reads.append hhole
        (Reads.append (Reads.template_chars hcomma _ []) (ih (List.cons_ne_nil _ _) _ _))
      simpa [Text.joinWith, argumentParts, textPart] using hall

/-- The literal of a script is read as that of a call. -/
theorem reads_call {cs : List Char} {ts : List Token} {mode : Mode} (hname : IsTail name)
    (h : Reads .blank cs ts mode) (indices : List Nat) :
    Reads (.template [] []) ("return ".toList ++ (name.toList ++ ("(".toList ++
      ((Text.joinWith ", " (indices.map holeText)).toList ++ (")".toList ++ '`' :: cs)))))
      (.template (callParts name indices) :: ts) mode := by
  have hreturn : ∀ c ∈ "return ".toList, isPlain c = true :=
    List.all_eq_true.1 (by rfl)
  have hopen : ∀ c ∈ "(".toList, isPlain c = true := List.all_eq_true.1 (by rfl)
  have hclose : ∀ c ∈ ")".toList, isPlain c = true := List.all_eq_true.1 (by rfl)
  have hcall (rest : List Char)
      (hrest : Reads (.template [] ("return " ++ name ++ "(").toList) rest
        (.template (callParts name indices) :: ts) mode) :
      Reads (.template [] []) ("return ".toList ++ (name.toList ++ ("(".toList ++ rest)))
        (.template (callParts name indices) :: ts) mode := by
    refine Reads.append (Reads.template_chars hreturn [] []) ?_
    refine Reads.append (Reads.template_chars hname.isPlain [] _) ?_
    refine Reads.append (Reads.template_chars hopen [] _) ?_
    rwa [String.toList_append, String.toList_append] at hrest
  refine hcall _ ?_
  by_cases hne : indices = []
  · have hend := Reads.append
      (Reads.template_chars hclose [] ("return " ++ name ++ "(").toList) (Reads.end_template h)
    simpa [hne, Text.joinWith, callParts_nil, textPart] using hend
  · have hend := Reads.append (reads_arguments hne [] ("return " ++ name ++ "(").toList)
      (Reads.append (Reads.template_chars hclose _ []) (Reads.end_template h))
    simpa [callParts_of_ne_nil hne, textPart] using hend

/-- A numeral is a word. -/
theorem isWord_numeral (n : Nat) : IsWord (numeral n).toList := by
  rw [numeral, String.toList_ofList]
  exact isWord_natDigits n

/-- The literal of the message is read as such. -/
theorem reads_message {cs : List Char} {ts : List Token} {mode : Mode}
    (h : Reads .blank cs ts mode) (arity : Nat) :
    Reads (.template [] "Expected ".toList) ((numeral arity).toList ++
      (" arguments, but got ".toList ++ ('$' :: '{' :: "args.length".toList ++ ['}'] ++ '`' :: cs)))
      (.template (messageParts arity) :: ts) mode := by
  have hnumeral : ∀ c ∈ (numeral arity).toList, isPlain c = true := by
    rw [numeral, String.toList_ofList]
    exact isPlain_natDigits arity
  have hbut : ∀ c ∈ " arguments, but got ".toList, isPlain c = true :=
    List.all_eq_true.1 (by rfl)
  have hcode : ∀ c ∈ "args.length".toList, isHoleChar c = true :=
    List.all_eq_true.1 (by rfl)
  have hall := Reads.append (Reads.template_chars hnumeral [] "Expected ".toList)
    (Reads.append (Reads.template_chars hbut [] _)
      (Reads.append (Reads.hole hcode [] _) (Reads.end_template h)))
  simpa [messageParts, textPart] using hall

/-- A wrapper reads as it should, if its names are made of characters of identifiers. -/
theorem reads_wrapperText (hbinding : IsTail w.binding) (hname : IsTail w.signature.name) :
    ∃ text, wrapperText w = .ok text ∧
      Reads .blank text.toList (wrapperBlock w).tokens .blank := by
  refine ⟨_, wrapperText_eq w, ?_⟩
  have hconst : Reads .blank "  const ".toList [.word "const"] .blank := .of_chars rfl
  have hopen : Reads .blank " = (...args) => \x7b\n    if (args.length !== ".toList
      (lex "= (...args) => \x7b" ++ .word "if" :: lex "(args.length !==") .blank :=
    .of_chars rfl
  have hthrow : Reads .blank ") \x7b\n      throw new Error(`Expected ".toList
      (lex ") \x7b throw new Error(") (.template [] "Expected ".toList) :=
    .of_chars rfl
  have hscript : Reads .blank ");\n    \x7d\n\n    const script = `".toList
      (lex "); \x7d" ++ .word "const" :: lex "script =") (.template [] []) :=
    .of_chars rfl
  have hend : Reads .blank ";\n\n    return client.executeScript(script);\n  \x7d;\n".toList
      (lex ";" ++ (.word "return" :: lex "client.executeScript(script);" ++ lex "\x7d;")) .blank :=
    .of_chars rfl
  have hall := hconst.append ((Reads.word hbinding.isWord (by rfl) hopen).append
    ((Reads.word (isWord_numeral w.signature.arity) (by rfl) hthrow).append
      (reads_message (hscript.append (reads_call hname hend (List.range w.signature.arity)))
        w.signature.arity)))
  -- the pieces of the template are cut where a literal begins or ends
  have hgot :
      " arguments, but got $\x7bargs.length\x7d`);\n    \x7d\n\n    const script = `return " =
        " arguments, but got " ++ ("$\x7b" ++ ("args.length" ++ ("\x7d" ++ ("`" ++
          (");\n    \x7d\n\n    const script = `" ++ "return "))))) := rfl
  have hclose : ")`;\n\n    return client.executeScript(script);\n  \x7d;\n" =
      ")" ++ ("`" ++ ";\n\n    return client.executeScript(script);\n  \x7d;\n") := rfl
  have hhole : "$\x7b".toList = ['$', '{'] ∧ "\x7d".toList = ['}'] ∧ "`".toList = ['`'] :=
    ⟨String.toList_ofList, String.toList_ofList, String.toList_ofList⟩
  have harguments : stringifiedArguments w.signature.arity =
      Text.joinWith ", " ((List.range w.signature.arity).map holeText) := rfl
  simp only [hgot, hclose, harguments, String.toList_append, hhole, -String.reduceToList]
  simpa [wrapperBlock, Block.tokens, Statement.tokens, -String.reduceToList] using hall

end

/-! ## Running a wrapper -/

section
variable {α : Type} {w : Wrapper} {name : String} {shown : α → String} {args : List α}
  {values : List Json}

/-- The script that calls a function on arguments that are shown in some way. -/
def scriptOf (function : String) (shown : α → String) (args : List α) : String :=
  "return " ++ function ++ "(" ++ Text.joinWith ", " (args.map shown) ++ ")"

/-- As many values as parameters make a script. -/
theorem callScript_eq_ok {parameters : List String} (h : values.length = parameters.length) :
    Session.callScript name parameters values = .ok (scriptOf name Json.compact values) := by
  rw [Session.callScript, if_neg fun hne => hne h]
  simp only [scriptOf, toString]

/-- Any other number of values is refused, with both counts. -/
theorem callScript_eq_error {parameters : List String} (h : values.length ≠ parameters.length) :
    Session.callScript name parameters values =
      .error (.arityMismatch name parameters.length values.length) := by
  rw [Session.callScript, if_pos h]

end

/-! ## The script in the text -/

section
variable {w : Wrapper} {indices : List Nat}

end

/-! ## Wrappers and the client -/

end ModuleBridge.Generation
