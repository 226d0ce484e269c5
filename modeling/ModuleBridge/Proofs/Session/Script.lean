import ModuleBridge.Proofs.Generation.Wrappers
import ModuleBridge.Proofs.Json.Characters

/-!
# Call scripts read back

A script is the name of a function and the compact texts of the arguments. A name has no
parenthesis in it, and the text of a value is taken whole, whatever comes after it, so a script is
read back as the function and the arguments (`readCall_scriptOf`): nothing that a string holds ends
the list of arguments early or adds one to it, and different calls have different scripts
(`callScript_readCall`). A script is one line of Python, but a string that holds one of the
characters that control or end a line beyond ASCII brings it there as it is (`mem_scriptOf_iff`).
-/

namespace ModuleBridge.Session

open Json (Reader isPrintable renderIn)
open Text.Utf8 (encode)
open Generation (isIdentifier isIdentifierTail IsTail scriptOf)

/-! ## The reader -/

/-- The values up to a closing parenthesis that ends the text, with a comma and a blank between two
of them. There are at most `count`, in which at most `nesting` brackets are open at once. -/
def valuesWithin (nesting : Nat) : Nat → List UInt8 → Option (List Json)
  | 0, _ => none
  | count + 1, bytes =>
    match Reader.value nesting bytes with
    | .ok (v, [0x29]) => some [v]
    | .ok (v, 0x2C :: 0x20 :: rest) => (valuesWithin nesting count rest).map (v :: ·)
    | _ => none

/-- The values up to a closing parenthesis that ends the text. No more follow each other, and no
more brackets are open at once, than there are bytes. -/
def readValues (bytes : List UInt8) : Option (List Json) :=
  if bytes = [0x29] then some [] else valuesWithin bytes.length bytes.length bytes

/-- What a script has in front of the name of the function. -/
def keyword : String := "return "

/-- The function that a script calls, whose name goes up to the first opening parenthesis, and the
arguments. -/
def readCall (script : String) : Option (String × List Json) := do
  let call ← keyword.toList.isPrefixOf? script.toList
  let name := call.takeWhile (· ≠ '(')
  let values ← readValues (encode (call.drop (name.length + 1)))
  return (String.ofList name, values)

/-- Ranges of the control characters and of the characters that end a line. -/
def breakRanges : List (Nat × Nat) := [(0, 0x1F), (0x7F, 0x9F), (0x2028, 0x2029)]

/-- Is the character a control character, or does it end a line? -/
def isBreak (c : Char) : Bool :=
  Text.inRanges breakRanges c

section
variable {function : String} {parameters : List String} {arguments : List Json} {c : Char}
  {nesting count : Nat} {v : Json} {rest : List UInt8}

/-! ## Values in a row -/

/-- What stands between the parentheses of a script, and the closing one. -/
def valuesText (arguments : List Json) : List Char :=
  (Text.joinWith ", " (arguments.map Json.compact)).toList ++ [')']

/-- Values stand between commas, and a parenthesis closes them. -/
theorem valuesText_cons (v : Json) (arguments : List Json) :
    valuesText (v :: arguments) = renderIn .compact 0 v ++
      if arguments = [] then [')'] else ',' :: ' ' :: valuesText arguments := by
  cases arguments with
  | nil => simp [valuesText, Text.joinWith, Json.compact]
  | cons v' arguments => simp [valuesText, Text.joinWith, Json.compact]

/-- There are no more values than bytes. -/
theorem length_le_valuesText (arguments : List Json) :
    arguments.length ≤ (encode (valuesText arguments)).length := by
  induction arguments with
  | nil => exact Nat.zero_le _
  | cons v arguments ih =>
    rw [valuesText_cons, Text.Utf8.encode_append, List.length_append, List.length_cons]
    split
    · next hnil =>
      rw [hnil, Text.Utf8.encode_ascii (by decide)]
      simp
    · rw [Text.Utf8.encode_ascii (by decide), List.length_cons, Text.Utf8.encode_ascii (by decide),
        List.length_cons]
      omega

/-- The text of each value is in that of all values. -/
theorem infix_valuesText (h : v ∈ arguments) :
    renderIn .compact 0 v <:+: valuesText arguments := by
  induction h with
  | head arguments =>
    rw [valuesText_cons]
    exact (List.prefix_append _ _).isInfix
  | @tail v' arguments h ih =>
    rw [valuesText_cons, if_neg (List.ne_nil_of_mem h)]
    have hsuffix : valuesText arguments <:+
        renderIn .compact 0 v' ++ ',' :: ' ' :: valuesText arguments :=
      ⟨renderIn .compact 0 v' ++ [',', ' '], List.append_assoc ..⟩
    exact ih.trans hsuffix.isInfix

/-- Values that do not nest too deep are read back. -/
theorem valuesWithin_valuesText (hplain : ∀ v ∈ arguments, v.IsPlain)
    (hnesting : ∀ v ∈ arguments, v.nesting ≤ nesting) (hne : arguments ≠ [])
    (hcount : arguments.length ≤ count) :
    valuesWithin nesting count (encode (valuesText arguments)) = some arguments := by
  induction arguments generalizing count with
  | nil => exact absurd rfl hne
  | cons v arguments ih =>
    obtain ⟨count, rfl⟩ : ∃ n, count = n + 1 := ⟨count - 1, by simp at hcount; omega⟩
    obtain ⟨hv, hplain⟩ := List.forall_mem_cons.1 hplain
    obtain ⟨hdeep, hnesting⟩ := List.forall_mem_cons.1 hnesting
    have htakes : ∀ rest, Json.Ends rest →
        Reader.value nesting (encode (renderIn .compact 0 v) ++ rest) = .ok (v, rest) :=
      fun rest => (Json.takes_value Json.Layout.isBlank_compact hv hdeep 0).reads [] rest .nil
    rw [valuesWithin, valuesText_cons, Text.Utf8.encode_append]
    by_cases hrest : arguments = []
    · have hclose : encode [')'] = [0x29] := rfl
      rw [if_pos hrest, hclose, htakes _ (.cons rfl), hrest]
      rfl
    · rw [if_neg hrest, Text.Utf8.encode_ascii (by decide), Text.Utf8.encode_ascii (by decide),
        htakes _ (.cons rfl)]
      show (valuesWithin nesting count (encode (valuesText arguments))).map (v :: ·) = _
      rw [ih hplain hnesting hrest (by simpa using hcount)]
      rfl

/-- Plain values are read back, however deep they nest. -/
theorem readValues_valuesText (h : ∀ v ∈ arguments, v.IsPlain) :
    readValues (encode (valuesText arguments)) = some arguments := by
  rw [readValues]
  by_cases hnil : arguments = []
  · rw [hnil]
    rfl
  · have hdeep : ∀ v ∈ arguments, v.nesting ≤ (encode (valuesText arguments)).length := by
      intro v hv
      obtain ⟨front, back, htext⟩ := infix_valuesText hv
      have hle := Json.nesting_le_length (h v hv) .compact 0
      simp only [← htext, Text.Utf8.encode_append, List.length_append]
      omega
    have hread := valuesWithin_valuesText h hdeep hnil (length_le_valuesText arguments)
    have hclose : encode (valuesText arguments) ≠ [0x29] := by
      intro hclose
      have hnone : valuesWithin 1 1 [0x29] = none := rfl
      rw [hclose] at hread
      cases hread.symm.trans hnone
    rw [if_neg hclose, hread]

/-! ## Scripts -/

/-- A script is its keyword, the function and the values between parentheses. -/
theorem toList_scriptOf (function : String) (arguments : List Json) :
    (scriptOf function Json.compact arguments).toList =
      keyword.toList ++ (function.toList ++ '(' :: valuesText arguments) := by
  simp [scriptOf, keyword, valuesText]

/-- The name of a function and plain values are read back from their script. -/
theorem readCall_scriptOf (hname : IsTail function) (h : ∀ v ∈ arguments, v.IsPlain) :
    readCall (scriptOf function Json.compact arguments) = some (function, arguments) := by
  have hparen : ∀ c ∈ function.toList, decide (c ≠ '(') = true := by
    intro c hc
    refine decide_eq_true fun hparen => ?_
    have hword := Generation.isWordChar_of_isIdentifierTail (hname.all c hc)
    rw [hparen] at hword
    cases hword
  have hprefix (cs : List Char) : keyword.toList.isPrefixOf? (keyword.toList ++ cs) = some cs := rfl
  have hfront : (function.toList ++ '(' :: valuesText arguments).takeWhile (· ≠ '(') =
      function.toList := by
    rw [List.takeWhile_append_of_pos hparen, List.takeWhile_cons_of_neg (by simp), List.append_nil]
  have hback : (function.toList ++ '(' :: valuesText arguments).drop (function.toList.length + 1) =
      valuesText arguments := by
    rw [List.drop_append, List.drop_of_length_le (Nat.le_succ _), Nat.add_sub_cancel_left]
    rfl
  rw [readCall, toList_scriptOf, hprefix]
  simp only [Option.bind_eq_bind, Option.bind_some, hfront, hback, readValues_valuesText h,
    String.ofList_toList]
  rfl

/-! ## Characters of a script -/

/-- No control character and no character that ends a line is a printable one of ASCII. -/
theorem isPrintable_of_isBreak (h : isBreak c = true) : isPrintable c = false := by
  rw [← Bool.not_eq_true]
  intro hp
  simp [isBreak, breakRanges, Text.inRanges, isPrintable] at h hp
  omega

/-- No range of letters or digits has such a character in it. -/
theorem isIdentifierTail_of_isBreak (h : isBreak c = true) : isIdentifierTail c = false := by
  have hranges : (Text.alphabeticRanges ++ Text.numericRanges).all (fun r =>
      breakRanges.all fun s => s.2.blt r.1 || r.2.blt s.1) = true := by
    decide +kernel
  have hdisjoint {ranges : List (Nat × Nat)}
      (hsub : ranges ⊆ Text.alphabeticRanges ++ Text.numericRanges) :
      Text.inRanges ranges c = false := by
    rw [← Bool.not_eq_true, Text.inRanges_eq_true]
    rintro ⟨r, hr, hc⟩
    obtain ⟨s, hs, hcs⟩ := Text.inRanges_eq_true.1 h
    have hrs := List.all_eq_true.1 (List.all_eq_true.1 hranges r (hsub hr)) s hs
    simp only [Bool.or_eq_true, Nat.blt_eq] at hrs
    omega
  have hunderscore : c ≠ '_' := by
    rintro rfl
    cases h
  simp [isIdentifierTail, Generation.isAlphanumeric, Text.isAlphabetic, Text.isNumeric, hunderscore,
    hdisjoint (List.subset_append_left ..), hdisjoint (List.subset_append_right ..)]

/-- A character that is not printable is in a script exactly if one of the arguments holds it and it
is no control. -/
theorem mem_valuesText_iff (h : ∀ v ∈ arguments, v.IsPlain) (hc : isPrintable c = false) :
    c ∈ valuesText arguments ↔ (∃ v ∈ arguments, v.Holds c) ∧ 0x20 ≤ c.toNat := by
  have hne {d : Char} (hd : isPrintable d = true) : c ≠ d := by
    rintro rfl
    cases hc.symm.trans hd
  induction arguments with
  | nil => simpa [valuesText, Text.joinWith] using hne rfl
  | cons v arguments ih =>
    obtain ⟨hv, h⟩ := List.forall_mem_cons.1 h
    rw [valuesText_cons, List.mem_append, Json.mem_compact_iff hv hc, List.exists_mem_cons_iff,
      or_and_right]
    split
    · next hnil => simpa [hnil] using fun heq => absurd heq (hne rfl)
    · rw [List.mem_cons, List.mem_cons, or_iff_right (hne rfl), or_iff_right (hne rfl)]
      exact or_congr_right (ih h)

/-- A control character or one that ends a line is in a script exactly if an argument holds it and
it is none of those below U+0020, which are escaped. -/
theorem mem_scriptOf_iff (hname : IsTail function) (h : ∀ v ∈ arguments, v.IsPlain)
    (hc : isBreak c = true) :
    c ∈ (scriptOf function Json.compact arguments).toList ↔
      (∃ v ∈ arguments, v.Holds c) ∧ 0x20 ≤ c.toNat := by
  have hprintable := isPrintable_of_isBreak hc
  have hkeyword : c ∉ keyword.toList := by
    intro hmem
    have hall : keyword.toList.all isPrintable = true := rfl
    cases hprintable.symm.trans (List.all_eq_true.1 hall c hmem)
  have hletter : c ∉ function.toList := by
    intro hmem
    cases (isIdentifierTail_of_isBreak hc).symm.trans (hname.all c hmem)
  have hparen : c ≠ '(' := by
    rintro rfl
    cases hprintable
  rw [toList_scriptOf, List.mem_append, List.mem_append, List.mem_cons, or_iff_right hkeyword,
    or_iff_right hletter, or_iff_right hparen, mem_valuesText_iff h hprintable]

/-! ## Calls -/

/-- **A script determines its call.** If there are as many arguments as parameters, a call has a
script, from which the function and the arguments are read back, so no other call of a function with
plain values has it. The script has no character below U+0020. A control character beyond them, or a
character beyond them that ends a line, is in the script exactly if a string or a key in an argument
has it. Reference: `call_script`. -/
theorem callScript_readCall (hname : isIdentifier function = true)
    (hplain : ∀ v ∈ arguments, v.IsPlain) (hlength : arguments.length = parameters.length) :
    ∃ script, callScript function parameters arguments = .ok script ∧
      readCall script = some (function, arguments) ∧
      (∀ c ∈ script.toList, 0x20 ≤ c.toNat) ∧
      (∀ c, isBreak c = true → 0x20 ≤ c.toNat →
        (c ∈ script.toList ↔ ∃ v ∈ arguments, v.Holds c)) ∧
      ∀ other parameters' arguments', isIdentifier other = true → (∀ v ∈ arguments', v.IsPlain) →
        callScript other parameters' arguments' = .ok script →
          other = function ∧ arguments' = arguments := by
  have hread := readCall_scriptOf (.of_isIdentifier hname) hplain
  have hbreak {c : Char} := mem_scriptOf_iff (c := c) (.of_isIdentifier hname) hplain
  refine ⟨_, Generation.callScript_eq_ok hlength, hread, fun c hc => ?_, fun c hc hlow => ?_,
    fun other parameters' arguments' hother hplain' hscript => ?_⟩
  · refine Nat.le_of_not_lt fun hlow => ?_
    have hc' : isBreak c = true := Text.inRanges_eq_true.2
      ⟨_, List.mem_cons_self, Nat.zero_le _, Nat.le_of_lt_succ hlow⟩
    exact absurd ((hbreak hc').1 hc).2 (Nat.not_le.2 hlow)
  · exact (hbreak hc).trans (and_iff_left hlow)
  · have hlength' : arguments'.length = parameters'.length := by
      refine Decidable.not_not.1 fun hne => ?_
      rw [Generation.callScript_eq_error hne] at hscript
      cases hscript
    rw [Generation.callScript_eq_ok hlength'] at hscript
    have hread' := readCall_scriptOf (.of_isIdentifier hother) hplain'
    rw [Except.ok.inj hscript, hread] at hread'
    cases hread'
    exact ⟨rfl, rfl⟩

/-- A call with strings that hold what ends the arguments of other calls. -/
theorem callScript_readCall_quotes :
    ∃ script, callScript "f" ["a", "b"] [.string "\"), f(\n", .object [("k, ", .array [.null])]] =
        .ok script ∧
      readCall script =
        some ("f", [.string "\"), f(\n", .object [("k, ", .array [.null])]]) := by
  have hvalues : ∀ v ∈ [Json.string "\"), f(\n", .object [("k, ", .array [.null])]], v.IsPlain :=
    List.forall_mem_cons.2 ⟨.string _, List.forall_mem_singleton.2 (.object (by decide)
      (List.forall_mem_singleton.2 (.array (List.forall_mem_singleton.2 .null))))⟩
  have hname : isIdentifier "f" = true := by decide +kernel
  have hlength : 2 = ["a", "b"].length := rfl
  obtain ⟨script, hscript, hread, -⟩ := callScript_readCall hname hvalues hlength
  exact ⟨script, hscript, hread⟩

/-- A script is not free of control characters and line ends: U+0085, which is both, stands in the
script of a call with a string that holds it. -/
theorem callScript_nextLine :
    isIdentifier "f" = true ∧ (∀ v ∈ [Json.string "\u0085"], v.IsPlain) ∧
      isBreak '\u0085' = true ∧
      ∃ script, callScript "f" ["a"] [.string "\u0085"] = .ok script ∧
        '\u0085' ∈ script.toList := by
  refine ⟨by decide +kernel, List.forall_mem_singleton.2 (.string _), rfl, _, rfl, ?_⟩
  decide +kernel

end

end ModuleBridge.Session
