import ModuleBridge.Proofs.Json.Denotation
import ModuleBridge.Proofs.Session.Script

/-!
# What the arguments of a script denote

Between the parentheses of a script stand the texts of the arguments, with a comma and a blank
between them (`valuesText_eq`). Each is an expression made of literals, so they are read as the
values that the arguments denote, in their order and no others (`callScript_denotes`).
-/

namespace ModuleBridge.Session

open Json (renderIn separated)
open Source (Takes Value readArguments readLiteral takeValue)

section
variable {function : String} {parameters : List String} {arguments : List Json}
  {values : List Value} {text : String}

/-- Texts are joined by their separator. -/
theorem toList_joinWith (separator : String) (texts : List String) :
    (Text.joinWith separator texts).toList =
      separated separator.toList (texts.map String.toList) := by
  induction texts with
  | nil => rfl
  | cons text texts ih =>
    cases texts with
    | nil => rfl
    | cons text' texts =>
      rw [Text.joinWith, List.map_cons, List.map_cons, Json.separated_cons_cons, ← List.map_cons,
        ← ih, String.toList_append, String.toList_append, List.append_assoc]
      rintro ⟨⟩

/-- Between the parentheses of a script stand the texts of the arguments. -/
theorem valuesText_eq (arguments : List Json) :
    valuesText arguments =
      separated [',', ' '] (arguments.map (renderIn .compact 0)) ++ [')'] := by
  rw [valuesText, toList_joinWith, List.map_map]
  simp [Function.comp_def, Json.compact]

/-- A script has no controls. -/
theorem le_of_mem_valuesText (h : ∀ v ∈ arguments, v.IsArgument) :
    ∀ c ∈ valuesText arguments, 0x20 ≤ c.toNat := by
  induction arguments with
  | nil =>
    have hclose : 0x20 ≤ ')'.toNat := by decide
    exact List.forall_mem_singleton.2 hclose
  | cons v arguments ih =>
    obtain ⟨hv, h⟩ := List.forall_mem_cons.1 h
    intro c hc
    rw [valuesText_cons, List.mem_append] at hc
    rcases hc with hc | hc
    · exact Nat.le_of_not_lt fun hlow => Json.notMem_compact hv hlow 0 hc
    · split at hc
      · rw [List.mem_singleton.1 hc]
        decide
      · rw [List.mem_cons, List.mem_cons] at hc
        rcases hc with rfl | rfl | hc
        · decide
        · decide
        · exact ih h c hc

/-- What stands between the parentheses of a script is read as what the arguments denote. -/
theorem readArguments_valuesText (h : ∀ v ∈ arguments, v.IsArgument)
    (hvalues : List.Forall₂ (fun v w => v.value? = some w) arguments values)
    (htext : text.toList = valuesText arguments) : readArguments text = some values := by
  have hdeep : ∀ v ∈ arguments, v.nesting ≤ text.length := by
    intro v hv
    rw [← String.length_toList, htext]
    exact Nat.le_trans (Json.nesting_le_chars (h v hv) 0) (infix_valuesText hv).length_le
  have htakes : List.Forall₂ (Takes (takeValue text.length))
      (arguments.map (renderIn .compact 0)) values :=
    List.forall₂_map_left_iff.2 (((List.forall₂_and_left ..).2 ⟨fun _ hv => hv, hvalues⟩).imp
      fun v _ hw => (h v hw.1).takes hw.2 (hdeep v hw.1) 0)
  have hcount : values.length < text.length + 1 := by
    have hle := Json.count_le_separated [' '] (arguments.map (renderIn .compact 0))
    rw [← String.length_toList, htext, valuesText_eq, List.length_append, ← htakes.length_eq]
    exact Nat.lt_succ_of_le hle
  have hgap : ∀ c ∈ [' '], Source.isTokenBlank c = true := List.forall_mem_singleton.2 rfl
  have hlead : ∀ c ∈ [], Source.isTokenBlank c = true := nofun
  refine Source.readLine_eq ?_ ?_ ?_
  · rw [htext]
    exact le_of_mem_valuesText h
  · rw [htext, valuesText]
    exact List.append_ne_nil_of_right_ne_nil _ (List.cons_ne_nil _ _)
  · rw [htext, valuesText_eq, List.append_assoc]
    exact Source.takeMany_separated htakes hgap hlead rfl (by decide) hcount ['\n']

/-- **Arguments are sound as literals.** If there are as many arguments as parameters, a call has a
script, and what that has between its parentheses is read up to the closing one as the values that
the arguments denote, in their order. The text of each argument alone denotes its value too.
Reference: `call_script`. -/
theorem callScript_denotes (h : ∀ v ∈ arguments, v.IsArgument)
    (hlength : arguments.length = parameters.length) :
    ∃ text values,
      callScript function parameters arguments =
        .ok ("return " ++ function ++ "(" ++ text ++ ")") ∧
      readArguments (text ++ ")") = some values ∧
      List.Forall₂ (fun v w => v.value? = some w ∧ readLiteral v.compact = some w) arguments
        values := by
  obtain ⟨values, hvalues⟩ : ∃ values,
      List.Forall₂ (fun v w => v ∈ arguments ∧ v.value? = some w) arguments values :=
    Json.exists_forall₂ fun v hv =>
      (Json.exists_takes (h v hv)).imp fun _ hw => ⟨hv, hw.1⟩
  refine ⟨Text.joinWith ", " (arguments.map Json.compact), values,
    Generation.callScript_eq_ok hlength, ?_, hvalues.imp fun v w hw => ?_⟩
  · exact readArguments_valuesText h (hvalues.imp fun _ _ hw => hw.2) String.toList_append
  · exact ⟨hw.2, Json.readLiteral_compact (h v hw.1) hw.2⟩

/-- A call with quotes, backslashes, line ends and other control characters in its strings, and with
the least and the greatest integer of 64 bits. -/
theorem callScript_denotes_escapes :
    ∃ text,
      callScript "f" ["a", "b"] [.string "\"\\\n\x01é😀",
          .object [("k\r", .array [.number (.integer (-9223372036854775808)),
            .number (.integer 18446744073709551615)]), ("", .string "")]] =
        .ok ("return " ++ "f" ++ "(" ++ text ++ ")") ∧
      readArguments (text ++ ")") = some [.text "\"\\\n\x01é😀",
        .dict [("k\r", .list [.integer (-9223372036854775808), .integer 18446744073709551615]),
          ("", .text "")]] := by
  have hintegers : (Json.array [.number (.integer (-9223372036854775808)),
      .number (.integer 18446744073709551615)]).IsArgument :=
    .array (List.forall_mem_cons.2 ⟨.integer ⟨by decide, by decide⟩,
      List.forall_mem_singleton.2 (.integer ⟨by decide, by decide⟩)⟩)
  have harguments : ∀ v ∈ [Json.string "\"\\\n\x01é😀",
      .object [("k\r", .array [.number (.integer (-9223372036854775808)),
        .number (.integer 18446744073709551615)]), ("", .string "")]], v.IsArgument :=
    List.forall_mem_cons.2 ⟨.string _, List.forall_mem_singleton.2 (.object (by decide)
      (List.forall_mem_cons.2 ⟨hintegers, List.forall_mem_singleton.2 (.string "")⟩))⟩
  have hlength : 2 = ["a", "b"].length := rfl
  obtain ⟨text, values, hscript, hread, hvalues⟩ := callScript_denotes harguments hlength
  refine ⟨text, hscript, hread.trans ?_⟩
  obtain _ | ⟨⟨hfirst, -⟩, _ | ⟨⟨hsecond, -⟩, _ | _⟩⟩ := hvalues
  rw [← Option.some.inj hfirst, ← Option.some.inj hsecond]

end

end ModuleBridge.Session
