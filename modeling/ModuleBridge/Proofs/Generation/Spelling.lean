import ModuleBridge.Proofs.Generation.Exported
import ModuleBridge.Proofs.JavaScript.Letters

/-!
# Names that keep their spelling

An identifier begins with a letter, and a numeral in front gets an underscore before it. The
characters that are both are the letter numbers (`isLetterNumber_iff`), and they are all that the
two rules disagree about: a name that is accepted and not reserved is its own identifier unless it
begins with a letter number (`sanitised_iff`). Such a name is exported as it is spelled, unless
generated code imports that name (`exportName_eq_text_iff`).
-/

namespace ModuleBridge.Generation

open Text (inRanges_eq_true_iff_within within_difference)

/-- Ranges of code points of the letter numbers (Nl): Roman numerals, for instance. -/
def letterNumbers : List (Nat × Nat) := [
  (0x16EE, 0x16F0), (0x2160, 0x2182), (0x2185, 0x2188), (0x3007, 0x3007), (0x3021, 0x3029),
  (0x3038, 0x303A), (0xA6E6, 0xA6EF), (0x10140, 0x10174), (0x10341, 0x10341), (0x1034A, 0x1034A),
  (0x103D1, 0x103D5), (0x12400, 0x1246E), (0x16FF4, 0x16FF6)]

/-- Is the character a letter number? -/
def isLetterNumber (c : Char) : Bool :=
  Text.inRanges letterNumbers c

/-- The numerals that are letters are what is left of the numerals without those that are not. -/
theorem difference_letterNumbers :
    Text.difference Text.numericRanges (Text.difference Text.numericRanges Text.alphabeticRanges) =
        letterNumbers ∧
      Text.Ascending (Text.difference Text.numericRanges Text.alphabeticRanges) := by
  decide +kernel

section
variable {c : Char} {name : String}

/-- The letter numbers are exactly the characters that are letters and numerals. -/
theorem isLetterNumber_iff :
    isLetterNumber c = true ↔ Text.isAlphabetic c = true ∧ Text.isNumeric c = true := by
  obtain ⟨hletters, hnumerals, -⟩ := JavaScript.ascending_ranges
  obtain ⟨hdifference, hothers⟩ := difference_letterNumbers
  rw [isLetterNumber, Text.isAlphabetic, Text.isNumeric, inRanges_eq_true_iff_within,
    inRanges_eq_true_iff_within, inRanges_eq_true_iff_within, ← hdifference,
    within_difference hnumerals hothers, within_difference hnumerals hletters, not_and_not_right,
    and_comm, and_congr_left_iff]
  exact fun hnumeral => forall_prop_of_true hnumeral

/-- What begins an identifier is a numeral only if it is a letter number. -/
theorem isNumeric_of_start (h : isIdentifierStart c = true) :
    Text.isNumeric c = isLetterNumber c := by
  have hunderscore : Text.isNumeric '_' = isLetterNumber '_' :=
    (isNumeric_of_ascii (by decide)).trans rfl
  rw [isIdentifierStart, Bool.or_eq_true, decide_eq_true_eq] at h
  rcases h with rfl | hletter
  · exact hunderscore
  · rw [Bool.eq_iff_iff, isLetterNumber_iff, and_iff_right hletter]

/-- An accepted name needs an underscore in front exactly if it begins with a letter number. -/
theorem needsUnderscore_of_isIdentifier (h : isIdentifier name = true) :
    needsUnderscore name.toList = true ↔ ∃ c ∈ name.toList.head?, isLetterNumber c = true := by
  obtain ⟨c, cs, hname, hstart⟩ := exists_start_of_isIdentifier h
  rw [hname, needsUnderscore, isNumeric_of_start hstart]
  simp

/-- A name needs no repair exactly if it is accepted, not reserved and does not begin with a letter
number. -/
theorem sanitised_iff : Sanitised name ↔
    isIdentifier name = true ∧ isReservedWord name = false ∧
      ∀ c ∈ name.toList.head?, isLetterNumber c = false := by
  have hhead (h : isIdentifier name = true) : needsUnderscore name.toList = false ↔
      ∀ c ∈ name.toList.head?, isLetterNumber c = false := by
    rw [← Bool.not_eq_true, needsUnderscore_of_isIdentifier h]
    simp
  constructor
  · exact fun h => ⟨h.isIdentifier, h.free, (hhead h.isIdentifier).1 h.begins⟩
  · rintro ⟨haccepted, hfree, hletter⟩
    exact ⟨(hhead haccepted).2 hletter, (IsTail.of_isIdentifier haccepted).all, hfree⟩

/-- An accepted name that begins with a letter number gets an underscore in front. -/
theorem toIdentifier_of_letterNumber (h : isIdentifier name = true)
    (hletter : ∃ c ∈ name.toList.head?, isLetterNumber c = true) :
    toIdentifier name = "_" ++ name := by
  have hreplaced : replaced name = name.toList :=
    (List.map_congr_left fun c hc => if_pos ((IsTail.of_isIdentifier h).all c hc)).trans
      (List.map_id' _)
  have hkept : String.ofList (kept name) = "_" ++ name := by
    rw [← String.toList_inj, String.toList_ofList, kept, hreplaced,
      if_pos ((needsUnderscore_of_isIdentifier h).2 hletter), String.toList_append]
    rfl
  have hfree : isReservedWord ("_" ++ name) = false :=
    isReservedWord_of_underscore (by simp)
  rw [toIdentifier_eq, hkept, hfree, if_neg Bool.false_ne_true]

/-- A letter number alone is accepted. -/
theorem isIdentifier_of_isLetterNumber (h : isLetterNumber c = true) :
    isIdentifier (String.ofList [c]) = true := by
  have hstart : isIdentifierStart c = true := by
    rw [isIdentifierStart, (isLetterNumber_iff.1 h).1, Bool.or_true]
  rw [isIdentifier, String.toList_ofList]
  simp [hstart]

/-- A module is exported under its own name exactly if that is its own identifier and no import's
name. -/
theorem exportName_eq_text_iff {moduleName : ModuleName} :
    exportName moduleName = moduleName.text ↔
      toIdentifier moduleName.text = moduleName.text ∧ moduleName.text ∉ importedBindings := by
  obtain ⟨rounds, hrounds, hexport, hused⟩ := exists_exportName moduleName
  constructor
  · intro h
    have hsanitised : Sanitised moduleName.text := by
      have hidentifier := sanitised_toIdentifier moduleName.text
      rw [← h, hexport]
      refine ⟨?_, ?_, isReservedWord_append_underscores hidentifier.free rounds⟩
      · rw [toList_append_underscores]
        exact needsUnderscore_append hidentifier.begins _
      · exact ((isTail_toIdentifier _).append_underscores rounds).all
    exact ⟨toIdentifier_eq_self_iff.2 hsanitised, h ▸ extend_not_mem importedBindings _⟩
  · rintro ⟨hown, hfree⟩
    rw [hown] at hexport hused
    cases rounds with
    | zero => rw [hexport, append_underscores_zero]
    | succ rounds =>
      have himported := hused 0 rounds.succ_pos
      rw [append_underscores_zero] at himported
      exact absurd himported hfree

/-- **Which names keep their spelling.** A name is its own identifier exactly if it is accepted as
one, is no reserved word and does not begin with a letter number. What begins with a letter number
and is accepted gets an underscore in front, though a letter number may begin an identifier. A
module is exported under its own name exactly if that is its own identifier and nothing that
generated code imports. Reference: `to_identifier`. -/
theorem keepsSpelling_iff (name : String) :
    (toIdentifier name = name ↔
      isIdentifier name = true ∧ isReservedWord name = false ∧
        ∀ c ∈ name.toList.head?, isLetterNumber c = false) ∧
    (isIdentifier name = true → (∃ c ∈ name.toList.head?, isLetterNumber c = true) →
      toIdentifier name = "_" ++ name) ∧
    ∀ functions p, plan ⟨name⟩ functions = .ok p →
      (p.exportName = name ↔ toIdentifier name = name ∧ name ∉ importedBindings) := by
  refine ⟨toIdentifier_eq_self_iff.trans sanitised_iff, toIdentifier_of_letterNumber,
    fun functions p hp => ?_⟩
  rw [(plan_eq_ok hp).1]
  exact exportName_eq_text_iff

/-- A Roman numeral is accepted as an identifier, and an underscore is put in front of it, also
where a module of that name is exported. -/
theorem keepsSpelling_romanNumeral :
    isIdentifier "Ⅷ" = true ∧ toIdentifier "Ⅷ" = "_" ++ "Ⅷ" ∧
      ∃ p, plan ⟨"Ⅷ"⟩ [⟨"add", ["a"]⟩] = .ok p ∧ p.exportName ≠ "Ⅷ" := by
  have haccepted : isIdentifier "Ⅷ" = true :=
    isIdentifier_of_isLetterNumber (c := 'Ⅷ') (by decide)
  have hletter : ∃ c ∈ "Ⅷ".toList.head?, isLetterNumber c = true := ⟨'Ⅷ', rfl, by decide⟩
  have hplan : plan ⟨"Ⅷ"⟩ [⟨"add", ["a"]⟩] =
      .ok ⟨exportName ⟨"Ⅷ"⟩, [⟨⟨"add", ["a"]⟩, "add"⟩]⟩ := rfl
  obtain ⟨-, hchanged, hexported⟩ := keepsSpelling_iff "Ⅷ"
  have hidentifier := hchanged haccepted hletter
  refine ⟨haccepted, hidentifier, _, hplan, fun h => ?_⟩
  have hown := ((hexported _ _ hplan).1 h).1
  rw [hidentifier] at hown
  exact absurd hown (by decide)

/-- A name that is accepted and not reserved, and is not its own identifier. -/
theorem romanNumeral_changed : isIdentifier "Ⅷ" = true ∧ isReservedWord "Ⅷ" = false ∧
    toIdentifier "Ⅷ" ≠ "Ⅷ" := by
  have haccepted : isIdentifier "Ⅷ" = true :=
    isIdentifier_of_isLetterNumber (c := 'Ⅷ') (by decide)
  have hchanged := toIdentifier_of_letterNumber haccepted ⟨'Ⅷ', rfl, by decide⟩
  refine ⟨haccepted, by decide, ?_⟩
  rw [hchanged]
  decide

end

end ModuleBridge.Generation
