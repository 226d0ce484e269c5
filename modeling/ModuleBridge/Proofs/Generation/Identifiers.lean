import Mathlib.Tactic.MkIffOfInductiveProp
import ModuleBridge.Proofs.Generation.Names
import ModuleBridge.Proofs.JavaScript.Letters

/-!
# Names that JavaScript accepts

An identifier of generated code is made of letters and numerals, and not every one of these can
stand in an identifier of JavaScript. What is made for a name keeps all its letters and numerals, so
JavaScript accepts it exactly if it knows them and lets the first one begin an identifier (`Native`,
`isIdentifierName_toIdentifier_iff`). Underscores after a name change nothing
(`isIdentifierName_append_underscores_iff`), and every name in generated code is such a name with
underscores after it (`emitted_isIdentifierName_iff`).
-/

namespace ModuleBridge.Generation

open JavaScript

/-- A name whose letters and numerals JavaScript knows, with no letter in front that may only follow
another one. -/
@[mk_iff]
structure Native (name : String) : Prop where
  known : ∀ c ∈ name.toList, isForeign c = false
  begins : ∀ c ∈ name.toList.head?, Text.isAlphabetic c = true → isIdStart c = true

instance (name : String) : Decidable (Native name) :=
  decidable_of_iff ((name.toList.all fun c => !isForeign c) = true ∧
      (name.toList.head?.all fun c => !Text.isAlphabetic c || isIdStart c) = true) <| by
    rw [native_iff, List.all_eq_true, Option.all_eq_true]
    simp [imp_iff_not_or]

section
variable {c : Char} {name : String}

/-! ## One character -/

/-- The underscore and the dollar sign are neither letters nor foreign. -/
theorem isForeign_marks : isForeign '_' = false ∧ isForeign '$' = false ∧
    Text.isAlphabetic '_' = false ∧ Text.isAlphabetic '$' = false := by
  have hknown {c : Char} (h : isAlphanumeric c = false) : isForeign c = false := by
    rw [← Bool.not_eq_true, isForeign_iff, h]
    simp
  exact ⟨hknown ((isAlphanumeric_of_ascii (by decide)).trans rfl),
    hknown ((isAlphanumeric_of_ascii (by decide)).trans rfl),
    (isAlphabetic_of_ascii (by decide)).trans rfl, (isAlphabetic_of_ascii (by decide)).trans rfl⟩

/-- A foreign character is accepted in identifiers. -/
theorem isIdentifierTail_of_isForeign (h : isForeign c = true) : isIdentifierTail c = true := by
  rw [isIdentifierTail, (isForeign_iff.1 h).1, Bool.or_true]

/-- What is kept of a name can stand in an identifier of JavaScript unless it is foreign. -/
theorem continues_iff (h : isIdentifierTail c = true) :
    (c = '_' ∨ c = '$' ∨ isIdContinue c = true) ↔ isForeign c = false := by
  constructor
  · rintro (rfl | rfl | hcontinue)
    · exact isForeign_marks.1
    · exact isForeign_marks.2.1
    · rw [← Bool.not_eq_true]
      intro hforeign
      rw [(isForeign_iff.1 hforeign).2] at hcontinue
      cases hcontinue
  · intro hforeign
    rw [isIdentifierTail, Bool.or_eq_true, decide_eq_true_eq] at h
    refine h.imp_right fun halphanumeric => .inr ?_
    by_contra hcontinue
    rw [isForeign_iff.2 ⟨halphanumeric, Bool.eq_false_iff.2 hcontinue⟩] at hforeign
    cases hforeign

/-- What begins an identifier here begins one of JavaScript unless it is a letter that may not. -/
theorem begins_iff (h : isIdentifierStart c = true) :
    (c = '_' ∨ c = '$' ∨ isIdStart c = true) ↔
      (Text.isAlphabetic c = true → isIdStart c = true) := by
  obtain ⟨-, -, hunderscore, hdollar⟩ := isForeign_marks
  constructor
  · rintro (rfl | rfl | hstart) hletter
    · cases hunderscore.symm.trans hletter
    · cases hdollar.symm.trans hletter
    · exact hstart
  · intro hletter
    rw [isIdentifierStart, Bool.or_eq_true, decide_eq_true_eq] at h
    exact h.imp_right fun halphabetic => .inr (hletter halphabetic)

/-! ## Accepted names -/

/-- JavaScript accepts an accepted name exactly if it knows its characters. -/
theorem isIdentifierName_iff (h : isIdentifier name = true) :
    IsIdentifierName name ↔ Native name := by
  have htail := (IsTail.of_isIdentifier h).all
  obtain ⟨c, cs, hname, hstart⟩ := exists_start_of_isIdentifier h
  have hall : (∀ d ∈ name.toList, d = '_' ∨ d = '$' ∨ isIdContinue d = true) ↔
      ∀ d ∈ name.toList, isForeign d = false :=
    forall₂_congr fun d hd => continues_iff (htail d hd)
  constructor
  · rintro ⟨⟨d, hd, hbegins⟩, hcontinue⟩
    rw [hname, List.head?_cons, Option.mem_some_iff] at hd
    subst hd
    refine ⟨hall.1 hcontinue, fun d hd => ?_⟩
    rw [hname, List.head?_cons, Option.mem_some_iff] at hd
    subst hd
    exact (begins_iff hstart).1 hbegins
  · rintro ⟨hknown, hbegins⟩
    have hc : c ∈ name.toList.head? := by rw [hname]; rfl
    exact ⟨⟨c, hc, (begins_iff hstart).2 (hbegins c hc)⟩, hall.2 hknown⟩

/-- Underscores after a name do not matter to JavaScript. -/
theorem isIdentifierName_append_underscores_iff (h : name.toList ≠ []) (count : Nat) :
    IsIdentifierName (name ++ underscores count) ↔ IsIdentifierName name := by
  have hlist := toList_append_underscores name count
  have hhead : (name ++ underscores count).toList.head? = name.toList.head? := by
    rw [hlist, List.head?_append_of_ne_nil _ h]
  constructor
  · rintro ⟨hstart, hall⟩
    rw [hhead] at hstart
    rw [hlist] at hall
    exact ⟨hstart, fun c hc => hall c (List.mem_append_left _ hc)⟩
  · rintro ⟨hstart, hall⟩
    refine ⟨by rwa [hhead], fun c hc => ?_⟩
    rw [hlist, List.mem_append] at hc
    rcases hc with hc | hc
    · exact hall c hc
    · exact .inl (List.mem_replicate.1 hc).2

/-! ## Identifiers for names -/

/-- The underscore put for a character is not foreign, and neither is the character. -/
theorem isForeign_replace (c : Char) :
    isForeign (if isIdentifierTail c then c else '_') = isForeign c := by
  split
  · rfl
  · next htail =>
    rw [isForeign_marks.1, eq_comm, Bool.eq_false_iff]
    exact fun hforeign => htail (isIdentifierTail_of_isForeign hforeign)

/-- The underscore put for a character is no letter, and neither is the character. -/
theorem letter_replace_iff (c : Char) :
    (Text.isAlphabetic (if isIdentifierTail c then c else '_') = true →
        isIdStart (if isIdentifierTail c then c else '_') = true) ↔
      (Text.isAlphabetic c = true → isIdStart c = true) := by
  split
  · rfl
  · next htail =>
    obtain ⟨-, -, hunderscore, -⟩ := isForeign_marks
    refine iff_of_true (fun hletter => by cases hunderscore.symm.trans hletter) fun hletter => ?_
    refine absurd ?_ htail
    rw [isIdentifierTail, isAlphanumeric, hletter, Bool.true_or, Bool.or_true]

/-- What is kept of a name has the letters and numerals of the name. A numeral in front that is a
letter as well may begin an identifier, so the underscore before it hides nothing. -/
theorem native_kept_iff (name : String) : Native (String.ofList (kept name)) ↔ Native name := by
  have hknown : (∀ c ∈ replaced name, isForeign c = false) ↔
      ∀ c ∈ name.toList, isForeign c = false := by
    rw [replaced, List.forall_mem_map]
    exact forall₂_congr fun c _ => by rw [isForeign_replace]
  have hbegins : (∀ c ∈ (replaced name).head?, Text.isAlphabetic c = true → isIdStart c = true) ↔
      ∀ c ∈ name.toList.head?, Text.isAlphabetic c = true → isIdStart c = true := by
    rw [replaced, List.head?_map]
    cases name.toList.head? with
    | none => rfl
    | some c => simpa using letter_replace_iff c
  rw [native_iff, native_iff, ← hknown, ← hbegins, String.toList_ofList]
  by_cases hneeds : needsUnderscore (replaced name) = true
  · obtain ⟨hforeign, -, hunderscore, -⟩ := isForeign_marks
    rw [kept, if_pos hneeds, List.forall_mem_cons, List.head?_cons]
    constructor
    · rintro ⟨⟨-, h⟩, -⟩
      refine ⟨h, fun c hc hletter => ?_⟩
      obtain ⟨cs, hcs⟩ := List.head?_eq_some_iff.1 hc
      rw [hcs] at hneeds
      exact isIdStart_of_isNumeric hletter hneeds
    · rintro ⟨h, -⟩
      refine ⟨⟨hforeign, h⟩, fun c hc hletter => ?_⟩
      rw [← Option.some.inj hc, hunderscore] at hletter
      cases hletter
  · rw [kept, if_neg hneeds]

/-- A name made an identifier is one of JavaScript exactly if the name is native. -/
theorem isIdentifierName_toIdentifier_iff (name : String) :
    IsIdentifierName (toIdentifier name) ↔ Native name := by
  have hkept := isIdentifier_kept name
  obtain ⟨count, hcount⟩ := exists_toIdentifier name
  rw [hcount, isIdentifierName_append_underscores_iff (IsTail.of_isIdentifier hkept).ne_nil,
    isIdentifierName_iff hkept, native_kept_iff]

end

/-! ## Names in generated code -/

section
variable {moduleName : ModuleName} {functions : List FunctionSignature} {p : Plan} {w : Wrapper}
  {name : String} {parameters remaining : List String}

/-- A name made free is an identifier of JavaScript exactly if the name is native. -/
theorem isIdentifierName_freeName_iff (h : isIdentifier name = true) (used : List String) :
    IsIdentifierName (freeName name used) ↔ Native name := by
  obtain ⟨⟨count, hcount⟩, -, -⟩ := freeName_spec name used
  rw [hcount, isIdentifierName_append_underscores_iff (IsTail.of_isIdentifier h).ne_nil,
    isIdentifierName_iff h]

/-- The export name is an identifier of JavaScript exactly if the module's name is native. -/
theorem isIdentifierName_exportName_iff (moduleName : ModuleName) :
    IsIdentifierName (exportName moduleName) ↔ Native moduleName.text := by
  obtain ⟨count, hcount, -⟩ := exists_extend importedBindings (toIdentifier moduleName.text)
  rw [exportName, hcount,
    isIdentifierName_append_underscores_iff (isTail_toIdentifier _).ne_nil,
    isIdentifierName_toIdentifier_iff]

/-- A binding is an identifier of JavaScript exactly if the function's name is native. -/
theorem isIdentifierName_binding_iff (h : plan moduleName functions = .ok p)
    (hw : w ∈ p.wrappers) : IsIdentifierName w.binding ↔ Native w.signature.name := by
  obtain ⟨hf, hbinding⟩ := binding_of_plan h hw
  have hname := (checkSignature_eq_ok_iff.1 hf).1
  rcases hbinding with ⟨hown, -⟩ | ⟨-, chosen, hfree⟩
  · rw [hown, isIdentifierName_iff hname]
  · rw [hfree, isIdentifierName_freeName_iff hname]

/-- The names of parameters in a declaration, one after the other. -/
theorem isIdentifierName_parameterNames (h : ∀ q ∈ remaining, isIdentifier q = true)
    (seen : List String) :
    List.Forall₂ (fun printed q => IsIdentifierName printed ↔ Native q)
      (parameterNames parameters seen remaining) remaining := by
  induction remaining generalizing seen with
  | nil => exact .nil
  | cons q remaining ih =>
    have hq := h q List.mem_cons_self
    refine .cons ?_ (ih (fun r hr => h r (.tail _ hr)) _)
    split
    · exact isIdentifierName_freeName_iff hq _
    · exact isIdentifierName_iff hq

/-- A name that is made or accepted for generated code is an identifier of JavaScript exactly if the
name it comes from has no foreign character and no letter in front that may only follow. So is each
name that is bound in code and declarations: the factory's, the wrappers' and their parameters'.
Reference: `is_identifier`, `to_identifier`. -/
theorem emitted_isIdentifierName_iff (name : String) (moduleName : ModuleName)
    (functions : List FunctionSignature) :
    (IsIdentifierName (toIdentifier name) ↔ Native name) ∧
      (isIdentifier name = true → (IsIdentifierName name ↔ Native name)) ∧
      ∀ p, plan moduleName functions = .ok p →
        (IsIdentifierName p.exportName ↔ Native moduleName.text) ∧
          ∀ w ∈ p.wrappers, (IsIdentifierName w.binding ↔ Native w.signature.name) ∧
            List.Forall₂ (fun printed q => IsIdentifierName printed ↔ Native q)
              (parameterNames w.signature.parameters [] w.signature.parameters)
              w.signature.parameters := by
  refine ⟨isIdentifierName_toIdentifier_iff name, isIdentifierName_iff,
    fun p hp => ⟨?_, fun w hw => ⟨isIdentifierName_binding_iff hp hw, ?_⟩⟩⟩
  · rw [(plan_eq_ok hp).1]
    exact isIdentifierName_exportName_iff moduleName
  · obtain ⟨-, -, hparameters⟩ := checkSignature_eq_ok_iff.1 (binding_of_plan hp hw).1
    exact isIdentifierName_parameterNames hparameters []

/-- Letters with accents are native. -/
theorem emitted_isIdentifierName_accents :
    IsIdentifierName (toIdentifier "größe") ∧ isIdentifier "größe" = true ∧
      IsIdentifierName "größe" ∧
      ∃ p, plan ⟨"größe"⟩ [⟨"maß", ["class", "é"]⟩] = .ok p ∧ IsIdentifierName p.exportName ∧
        ∀ w ∈ p.wrappers, IsIdentifierName w.binding := by
  have hfacts : isIdentifier "größe" = true ∧ Native "größe" ∧ Native "maß" := by
    decide +kernel
  obtain ⟨haccepted, hnative, hfunction⟩ := hfacts
  have hplan : plan ⟨"größe"⟩ [⟨"maß", ["class", "é"]⟩] =
      .ok ⟨"größe", [⟨⟨"maß", ["class", "é"]⟩, "maß"⟩]⟩ := rfl
  obtain ⟨hmade, hname, hemitted⟩ := emitted_isIdentifierName_iff "größe" ⟨"größe"⟩
    [⟨"maß", ["class", "é"]⟩]
  obtain ⟨hexport, hbinding⟩ := hemitted _ hplan
  refine ⟨hmade.2 hnative, haccepted, (hname haccepted).2 hnative, _, hplan, hexport.2 hnative,
    fun w hw => (hbinding w hw).1.2 ?_⟩
  obtain rfl := List.mem_singleton.1 hw
  exact hfunction

/-- A digit above the line is accepted and kept, and JavaScript does not know it. -/
theorem accepted_superscript : isIdentifier "m²" = true ∧ toIdentifier "m²" = "m²" ∧
    ¬IsIdentifierName (toIdentifier "m²") := by
  have hfacts : isIdentifier "m²" = true ∧ toIdentifier "m²" = "m²" ∧
      '²' ∈ (toIdentifier "m²").toList ∧ isIdContinue '²' = false := by
    decide +kernel
  obtain ⟨haccepted, hkept, hmem, hcontinue⟩ := hfacts
  refine ⟨haccepted, hkept, fun h => ?_⟩
  rcases h.all _ hmem with hunderscore | hdollar | hknown
  · cases hunderscore
  · cases hdollar
  · cases hcontinue.symm.trans hknown

end

end ModuleBridge.Generation
