import ModuleBridge.Proofs.Generation.Modules
import ModuleBridge.Proofs.Json.Characters

/-!
# What the code of a module embeds

The name of a module and its source stand in its code as string literals between double quotes, and
the package between single ones. Each literal is read back as the text it was made from and ends
where that text ends, whatever the text is and whatever follows the literal (`isLiteral_json`,
`isLiteral_package`). So a source cannot end its own literal, and nothing else in the code depends
on it (`code_embeds_source`).
-/

namespace ModuleBridge.Generation

open JavaScript

section
variable {c : Char} {package : String}

/-- A text that is written as JSON has no control characters. -/
theorem space_le_of_mem_literal {text : String} (h : c ∈ (Json.literal text).toList) :
    0x20 ≤ c.toNat := by
  rw [Json.literal, String.toList_ofList, Json.renderString, List.mem_append, List.mem_cons,
    List.mem_singleton] at h
  rcases h with (rfl | h) | rfl
  · decide
  · obtain ⟨d, -, hd⟩ := List.mem_flatMap.1 h
    rcases Json.mem_escaped hd with hprintable | ⟨rfl, hlow⟩
    · exact Json.le_of_isPrintable hprintable
    · exact hlow
  · decide

/-- A package that is accepted is a literal between single quotes. -/
theorem isLiteral_package (h : checkRuntimePackage package = .ok ()) :
    IsLiteral '\'' ("'" ++ package ++ "'") package := by
  have hliteral := isLiteral_quoted (Reads.quoted_chars (package_chars h) [])
  rw [List.nil_append, String.ofList_toList] at hliteral
  have htext : "'" ++ package ++ "'" = String.ofList ('\'' :: package.toList ++ ['\'']) := by
    rw [← String.toList_inj]
    simp
  rw [htext]
  exact hliteral

end

section
variable {moduleName : ModuleName} {package : String} {functions : List FunctionSignature} {p : Plan}

/-- The code of a module is the same for all sources, but for one literal after that of the module's
name. Both literals are read back as the name and as the source and have no control characters, and
the package is read back from the literal that names it in the import. Reference: `string_literal`,
`JS_MODULE`. -/
theorem code_embeds_source (hp : plan moduleName functions = .ok p)
    (hpackage : checkRuntimePackage package = .ok ()) :
    ∃ front specifier middle back, ∀ source,
      code package moduleName source functions =
        .ok (front ++ "import \x7b PythonApiClient \x7d from " ++ specifier ++ middle ++
          Json.literal moduleName.text ++ ", " ++ Json.literal source ++ back) ∧
      IsLiteral '\'' specifier package ∧
      IsLiteral '"' (Json.literal moduleName.text) moduleName.text ∧
      IsLiteral '"' (Json.literal source) source ∧
      (∀ c ∈ (Json.literal moduleName.text).toList, 0x20 ≤ c.toNat) ∧
      ∀ c ∈ (Json.literal source).toList, 0x20 ≤ c.toNat := by
  obtain ⟨texts, htexts, -⟩ := reads_wrapperTexts (readable_of_plan hp)
  refine ⟨headerText moduleName ++ "\n", "'" ++ package ++ "'",
    ";\n\nexport const " ++ (p.exportName ++
      " = (directorEndpoint) => \x7b\n  const client = new PythonApiClient(directorEndpoint, "),
    ");\n\n  const registration = client.register();\n\n" ++ (texts ++ ("  return \x7b\n    " ++
      (Text.joinWith ",\n    " (clientMembers ++ p.wrappers.map member) ++ "\n  \x7d;\n\x7d;\n"))),
    fun source => ⟨?_, isLiteral_package hpackage, isLiteral_json _, isLiteral_json _,
      fun c hc => space_le_of_mem_literal hc, fun c hc => space_le_of_mem_literal hc⟩⟩
  have himport : "import \x7b PythonApiClient \x7d from '" =
      "import \x7b PythonApiClient \x7d from " ++ "'" := rfl
  have hquote : "';\n\nexport const " = "'" ++ ";\n\nexport const " := rfl
  rw [code_eq package source hp htexts]
  unfold bodyText
  rw [himport, hquote]
  simp only [String.append_assoc, -String.reduceAppend]

/-- A source that would end a literal or begin a hole, in a module whose name has a quote too. -/
theorem code_embeds_source_quotes :
    ∃ text back,
      code "runtime" ⟨"a\"b"⟩ "\");\n`$\x7b\x7b" [⟨"delete", ["key"]⟩] = .ok (text ++
        Json.literal "a\"b" ++ ", " ++ Json.literal "\");\n`$\x7b\x7b" ++ back) ∧
      IsLiteral '"' (Json.literal "a\"b") "a\"b" ∧
      IsLiteral '"' (Json.literal "\");\n`$\x7b\x7b") "\");\n`$\x7b\x7b" := by
  have hpackage : checkRuntimePackage "runtime" = .ok () := rfl
  have hplan : plan ⟨"a\"b"⟩ [⟨"delete", ["key"]⟩] =
      .ok ⟨exportName ⟨"a\"b"⟩, [⟨⟨"delete", ["key"]⟩, "delete_"⟩]⟩ := rfl
  obtain ⟨front, specifier, middle, back, hall⟩ := code_embeds_source hplan hpackage
  obtain ⟨hcode, -, hname, hsource, -⟩ := hall "\");\n`$\x7b\x7b"
  exact ⟨_, back, hcode, hname, hsource⟩

end

end ModuleBridge.Generation
