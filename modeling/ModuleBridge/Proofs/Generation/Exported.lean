import ModuleBridge.Proofs.Generation.Names

/-!
# The name of a factory

Any text is a name of a module, and its identifier is one that can be bound (`Sanitised`). The three
repairs that make it do not undo one another: what replaces a character and what goes in front of a
digit is an underscore, and no reserved word has one, so neither has a word with an underscore after
it become reserved. A name that needs no repair is left alone, so the identifier of an identifier is
itself (`toIdentifier_eq_self_iff`). More underscores after an identifier keep all of this, and one
of them is enough to tell it from every imported name (`exists_exportName`).
-/

namespace ModuleBridge.Generation

/-- A name that needs no repair: it begins with no digit, each of its characters can stand in an
identifier, and it is no reserved word. -/
structure Sanitised (name : String) : Prop where
  begins : needsUnderscore name.toList = false
  all : ∀ c ∈ name.toList, isIdentifierTail c = true
  free : isReservedWord name = false

section
variable {name : String} {cs ds : List Char}

/-! ## The three repairs -/

/-- What follows a character in front does not matter to it. -/
theorem needsUnderscore_append (h : needsUnderscore cs = false) (ds : List Char) :
    needsUnderscore (cs ++ ds) = false := by
  cases cs with
  | nil => cases h
  | cons c cs => exact h

/-- An underscore went in front of a digit, or of nothing. -/
theorem needsUnderscore_kept (name : String) : needsUnderscore (kept name) = false := by
  unfold kept
  split
  · rfl
  · next hneeds => exact Bool.eq_false_iff.2 hneeds

/-- Underscores after a name do not make a reserved word of it. -/
theorem isReservedWord_append_underscores (h : isReservedWord name = false) (count : Nat) :
    isReservedWord (name ++ underscores count) = false := by
  cases count with
  | zero => rwa [append_underscores_zero]
  | succ count => exact isReservedWord_marked name count

/-- Every identifier that is made for a name needs no further repair. -/
theorem sanitised_toIdentifier (name : String) : Sanitised (toIdentifier name) := by
  refine ⟨?_, (isTail_toIdentifier name).all, ?_⟩
  · obtain ⟨count, hcount⟩ := exists_toIdentifier name
    rw [hcount, toList_append_underscores, String.toList_ofList]
    exact needsUnderscore_append (needsUnderscore_kept name) _
  · rw [toIdentifier_eq]
    split
    · exact isReservedWord_of_underscore (by simp)
    · next hfree => exact Bool.eq_false_iff.2 hfree

/-- A name is its own identifier exactly if it needs no repair. -/
theorem toIdentifier_eq_self_iff : toIdentifier name = name ↔ Sanitised name := by
  refine ⟨fun h => h ▸ sanitised_toIdentifier name, fun h => ?_⟩
  have hreplaced : replaced name = name.toList :=
    (List.map_congr_left fun c hc => if_pos (h.all c hc)).trans (List.map_id' _)
  have hkept : String.ofList (kept name) = name := by
    rw [kept, hreplaced, h.begins, if_neg Bool.false_ne_true, String.ofList_toList]
  rw [toIdentifier_eq, hkept, h.free, if_neg Bool.false_ne_true]

/-- A name that needs no repair is an identifier. -/
theorem Sanitised.isIdentifier (h : Sanitised name) : isIdentifier name = true := by
  obtain ⟨count, hcount⟩ := exists_toIdentifier name
  rw [← toIdentifier_eq_self_iff.2 h, hcount]
  exact isIdentifier_append_underscores (isIdentifier_kept name) count

/-! ## The name that is exported -/

/-- As long as the name is that of an import an underscore is put after it, which happens once at
most. -/
theorem exists_exportName (moduleName : ModuleName) :
    ∃ count ≤ 1, exportName moduleName = toIdentifier moduleName.text ++ underscores count ∧
      ∀ k < count, toIdentifier moduleName.text ++ underscores k ∈ importedBindings := by
  obtain ⟨count, hcount, hused⟩ := exists_extend importedBindings (toIdentifier moduleName.text)
  refine ⟨count, Nat.le_of_not_lt fun hlt => ?_, hcount, hused⟩
  have himported : ∀ imported ∈ importedBindings, '_' ∉ imported.toList := by decide
  refine himported _ (hused 1 hlt) ?_
  rw [toList_append_underscores]
  exact List.mem_append_right _ List.mem_cons_self

/-- **The name that a module is exported under.** The identifier for any name is an identifier, no
reserved word, and the identifier for itself. A module is exported under the identifier for its name
with underscores after it, one put there after each name that is imported, which ends after one
round at most. So what it is exported under is an identifier, and neither reserved nor imported,
whatever its functions are. Reference: `plan_module`, `to_identifier`. -/
theorem exportName_declarable (name : String) (moduleName : ModuleName) :
    (isIdentifier (toIdentifier name) = true ∧ isReservedWord (toIdentifier name) = false ∧
      toIdentifier (toIdentifier name) = toIdentifier name) ∧
    (isIdentifier (exportName moduleName) = true ∧
      isReservedWord (exportName moduleName) = false ∧
      exportName moduleName ∉
        ["AxiosResponse", "ExecuteResponse", "PythonApiClient", "RegisterResponse"]) ∧
    (∃ rounds ≤ 1, exportName moduleName = toIdentifier moduleName.text ++ underscores rounds ∧
      ∀ k < rounds, toIdentifier moduleName.text ++ underscores k ∈ importedBindings) ∧
    ∀ functions p, plan moduleName functions = .ok p → p.exportName = exportName moduleName := by
  have hname := sanitised_toIdentifier name
  have hmodule := sanitised_toIdentifier moduleName.text
  obtain ⟨rounds, hrounds, hexport, hused⟩ := exists_exportName moduleName
  refine ⟨⟨hname.isIdentifier, hname.free, toIdentifier_eq_self_iff.2 hname⟩, ⟨?_, ?_, ?_⟩,
    ⟨rounds, hrounds, hexport, hused⟩, fun functions p hp => (plan_eq_ok hp).1⟩
  · rw [hexport]
    exact isIdentifier_append_underscores hmodule.isIdentifier rounds
  · rw [hexport]
    exact isReservedWord_append_underscores hmodule.free rounds
  · exact extend_not_mem importedBindings (toIdentifier moduleName.text)

/-- A module with the name of an import is exported with an underscore after it. -/
theorem exportName_declarable_import :
    ∃ p, plan ⟨"PythonApiClient"⟩ [⟨"delete", ["key"]⟩] = .ok p ∧
      p.exportName = "PythonApiClient_" ∧ isIdentifier p.exportName = true ∧
      isReservedWord p.exportName = false := by
  have hplan : plan ⟨"PythonApiClient"⟩ [⟨"delete", ["key"]⟩] =
      .ok ⟨exportName ⟨"PythonApiClient"⟩, [⟨⟨"delete", ["key"]⟩, "delete_"⟩]⟩ := rfl
  have hexport : exportName ⟨"PythonApiClient"⟩ = "PythonApiClient_" := by decide +kernel
  obtain ⟨-, ⟨hidentifier, hreserved, -⟩, -, hp⟩ :=
    exportName_declarable "PythonApiClient" ⟨"PythonApiClient"⟩
  refine ⟨_, hplan, ?_⟩
  rw [hp _ _ hplan]
  exact ⟨hexport, hidentifier, hreserved⟩

end

end ModuleBridge.Generation
