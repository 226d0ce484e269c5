import ModuleBridge.Proofs.Source.Exports

/-!
# Functions that a coroutine replaces

When a module has run, a name stands for the function that was defined under it last, coroutine or
not (`StandsFor`); every name with a definition stands for just one (`exists_standsFor`,
`StandsFor.unique`). Exports leave coroutines out before they look at names, so what is exported
under a name is the last function that is no coroutine (`mem_exportedFunctions_iff`), and the name
stands for it unless a coroutine comes later (`exported_standsFor_iff`).
-/

namespace ModuleBridge.Source

/-- What a definition binds a name to. -/
inductive Callable
  | plain (parameters : List String)
  | coroutine (parameters : List String)

/-- The statement that defines a function under a name. -/
def Callable.definition (name : String) : Callable → Statement
  | .plain parameters => .function name parameters
  | .coroutine parameters => .coroutine name parameters

/-- The last definition of the name, of whichever kind, is that of the function. -/
def StandsFor (statements : List Statement) (name : String) (f : Callable) : Prop :=
  ∃ front back, statements = front ++ f.definition name :: back ∧
    ∀ g : Callable, g.definition name ∉ back

section
variable {statements : List Statement} {name : String} {parameters : List String} {f g : Callable}

/-! ## What a name stands for -/

/-- A definition tells what it defines. -/
theorem Callable.definition_inj (h : f.definition name = g.definition name) : f = g := by
  cases f <;> cases g <;> cases h <;> rfl

/-- A name stands for one callable at most. -/
theorem StandsFor.unique (h : StandsFor statements name f) (h' : StandsFor statements name g) :
    f = g := by
  obtain ⟨front, back, rfl, hb⟩ := h
  obtain ⟨front', back', he, hb'⟩ := h'
  have hcut := eq_of_last (p := fun s => ∃ c : Callable, s = c.definition name) he ⟨f, rfl⟩
    ⟨g, rfl⟩ (fun s hs ⟨c, hc⟩ => hb c (hc ▸ hs)) (fun s hs ⟨c, hc⟩ => hb' c (hc ▸ hs))
  exact Callable.definition_inj hcut.1

/-- A name with a definition stands for one of its functions. -/
theorem exists_standsFor (h : f.definition name ∈ statements) :
    ∃ g, StandsFor statements name g := by
  induction statements using List.reverseRecOn with
  | nil => cases h
  | append_singleton statements s ih =>
    by_cases hs : ∃ g : Callable, s = g.definition name
    · obtain ⟨g, rfl⟩ := hs
      exact ⟨g, statements, [], rfl, fun _ => List.not_mem_nil⟩
    · have hold : f.definition name ∈ statements :=
        (List.mem_append.1 h).resolve_right fun hf => hs ⟨f, (List.mem_singleton.1 hf).symm⟩
      obtain ⟨g, front, back, rfl, hb⟩ := ih hold
      refine ⟨g, front, back ++ [s], by simp, fun c hc => ?_⟩
      rcases List.mem_append.1 hc with hc | hc
      · exact hb c hc
      · exact hs ⟨c, (List.mem_singleton.1 hc).symm⟩

/-- A function that the name stands for and that is no coroutine is the last one of these. -/
theorem StandsFor.lastDefinition (h : StandsFor statements name (.plain parameters)) :
    LastDefinition statements name parameters := by
  obtain ⟨front, back, rfl, hb⟩ := h
  exact ⟨front, back, rfl, fun ⟨later, hmem⟩ => hb (.plain later) hmem⟩

/-- A name with a last definition is defined. -/
theorem LastDefinition.defines (h : LastDefinition statements name parameters) :
    Defines statements name := by
  obtain ⟨front, back, rfl, -⟩ := h
  exact ⟨parameters, by simp⟩

/-! ## What is exported -/

/-- The functions that are exported fit their description. -/
theorem interface_exportedFunctions (statements : List Statement) :
    Interface (fun name => isExported (declaredExports statements) name = true) statements
      (exportedFunctions statements) := by
  rw [exportedFunctions_eq]
  generalize declaredExports statements = exports
  induction statements using List.reverseRecOn with
  | nil => exact ⟨.nil, fun name => by simp [Defines], .nil, nofun⟩
  | append_singleton read s ih =>
    rw [List.foldl_append]
    exact ih.snoc s

/-- A function is exported if its name is and if it is the last one with the name that is no
coroutine. -/
theorem mem_exportedFunctions_iff {f : FunctionSignature} :
    f ∈ exportedFunctions statements ↔
      Exported statements f.name ∧ LastDefinition statements f.name f.parameters := by
  have hi := interface_exportedFunctions statements
  rw [← isExported_declaredExports_iff]
  constructor
  · exact fun h => ⟨((hi.mem_iff f.name).1 (List.mem_map_of_mem h)).2, hi.parameters f h⟩
  · rintro ⟨he, hl⟩
    exact hi.mem_of_lastDefinition ((hi.mem_iff f.name).2 ⟨hl.defines, he⟩) hl

/-- **Which exports are current.** A function is exported under the parameters of the last function
with its name that is no coroutine. Its name stands for that function, once the module has run,
exactly if it does not stand for a coroutine. Reference: `exported_functions`. -/
theorem exported_standsFor_iff (statements : List Statement) :
    (∀ f, f ∈ exportedFunctions statements ↔
      Exported statements f.name ∧ LastDefinition statements f.name f.parameters) ∧
    ∀ f ∈ exportedFunctions statements,
      StandsFor statements f.name (.plain f.parameters) ↔
        ∀ parameters, ¬ StandsFor statements f.name (.coroutine parameters) := by
  refine ⟨fun f => mem_exportedFunctions_iff, fun f hf => ?_⟩
  have hl := (mem_exportedFunctions_iff.1 hf).2
  constructor
  · intro h parameters hc
    cases h.unique hc
  · intro h
    obtain ⟨parameters, hd⟩ := hl.defines
    obtain ⟨g, hg⟩ := exists_standsFor (f := .plain parameters) hd
    cases g with
    | plain parameters =>
      rw [hl.unique hg.lastDefinition]
      exact hg
    | coroutine parameters => exact absurd hg (h parameters)

/-- The coroutine that comes after the first function replaces it, the one before the second does
not. -/
theorem exported_standsFor_mixed :
    let statements : List Statement :=
      [.function "f" ["a"], .coroutine "g" ["b"], .coroutine "f" ["c"], .function "g" ["d"]]
    exportedFunctions statements = [⟨"f", ["a"]⟩, ⟨"g", ["d"]⟩] ∧
      ¬ StandsFor statements "f" (.plain ["a"]) ∧ StandsFor statements "g" (.plain ["d"]) := by
  intro statements
  have hfound : exportedFunctions statements = [⟨"f", ["a"]⟩, ⟨"g", ["d"]⟩] := by decide
  have hcurrent := (exported_standsFor_iff statements).2
  rw [hfound] at hcurrent
  have hf : StandsFor statements "f" (.coroutine ["c"]) :=
    ⟨[.function "f" ["a"], .coroutine "g" ["b"]], [.function "g" ["d"]], rfl, by
      rintro (_ | _) <;> simp [Callable.definition]⟩
  have hg : ∀ parameters, ¬ StandsFor statements "g" (.coroutine parameters) := by
    intro parameters h
    have hlast : StandsFor statements "g" (.plain ["d"]) :=
      ⟨[.function "f" ["a"], .coroutine "g" ["b"], .coroutine "f" ["c"]], [], rfl, nofun⟩
    cases h.unique hlast
  refine ⟨hfound, fun h => ?_, ?_⟩
  · exact (hcurrent ⟨"f", ["a"]⟩ (by simp)).1 h ["c"] hf
  · exact (hcurrent ⟨"g", ["d"]⟩ (by simp)).2 hg

/-- A function that a coroutine has replaced is exported all the same. -/
theorem exported_replaced :
    ¬ ∀ statements, ∀ f ∈ exportedFunctions statements,
      StandsFor statements f.name (.plain f.parameters) := by
  intro h
  have hfirst := h [.function "a" ["x"], .coroutine "a" ["y"]] ⟨"a", ["x"]⟩ (by decide)
  have hlast : StandsFor [.function "a" ["x"], .coroutine "a" ["y"]] "a" (.coroutine ["y"]) :=
    ⟨[.function "a" ["x"]], [], rfl, nofun⟩
  cases hfirst.unique hlast

end

end ModuleBridge.Source
