import Mathlib.Data.List.TakeWhile
import ModuleBridge.Proofs.Generation.Modules

/-!
# The header of what is generated

The code of a module and its declarations begin with a comment of one line that names the module.
The name stands in it as it is (`exists_generate_of_plan`), so the comment is all of the first line
exactly if no character of the name ends a line (`Headed.firstLine_eq_iff`). The name of a file may
have such a character, and what follows it then stands below the comment
(`Headed.firstLine_of_split`).
-/

namespace ModuleBridge.Generation

open JavaScript

/-- Does the character end a line? -/
def endsLine (c : Char) : Bool := lineTerminators.contains c

/-- A text up to its first line terminator. -/
def firstLine (text : String) : String :=
  String.ofList (text.toList.takeWhile fun c => !endsLine c)

/-- No character of the text ends a line. -/
def OneLine (text : String) : Prop := ∀ c ∈ text.toList, endsLine c = false

/-- The text begins with the header of a module on lines of its own. -/
def Headed (moduleName : ModuleName) (text : String) : Prop :=
  ∃ body, text = headerText moduleName ++ "\n" ++ body

/-! ## First lines -/

section
variable {moduleName : ModuleName} {text front rest : String} {c : Char}

theorem OneLine.of_all (h : (text.toList.all fun c => !endsLine c) = true) : OneLine text :=
  fun c hc => (Bool.not_eq_true' _).mp (List.all_eq_true.1 h c hc)

/-- Two texts are on one line together exactly if each is on one line. -/
theorem oneLine_append_iff : OneLine (front ++ rest) ↔ OneLine front ∧ OneLine rest := by
  unfold OneLine
  rw [String.toList_append, List.forall_mem_append]

theorem oneLine_opening : OneLine "// Auto-generated from " := .of_all rfl

/-- The text of the header that is not the name stays on its line. -/
theorem oneLine_headerText_iff : OneLine (headerText moduleName) ↔ OneLine moduleName.text := by
  have hby : OneLine " by " := .of_all rfl
  have hgenerator : OneLine generatorName := .of_all rfl
  unfold headerText
  rw [oneLine_append_iff, oneLine_append_iff, oneLine_append_iff]
  exact ⟨fun h => h.1.1.2, fun h => ⟨⟨⟨oneLine_opening, h⟩, hby⟩, hgenerator⟩⟩

/-- The first line of a text is one line. -/
theorem oneLine_firstLine (text : String) : OneLine (firstLine text) := by
  intro c hc
  rw [firstLine, String.toList_ofList] at hc
  have hkept := List.mem_takeWhile_imp hc
  exact (Bool.not_eq_true' _).mp hkept

/-- The first line ends where the first line terminator stands. -/
theorem firstLine_of_split (hfront : OneLine front) (hc : endsLine c = true) :
    firstLine (front ++ String.singleton c ++ rest) = front := by
  have hkept : ∀ d ∈ front.toList, (!endsLine d) = true :=
    fun d hd => (Bool.not_eq_true' _).mpr (hfront d hd)
  have hrest : (c :: rest.toList).takeWhile (fun d => !endsLine d) = [] :=
    List.takeWhile_cons_of_neg (by rw [hc]; decide)
  have htext : (front ++ String.singleton c ++ rest).toList = front.toList ++ c :: rest.toList := by
    simp
  rw [firstLine, htext, List.takeWhile_append_of_pos hkept, hrest, List.append_nil,
    String.ofList_toList]

/-- **The first line.** It is the header exactly if no character of the module's name ends a
line. -/
theorem Headed.firstLine_eq_iff (h : Headed moduleName text) :
    firstLine text = headerText moduleName ↔ OneLine moduleName.text := by
  rw [← oneLine_headerText_iff]
  constructor
  · intro hline
    exact hline ▸ oneLine_firstLine text
  · intro hheader
    obtain ⟨body, rfl⟩ := h
    have hline : "\n" = String.singleton '\n' := rfl
    rw [hline]
    exact firstLine_of_split hheader (by decide)

/-- What stands in a name after a line terminator stands below the comment. -/
theorem Headed.firstLine_of_split (h : Headed ⟨front ++ String.singleton c ++ rest⟩ text)
    (hfront : OneLine front) (hc : endsLine c = true) :
    firstLine text = "// Auto-generated from " ++ front := by
  obtain ⟨body, rfl⟩ := h
  have htext : headerText ⟨front ++ String.singleton c ++ rest⟩ ++ "\n" ++ body =
      "// Auto-generated from " ++ front ++ String.singleton c ++
        (rest ++ " by " ++ generatorName ++ "\n" ++ body) := by
    unfold headerText
    simp only [String.append_assoc, -String.reduceAppend]
  rw [htext]
  exact Generation.firstLine_of_split (oneLine_append_iff.2 ⟨oneLine_opening, hfront⟩) hc

end

/-! ## Generated texts -/

section
variable {moduleName : ModuleName} {package source : String} {withDeclarations : Bool} {p : Plan}
  {functions : List FunctionSignature} {generated : GeneratedModule}

/-- What is generated for a plan begins with the header. -/
theorem exists_generate_of_plan (package source : String) (withDeclarations : Bool)
    (hp : plan moduleName functions = .ok p) :
    ∃ text types, Headed moduleName text ∧ Headed moduleName types ∧
      generate package moduleName source functions withDeclarations =
        .ok ⟨text, if withDeclarations then some types else none⟩ := by
  obtain ⟨texts, htexts, -⟩ := reads_wrapperTexts (readable_of_plan hp)
  obtain ⟨aliases, haliases, -⟩ := reads_aliasTexts (readable_of_plan hp)
  refine ⟨_, _, ⟨bodyText package moduleName source p texts, rfl⟩,
    ⟨typesBodyText package p aliases, rfl⟩, ?_⟩
  rw [generate, code_eq package source hp htexts]
  cases withDeclarations with
  | false => rfl
  | true =>
    simp only [bind, Except.bind, if_true, declarations_eq package hp haliases]
    rfl

/-- **When the name of a module stays in the header.** The code of a module and the declarations
that are asked for begin with the header, and the header is the first line exactly if no character
of the name ends a line. Reference: `JS_MODULE`, `DTS_MODULE`. -/
theorem firstLines_eq_header_iff
    (h : generate package moduleName source functions withDeclarations = .ok generated) :
    generated.typeDeclarations.isSome = withDeclarations ∧
      ∀ text ∈ generated.code :: generated.typeDeclarations.toList,
        Headed moduleName text ∧
          (firstLine text = headerText moduleName ↔ OneLine moduleName.text) := by
  obtain ⟨p, hp⟩ := exists_plan_of_generate h
  obtain ⟨text, types, htext, htypes, hgenerate⟩ :=
    exists_generate_of_plan package source withDeclarations hp
  cases Except.ok.inj (h.symm.trans hgenerate)
  cases withDeclarations with
  | false => exact ⟨rfl, List.forall_mem_singleton.2 ⟨htext, htext.firstLine_eq_iff⟩⟩
  | true =>
    exact ⟨rfl, List.forall_mem_cons.2 ⟨⟨htext, htext.firstLine_eq_iff⟩,
      List.forall_mem_singleton.2 ⟨htypes, htypes.firstLine_eq_iff⟩⟩⟩

/-- The header is the first line of both texts for a module with a plain name. -/
theorem firstLines_eq_header_plain :
    ∃ text types, generate "runtime" ⟨"m"⟩ "" [⟨"add", ["a", "b"]⟩] true =
        .ok ⟨text, some types⟩ ∧
      firstLine text = headerText ⟨"m"⟩ ∧ firstLine types = headerText ⟨"m"⟩ := by
  have hplan : plan ⟨"m"⟩ [⟨"add", ["a", "b"]⟩] =
      .ok ⟨exportName ⟨"m"⟩, [⟨⟨"add", ["a", "b"]⟩, "add"⟩]⟩ := rfl
  have hname : OneLine "m" := .of_all rfl
  obtain ⟨text, types, -, -, hgenerate⟩ := exists_generate_of_plan "runtime" "" true hplan
  obtain ⟨-, hall⟩ := firstLines_eq_header_iff hgenerate
  exact ⟨text, types, hgenerate, (hall text List.mem_cons_self).2.2 hname,
    (hall types (List.mem_cons_of_mem _ List.mem_cons_self)).2.2 hname⟩

/-- The name of a file with a line feed leaves the header of both texts. -/
theorem header_broken :
    ModuleName.ofId "a\nalert(1).py" = ⟨"a\nalert(1)"⟩ ∧
      ∃ text types, generate "runtime" (.ofId "a\nalert(1).py") "" [] true =
          .ok ⟨text, some types⟩ ∧
        firstLine text = "// Auto-generated from a" ∧
        firstLine types = "// Auto-generated from a" ∧
        ¬firstLine text = "// Auto-generated from a\nalert(1) by pyloader" ∧
        ¬firstLine types = "// Auto-generated from a\nalert(1) by pyloader" := by
  have hname : ModuleName.ofId "a\nalert(1).py" = ⟨"a\nalert(1)"⟩ := by decide +kernel
  have hplan : plan ⟨"a\nalert(1)"⟩ [] = .ok ⟨exportName ⟨"a\nalert(1)"⟩, []⟩ := rfl
  have hfront : OneLine "a" := .of_all rfl
  have hne : "// Auto-generated from a" ≠ "// Auto-generated from a\nalert(1) by pyloader" := by
    decide +kernel
  have hsplit : "a\nalert(1)" = "a" ++ String.singleton '\n' ++ "alert(1)" := rfl
  obtain ⟨text, types, htext, htypes, hgenerate⟩ := exists_generate_of_plan "runtime" "" true hplan
  rw [hsplit] at htext htypes
  have hcode : firstLine text = "// Auto-generated from a" :=
    htext.firstLine_of_split hfront (by decide)
  have hdeclarations : firstLine types = "// Auto-generated from a" :=
    htypes.firstLine_of_split hfront (by decide)
  rw [hname]
  exact ⟨rfl, text, types, hgenerate, hcode, hdeclarations, hcode ▸ hne, hdeclarations ▸ hne⟩

end

end ModuleBridge.Generation
