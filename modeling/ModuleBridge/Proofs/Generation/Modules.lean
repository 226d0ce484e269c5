import Mathlib.Data.List.Forall2
import ModuleBridge.Proofs.Generation.Wrappers

/-!
# Generated modules are wired right

The code of a module reads as a factory (`tokens?_code`) and its declarations read as the type of
that factory (`tokens?_declarations`). Both come from one plan, so it is enough to say once what the
plan binds: each function has one wrapper and one alias, which are found by the key of the function,
because no two functions have one name and no two wrappers have one binding.
-/

namespace ModuleBridge.Generation

open JavaScript

/-! ## Headers and imports -/

section
variable {package : String} {cs : List Char} {ts : List Token} {mode : Mode}

/-- The header is a comment as long as no character of the module's name ends it. -/
theorem reads_header {name : String} (hname : ∀ c ∈ name.toList, c ∉ lineTerminators)
    (h : Reads .comment cs ts mode) :
    Reads .blank ("// Auto-generated from ".toList ++
      (name.toList ++ (" by ".toList ++ (generatorName.toList ++ cs)))) ts mode := by
  have hopen : Reads .blank "// Auto-generated from ".toList [] .comment :=
    .of_chars rfl
  have hby : Reads .comment " by ".toList [] .comment := .of_chars rfl
  have hgenerator : Reads .comment generatorName.toList [] .comment := .of_chars rfl
  exact hopen.append ((Reads.comment hname).append (hby.append (hgenerator.append h)))

/-- A package that is accepted has no character that means anything in a string literal. -/
theorem package_chars (hpackage : checkRuntimePackage package = .ok ()) :
    ∀ c ∈ package.toList, c ≠ '\'' ∧ c ≠ '\\' ∧ c ≠ '\n' ∧ c ≠ '\r' := by
  intro c hc
  unfold checkRuntimePackage at hpackage
  split at hpackage
  · cases hpackage
  · next hnone =>
    rw [Bool.or_eq_true, not_or, List.any_eq_true] at hnone
    have hspecial : c ∉ ['\'', '"', '\\', '\n', '\r'] := by
      intro hmem
      exact hnone.2 ⟨c, hc, List.contains_iff_mem.2 hmem⟩
    simp only [List.mem_cons, List.not_mem_nil, or_false, not_or] at hspecial
    exact ⟨hspecial.1, hspecial.2.2.1, hspecial.2.2.2.1, hspecial.2.2.2.2⟩

/-- A package that is accepted is a string literal by itself. -/
theorem reads_package (hpackage : checkRuntimePackage package = .ok ())
    (h : Reads .blank cs ts mode) :
    Reads (.quoted '\'' []) (package.toList ++ ("'".toList ++ cs)) (.literal package :: ts)
      mode := by
  have hend : Reads (.quoted '\'' package.toList) ('\'' :: cs)
      (.literal (String.ofList package.toList) :: ts) mode := Reads.end_quote h
  rw [String.ofList_toList] at hend
  exact (Reads.quoted_chars (package_chars hpackage) []).append hend

end

/-! ## The code of a module -/

section
variable {w : Wrapper} {wrappers : List Wrapper} {moduleName : ModuleName} {package source : String}
  {functions : List FunctionSignature} {p : Plan}

/-- The names that a wrapper is printed with can be read as words. -/
structure Readable (w : Wrapper) : Prop where
  binding : IsTail w.binding
  name : IsTail w.signature.name
  parameters : ∀ p ∈ w.signature.parameters, isIdentifier p = true

/-- All wrappers of a plan can be read back from their text. -/
theorem readable_of_plan (hp : plan moduleName functions = .ok p) :
    ∀ w ∈ p.wrappers, Readable w := by
  intro w hw
  obtain ⟨hsignature, hbinding⟩ := wrapper_of_plan hp hw
  obtain ⟨hname, -, hparameters⟩ := checkSignature_eq_ok_iff.1 hsignature
  exact ⟨hbinding, .of_isIdentifier hname, hparameters⟩

/-- The texts of the wrappers are written, and they are read as the tokens of their blocks. -/
theorem reads_wrapperTexts (h : ∀ w ∈ wrappers, Readable w) :
    ∃ text, wrapperTexts wrappers = .ok text ∧
      Reads .blank text.toList ((wrappers.map wrapperBlock).flatMap Block.tokens) .blank := by
  induction wrappers with
  | nil => exact ⟨"", rfl, .nil _⟩
  | cons w rest ih =>
    obtain ⟨hw, hrest⟩ := List.forall_mem_cons.1 h
    obtain ⟨front, hfront, hfrontReads⟩ := reads_wrapperText hw.binding hw.name
    obtain ⟨back, hback, hbackReads⟩ := ih hrest
    refine ⟨front ++ "\n" ++ back, ?_, ?_⟩
    · rw [wrapperTexts, hfront, hback]
      rfl
    · have hline : Reads .blank "\n".toList [] .blank := rfl
      rw [String.toList_append, String.toList_append, List.append_assoc]
      exact hfrontReads.append (hline.append hbackReads)

/-- The member of the factory's object for a wrapper. -/
def wrapperMember (w : Wrapper) : Member := ⟨w.signature.name, [.word w.binding]⟩

/-- A member of the factory's object that is named after what is bound. -/
def sharedMember (name : String) : Member := ⟨name, [.word name]⟩

theorem shortTokens_sharedMember (name : String) : (sharedMember name).shortTokens = [.word name] :=
  if_pos rfl

/-- What the code of a module reads as. -/
def factoryOf (package : String) (moduleName : ModuleName) (source : String) (p : Plan) :
    Factory where
  package := package
  exportName := p.exportName
  moduleName := moduleName.text
  source := source
  blocks := p.wrappers.map wrapperBlock
  members := clientMembers.map sharedMember ++ p.wrappers.map wrapperMember

/-- The entry of a wrapper in the factory's object is read as its member. -/
theorem readsBefore_member (h : Readable w) :
    ReadsBefore (member w) (wrapperMember w).shortTokens := by
  rw [member]
  by_cases hsame : w.binding = w.signature.name
  · have htokens : (wrapperMember w).shortTokens = [.word w.binding] := by
      rw [wrapperMember, ← hsame]
      exact shortTokens_sharedMember w.binding
    rw [if_pos hsame, htokens]
    exact .word h.binding.isWord
  · have hvalue : (wrapperMember w).value ≠ [.word (wrapperMember w).key] :=
      fun he => hsame (Token.word.inj (List.cons.inj he).1)
    rw [if_neg hsame, Member.shortTokens, if_neg hvalue]
    exact .member h.name.isWord (.word h.binding.isWord)

/-- The entries of the factory's object are read as the shared members and one for each wrapper. -/
theorem readsBefore_members (h : ∀ w ∈ wrappers, Readable w) :
    ReadsBefore (Text.joinWith ",\n    " (clientMembers ++ wrappers.map member))
      (commas ((clientMembers.map sharedMember ++ wrappers.map wrapperMember).map
        Member.shortTokens)) := by
  have hclient : ∀ name ∈ clientMembers, ReadsBefore (id name) (sharedMember name).shortTokens := by
    intro name hname
    have hword : ∀ name ∈ clientMembers, IsWord name.toList := by decide
    rw [shortTokens_sharedMember]
    exact .word (hword name hname)
  have hseparator : Reads .blank ",\n    ".toList [.mark ','] .blank := .of_chars rfl
  have hjoin := ReadsBefore.joinWith_append rfl hseparator hclient
    fun w hw => readsBefore_member (h w hw)
  rw [List.map_id] at hjoin
  rw [List.map_append, List.map_map, List.map_map]
  exact hjoin

/-- The first line of the code of a module, which is to be a comment. -/
def headerText (moduleName : ModuleName) : String :=
  "// Auto-generated from " ++ moduleName.text ++ " by " ++ generatorName

/-- What stands below a first line that is a comment is all that is read. -/
theorem tokens?_headerText_append {body : String} {ts : List Token}
    (hname : ∀ c ∈ moduleName.text.toList, c ∉ lineTerminators)
    (h : Reads .blank body.toList ts .blank) :
    tokens? (headerText moduleName ++ "\n" ++ body) = some ts := by
  have hline : Reads .comment "\n".toList [] .blank := rfl
  refine tokens?_eq_some ?_
  unfold headerText
  simp only [String.toList_append, List.append_assoc, -String.reduceToList]
  exact reads_header hname (hline.append h)

/-- What stands below the first line of the code of a module, with the texts of the wrappers. -/
def bodyText (package : String) (moduleName : ModuleName) (source : String) (p : Plan)
    (texts : String) : String :=
  "import \x7b PythonApiClient \x7d from '" ++ (package ++ ("';\n\nexport const " ++
    (p.exportName ++
    (" = (directorEndpoint) => \x7b\n  const client = new PythonApiClient(directorEndpoint, " ++
    (Json.literal moduleName.text ++ (", " ++ (Json.literal source ++
    (");\n\n  const registration = client.register();\n\n" ++ (texts ++
    ("  return \x7b\n    " ++
    (Text.joinWith ",\n    " (clientMembers ++ p.wrappers.map member) ++ "\n  \x7d;\n\x7d;\n")))))))))))

/-- The code of a plan is its header and its body. -/
theorem code_eq {texts : String} (package source : String) (hp : plan moduleName functions = .ok p)
    (htexts : wrapperTexts p.wrappers = .ok texts) :
    code package moduleName source functions =
      .ok (headerText moduleName ++ "\n" ++ bodyText package moduleName source p texts) := by
  have hcode : code package moduleName source functions =
      .ok ("// Auto-generated from " ++ (moduleName.text ++ (" by " ++ (generatorName ++
        ("\nimport \x7b PythonApiClient \x7d from '" ++ (package ++ ("';\n\nexport const " ++
        (p.exportName ++
        (" = (directorEndpoint) => \x7b\n  const client = new PythonApiClient(directorEndpoint, " ++
        (Json.literal moduleName.text ++ (", " ++ (Json.literal source ++
        (");\n\n  const registration = client.register();\n\n" ++ (texts ++
        ("  return \x7b\n    " ++
        (Text.joinWith ",\n    " (clientMembers ++ p.wrappers.map member) ++
        ("\n  \x7d;\n\x7d;\n" ++ ""))))))))))))))))) := by
    rw [code, hp]
    simp only [bind, Except.bind, htexts]
    rfl
  have hline : "\nimport \x7b PythonApiClient \x7d from '" =
      "\n" ++ "import \x7b PythonApiClient \x7d from '" := rfl
  rw [hcode, hline]
  unfold headerText bodyText
  simp only [String.append_assoc, String.append_empty, -String.reduceAppend]

/-- What stands below the first line of the code of a module reads as a factory. -/
theorem reads_bodyText (source : String) (hp : plan moduleName functions = .ok p)
    (hpackage : checkRuntimePackage package = .ok ()) :
    ∃ texts, wrapperTexts p.wrappers = .ok texts ∧
      Reads .blank (bodyText package moduleName source p texts).toList
        (factoryOf package moduleName source p).tokens .blank := by
  have hreadable := readable_of_plan hp
  obtain ⟨texts, htexts, htextsReads⟩ := reads_wrapperTexts hreadable
  refine ⟨texts, htexts, ?_⟩
  have hexportName := isTail_exportName_of_plan hp
  have himport : Reads .blank "import \x7b PythonApiClient \x7d from '".toList
      (lex "import \x7b PythonApiClient \x7d from") (.quoted '\'' []) := .of_chars rfl
  have hexport : Reads .blank ";\n\nexport const ".toList (lex "; export const") .blank :=
    .of_chars rfl
  have hnew : Reads .blank
    " = (directorEndpoint) => \x7b\n  const client = new PythonApiClient(directorEndpoint, ".toList
    (lex "= (directorEndpoint) => \x7b const client = new PythonApiClient(directorEndpoint,")
    .blank := .of_chars (by decide +kernel)
  have hcomma : Reads .blank ", ".toList (lex ",") .blank := rfl
  have hclient : Reads .blank ");\n\n  const registration = client.register();\n\n".toList
      (lex "); const registration = client.register();") .blank := .of_chars rfl
  have hreturn : Reads .blank "  return \x7b\n    ".toList (lex "return \x7b") .blank :=
    .of_chars rfl
  have hend : Reads .blank "\n  \x7d;\n\x7d;\n".toList (lex "\x7d; \x7d;") .blank :=
    .of_chars rfl
  have hall := himport.append (reads_package hpackage (hexport.append
    (Reads.word hexportName.isWord (head?_append_of_not_isWordChar (by rfl) _) (hnew.append
      ((Reads.json moduleName.text).append (hcomma.append ((Reads.json source).append
        (hclient.append (htextsReads.append (hreturn.append
          (readsBefore_members hreadable (by rfl) hend)))))))))))
  have hquote : "';\n\nexport const " = "'" ++ ";\n\nexport const " := rfl
  unfold bodyText
  rw [hquote]
  simp only [String.toList_append, -String.reduceToList]
  simpa [factoryOf, Factory.tokens, -String.reduceToList] using hall

/-- The code of a module reads as a factory, if its first line is a comment. -/
theorem tokens?_code (source : String) (hp : plan moduleName functions = .ok p)
    (hpackage : checkRuntimePackage package = .ok ())
    (hname : ∀ c ∈ moduleName.text.toList, c ∉ lineTerminators) :
    ∃ text, code package moduleName source functions = .ok text ∧
      tokens? text = some (factoryOf package moduleName source p).tokens := by
  obtain ⟨texts, htexts, hbody⟩ := reads_bodyText source hp hpackage
  exact ⟨_, code_eq package source hp htexts, tokens?_headerText_append hname hbody⟩

end

/-! ## The declarations of a module -/

section
variable {w : Wrapper} {wrappers : List Wrapper} {moduleName : ModuleName} {package : String}
  {functions : List FunctionSignature} {p : Plan}

/-- A parameter in an alias. -/
def anyMember (name : String) : Member := ⟨name, [.word "any"]⟩

/-- What the alias for the type of a wrapper reads as. -/
def aliasOf (w : Wrapper) : Alias where
  name := typeName w.signature.name
  parameters := (parameterNames w.signature.parameters [] w.signature.parameters).map anyMember

/-- The member of the factory's type for a wrapper. -/
def aliasMember (w : Wrapper) : Member :=
  ⟨w.signature.name, [.word (typeName w.signature.name)]⟩

/-- The members of every factory's type. -/
def clientTypes : List Member :=
  [⟨"client", [.word "PythonApiClient"]⟩, ⟨"registration", lex registrationType⟩]

/-- What the declarations of a module read as. -/
def declarationsOf (package : String) (p : Plan) : Declarations where
  package := package
  aliases := p.wrappers.map aliasOf
  exportName := p.exportName
  members := clientTypes ++ p.wrappers.map aliasMember

/-- The name of a wrapper's type is made of characters of identifiers. -/
theorem isTail_typeName {name : String} (h : IsTail name) : IsTail (typeName name) := by
  have hletters : ∀ c ∈ "Function".toList, isIdentifierTail c = true :=
    List.all_eq_true.1 (by rfl)
  refine ⟨?_, fun c hc => ?_⟩
  · rw [typeName, String.toList_append]
    exact List.append_ne_nil_of_left_ne_nil h.ne_nil _
  · rw [typeName, String.toList_append] at hc
    rcases List.mem_append.1 hc with hc | hc
    · exact h.all c hc
    · exact hletters c hc

/-- The typed parameters of a wrapper are read as those of its alias. -/
theorem readsBefore_typedParameters (h : Readable w) :
    ReadsBefore (typedParameters w.signature.parameters)
      (commas ((aliasOf w).parameters.map Member.tokens)) := by
  have hany : IsWord "any".toList := by decide
  have htext (name : String) : s!"{name}: any" = name ++ ": " ++ "any" := by
    have hcolon : ": any" = ": " ++ "any" := rfl
    simp only [toString, hcolon, String.append_assoc]
  obtain ⟨-, hnames⟩ := @parameterNames_spec w.signature.parameters _ h.parameters []
  have hname : ∀ name ∈ parameterNames w.signature.parameters [] w.signature.parameters,
      ReadsBefore s!"{name}: any" (anyMember name).tokens := by
    intro name hname
    rw [htext]
    exact .member (hnames name hname).isWord (.word hany)
  rw [typedParameters, aliasOf, List.map_map]
  exact .joinWith rfl (by rfl) hname

/-- The text of an alias reads as it. -/
theorem reads_aliasText (h : Readable w) :
    ∃ text, aliasText w = .ok text ∧ Reads .blank text.toList (aliasOf w).tokens .blank := by
  have htext : aliasText w = .ok ("export type " ++ (typeName w.signature.name ++ (" = (" ++
      (typedParameters w.signature.parameters ++
        (") => Promise<ExecuteResponse>;\n" ++ ""))))) := rfl
  refine ⟨_, htext, ?_⟩
  have hexport : Reads .blank "export type ".toList [.word "export", .word "type"] .blank :=
    .of_chars rfl
  have hopen : Reads .blank " = (".toList (lex "= (") .blank := rfl
  have hend : Reads .blank ") => Promise<ExecuteResponse>;\n".toList
      (lex ") => Promise<ExecuteResponse>;") .blank := .of_chars rfl
  have hall := hexport.append (Reads.word (isTail_typeName h.name).isWord
    (head?_append_of_not_isWordChar (by rfl) _)
    (hopen.append (readsBefore_typedParameters h (by rfl) hend)))
  simp only [String.toList_append, -String.reduceToList]
  simpa [aliasOf, Alias.tokens, -String.reduceToList] using hall

/-- The texts of the aliases are written, and they are read as the tokens of the aliases. -/
theorem reads_aliasTexts (h : ∀ w ∈ wrappers, Readable w) :
    ∃ text, aliasTexts wrappers = .ok text ∧
      Reads .blank text.toList ((wrappers.map aliasOf).flatMap Alias.tokens) .blank := by
  induction wrappers with
  | nil => exact ⟨"", rfl, .nil _⟩
  | cons w rest ih =>
    obtain ⟨hw, hrest⟩ := List.forall_mem_cons.1 h
    obtain ⟨front, hfront, hfrontReads⟩ := reads_aliasText hw
    obtain ⟨back, hback, hbackReads⟩ := ih hrest
    refine ⟨front ++ back, ?_, ?_⟩
    · rw [aliasTexts, hfront, hback]
      rfl
    · rw [String.toList_append]
      exact hfrontReads.append hbackReads

/-- The members of the factory's type are read as the shared ones and one for each alias. -/
theorem readsBefore_typedMembers (h : ∀ w ∈ wrappers, Readable w) :
    ReadsBefore (Text.joinWith ",\n  "
      (["client: PythonApiClient", s!"registration: {registrationType}"] ++
        wrappers.map typedMember))
      (commas ((clientTypes ++ wrappers.map aliasMember).map Member.tokens)) := by
  have hclient : ReadsBefore "client: PythonApiClient"
      (Member.tokens ⟨"client", [.word "PythonApiClient"]⟩) := by
    have htext : "client: PythonApiClient" = "client" ++ ": " ++ "PythonApiClient" := rfl
    rw [htext]
    exact .member (by decide) (.word (by decide))
  have htype : Reads .blank registrationType.toList (lex registrationType) .blank :=
    .of_chars rfl
  have hregistration : ReadsBefore s!"registration: {registrationType}"
      (Member.tokens ⟨"registration", lex registrationType⟩) := by
    have htext : s!"registration: {registrationType}" =
        "registration" ++ ": " ++ registrationType := by
      have hcolon : "registration: " = "registration" ++ ": " := rfl
      simp only [toString, hcolon]
    rw [htext]
    exact .member (by decide) (.of_reads htype)
  have hclients : ∀ item ∈ [
      ("client: PythonApiClient", Member.mk "client" [.word "PythonApiClient"]),
      (s!"registration: {registrationType}", ⟨"registration", lex registrationType⟩)],
      ReadsBefore item.1 item.2.tokens :=
    List.forall_mem_cons.2 ⟨hclient, List.forall_mem_singleton.2 hregistration⟩
  have hseparator : Reads .blank ",\n  ".toList [.mark ','] .blank := rfl
  have hmember : ∀ w ∈ wrappers, ReadsBefore (typedMember w) (aliasMember w).tokens :=
    fun w hw => .member (h w hw).name.isWord (.word (isTail_typeName (h w hw).name).isWord)
  have hjoin := ReadsBefore.joinWith_append rfl hseparator hclients hmember
  simp only [List.map_cons, List.map_nil] at hjoin
  rw [List.map_append, List.map_map, clientTypes]
  exact hjoin

/-- The aliases of a module with the line below them. -/
def typesText (aliases : String) : String :=
  if aliases.isEmpty then aliases else aliases ++ "\n"

/-- What stands below the first line of the declarations of a module, with the texts of the
aliases. -/
def typesBodyText (package : String) (p : Plan) (aliases : String) : String :=
  "import \x7b AxiosResponse \x7d from 'axios';\n" ++
  ("import \x7b PythonApiClient, ExecuteResponse, RegisterResponse \x7d from '" ++
  (package ++ ("';\n\n" ++ (typesText aliases ++ ("export declare const " ++ (p.exportName ++
  (": (directorEndpoint: string) => \x7b\n  " ++
  (Text.joinWith ",\n  " (["client: PythonApiClient", s!"registration: {registrationType}"] ++
    p.wrappers.map typedMember) ++ "\n\x7d;\n"))))))))

/-- The declarations of a plan are the header and their body. -/
theorem declarations_eq {aliases : String} (package : String)
    (hp : plan moduleName functions = .ok p) (haliases : aliasTexts p.wrappers = .ok aliases) :
    declarations package moduleName functions =
      .ok (headerText moduleName ++ "\n" ++ typesBodyText package p aliases) := by
  have hdeclarations : declarations package moduleName functions =
      .ok ("// Auto-generated from " ++ (moduleName.text ++ (" by " ++ (generatorName ++
        (("\nimport \x7b AxiosResponse \x7d from 'axios';\n" ++
          "import \x7b PythonApiClient, ExecuteResponse, RegisterResponse \x7d from '") ++
        (package ++ ("';\n\n" ++ (typesText aliases ++ ("export declare const " ++ (p.exportName ++
        (": (directorEndpoint: string) => \x7b\n  " ++
        (Text.joinWith ",\n  " (["client: PythonApiClient", s!"registration: {registrationType}"] ++
          p.wrappers.map typedMember) ++
        ("\n\x7d;\n" ++ ""))))))))))))) := by
    rw [declarations, hp]
    simp only [bind, Except.bind, haliases]
    rfl
  have hline : "\nimport \x7b AxiosResponse \x7d from 'axios';\n" =
      "\n" ++ "import \x7b AxiosResponse \x7d from 'axios';\n" := rfl
  rw [hdeclarations, hline]
  unfold headerText typesBodyText
  simp only [String.append_assoc, String.append_empty, -String.reduceAppend]

/-- What stands below the first line of the declarations of a module reads as the type of a
factory. -/
theorem reads_typesBodyText (hp : plan moduleName functions = .ok p)
    (hpackage : checkRuntimePackage package = .ok ()) :
    ∃ aliases, aliasTexts p.wrappers = .ok aliases ∧
      Reads .blank (typesBodyText package p aliases).toList (declarationsOf package p).tokens
        .blank := by
  have hreadable := readable_of_plan hp
  obtain ⟨aliases, haliases, haliasesReads⟩ := reads_aliasTexts hreadable
  refine ⟨aliases, haliases, ?_⟩
  have htypesReads : Reads .blank (typesText aliases).toList
      ((p.wrappers.map aliasOf).flatMap Alias.tokens) .blank := by
    rw [typesText]
    split
    · exact haliasesReads
    · have hline : Reads .blank "\n".toList [] .blank := rfl
      have hboth := haliasesReads.append hline
      rwa [List.append_nil, ← String.toList_append] at hboth
  have hexportName := isTail_exportName_of_plan hp
  have haxios : Reads .blank "import \x7b AxiosResponse \x7d from 'axios';\n".toList
      (lex "import \x7b AxiosResponse \x7d from 'axios';") .blank := .of_chars rfl
  have himport : Reads .blank
      "import \x7b PythonApiClient, ExecuteResponse, RegisterResponse \x7d from '".toList
      (lex "import \x7b PythonApiClient, ExecuteResponse, RegisterResponse \x7d from")
      (.quoted '\'' []) := .of_chars (by decide +kernel)
  have hline : Reads .blank ";\n\n".toList (lex ";") .blank := rfl
  have hdeclare : Reads .blank "export declare const ".toList (lex "export declare const") .blank :=
    .of_chars rfl
  have hopen : Reads .blank ": (directorEndpoint: string) => \x7b\n  ".toList
      (lex ": (directorEndpoint: string) => \x7b") .blank := .of_chars rfl
  have hend : Reads .blank "\n\x7d;\n".toList (lex "\x7d;") .blank := rfl
  have hall := haxios.append (himport.append (reads_package hpackage
    (hline.append (htypesReads.append (hdeclare.append (Reads.word hexportName.isWord
      (head?_append_of_not_isWordChar (by rfl) _) (hopen.append
        (readsBefore_typedMembers hreadable (by rfl) hend))))))))
  have hquote : "';\n\n" = "'" ++ ";\n\n" := rfl
  unfold typesBodyText
  rw [Declarations.tokens, hquote]
  simp only [String.toList_append, -String.reduceToList]
  simpa [declarationsOf, -String.reduceToList] using hall

/-- The declarations of a module read as the type of a factory, if their first line is a comment. -/
theorem tokens?_declarations (hp : plan moduleName functions = .ok p)
    (hpackage : checkRuntimePackage package = .ok ())
    (hname : ∀ c ∈ moduleName.text.toList, c ∉ lineTerminators) :
    ∃ text, declarations package moduleName functions = .ok text ∧
      tokens? text = some (declarationsOf package p).tokens := by
  obtain ⟨aliases, haliases, hbody⟩ := reads_typesBodyText hp hpackage
  exact ⟨_, declarations_eq package hp haliases, tokens?_headerText_append hname hbody⟩

end

/-! ## Wiring -/

/-- The wrapper takes as many arguments as the function has parameters and calls the function on
them, in their order. -/
def Calls (b : Block) (f : FunctionSignature) : Prop :=
  ∃ message script, b.body = [.guard f.arity message, .script script, .send] ∧
    readCall script = some (f.name, (List.range f.arity).map .argument)

section
variable {w : Wrapper} {moduleName : ModuleName} {package source : String} {withDeclarations : Bool}
  {functions : List FunctionSignature} {generated : GeneratedModule} {p : Plan}

/-- The block of a wrapper calls its function. -/
theorem calls_wrapperBlock (h : IsTail w.signature.name) : Calls (wrapperBlock w) w.signature := by
  have hbracket : '(' ∉ w.signature.name.toList := by
    intro hmem
    have hc := h.all _ hmem
    rw [isIdentifierTail_of_ascii (by decide)] at hc
    cases hc
  exact ⟨_, _, rfl, readCall_callParts hbracket _⟩

/-- What is found by a key that no other item has. -/
theorem filter_key_eq_singleton {key : α → String} {xs : List α} {x : α} (h : (xs.map key).Nodup)
    (hx : x ∈ xs) : xs.filter (fun y => key y = key x) = [x] := by
  induction xs with
  | nil => cases hx
  | cons y ys ih =>
    obtain ⟨hy, hys⟩ := List.nodup_cons.1 h
    cases hx with
    | head =>
      have hnone : ys.filter (fun z => key z = key x) = [] := by
        refine List.filter_eq_nil_iff.2 fun z hz => ?_
        rw [decide_eq_true_iff]
        exact fun he => hy (he ▸ List.mem_map_of_mem hz)
      rw [List.filter_cons, if_pos (decide_eq_true rfl), hnone]
    | tail _ hx =>
      have hne : key y ≠ key x := fun he => hy (he ▸ List.mem_map_of_mem hx)
      rw [List.filter_cons_of_neg (by rwa [decide_eq_true_iff]), ih hys hx]

/-- What is generated was planned. -/
theorem exists_plan_of_generate
    (h : generate package moduleName source functions withDeclarations = .ok generated) :
    ∃ p, plan moduleName functions = .ok p := by
  obtain ⟨text, htext, -⟩ := exists_of_bind_ok h
  obtain ⟨p, hp, -⟩ := exists_of_bind_ok htext
  exact ⟨p, hp⟩

/-- The keys of the factory's object are the shared ones and then the functions in their order. -/
theorem keys_factoryOf (hp : plan moduleName functions = .ok p) :
    (factoryOf package moduleName source p).members.map (·.key) =
      "client" :: "registration" :: functions.map (·.name) := by
  rw [← map_signature_of_plan hp]
  simp [factoryOf, clientMembers, sharedMember, wrapperMember]

/-- The keys of the factory's type are the shared ones and then the functions in their order. -/
theorem keys_declarationsOf (hp : plan moduleName functions = .ok p) :
    (declarationsOf package p).members.map (·.key) =
      "client" :: "registration" :: functions.map (·.name) := by
  rw [← map_signature_of_plan hp]
  simp [declarationsOf, clientTypes, aliasMember]

/-- No function has the name of another member or of another function. -/
theorem nodup_keys (hp : plan moduleName functions = .ok p)
    (hnodup : (functions.map (·.name)).Nodup) :
    ("client" :: "registration" :: functions.map (·.name)).Nodup := by
  have hmember : ∀ name ∈ clientMembers, name ∉ functions.map (·.name) := by
    intro name hname hmem
    rw [← map_signature_of_plan hp, List.map_map] at hmem
    obtain ⟨w, hw, rfl⟩ := List.mem_map.1 hmem
    exact (checkSignature_eq_ok_iff.1 (wrapper_of_plan hp hw).1).2.1 hname
  refine List.nodup_cons.2 ⟨?_, List.nodup_cons.2 ⟨hmember "registration" (by decide), hnodup⟩⟩
  rw [List.mem_cons, not_or]
  exact ⟨by decide, hmember "client" (by decide)⟩

/-- The values in the factory's object are words and angle brackets. -/
theorem isValueToken_of_mem_factoryOf (package : String) (moduleName : ModuleName) (source : String)
    (p : Plan) : ∀ m ∈ (factoryOf package moduleName source p).members, ∀ t ∈ m.value,
      isValueToken t = true := by
  intro m hm t ht
  rw [factoryOf, List.mem_append, List.mem_map, List.mem_map] at hm
  rcases hm with ⟨name, -, rfl⟩ | ⟨w, -, rfl⟩
  · rw [List.mem_singleton.1 ht]
    rfl
  · rw [List.mem_singleton.1 ht]
    rfl

/-- A factory is read back from its tokens. -/
theorem readFactory_factoryOf (package : String) (moduleName : ModuleName) (source : String)
    (p : Plan) : readFactory (factoryOf package moduleName source p).tokens =
      some (factoryOf package moduleName source p) :=
  readFactory_tokens _ (List.cons_ne_nil _ _) (isValueToken_of_mem_factoryOf _ _ _ _)

/-- Declarations are read back from their tokens. -/
theorem readDeclarations_declarationsOf (package : String) (p : Plan) :
    readDeclarations (declarationsOf package p).tokens = some (declarationsOf package p) := by
  refine readDeclarations_tokens _ (List.cons_ne_nil _ _) (fun m hm t ht => ?_)
    fun a ha m hm t ht => ?_
  · rw [declarationsOf, List.mem_append, List.mem_map] at hm
    rcases hm with hm | ⟨w, -, rfl⟩
    · revert t
      revert m
      decide +kernel
    · rw [List.mem_singleton.1 ht]
      rfl
  · obtain ⟨w, -, rfl⟩ := List.mem_map.1 ha
    obtain ⟨name, -, rfl⟩ := List.mem_map.1 hm
    rw [List.mem_singleton.1 ht]
    rfl

/-- What is generated for a plan reads as its factory and as the type of its factory. -/
theorem generate_of_plan (source : String) (hp : plan moduleName functions = .ok p)
    (hpackage : checkRuntimePackage package = .ok ())
    (hname : ∀ c ∈ moduleName.text.toList, c ∉ lineTerminators) :
    ∃ text types, generate package moduleName source functions true = .ok ⟨text, some types⟩ ∧
      (tokens? text).bind readFactory = some (factoryOf package moduleName source p) ∧
      (tokens? types).bind readDeclarations = some (declarationsOf package p) := by
  obtain ⟨text, htext, htextTokens⟩ := tokens?_code source hp hpackage hname
  obtain ⟨types, htypes, htypesTokens⟩ := tokens?_declarations hp hpackage hname
  refine ⟨text, types, ?_, ?_, ?_⟩
  · rw [generate, htext]
    simp only [bind, Except.bind, if_true, htypes]
    rfl
  · rw [htextTokens, Option.bind_some, readFactory_factoryOf]
  · rw [htypesTokens, Option.bind_some, readDeclarations_declarationsOf]

/-- The function of a plan is found by its key in what the code of the module gives. -/
theorem exists_block_of_mem (hp : plan moduleName functions = .ok p)
    (hnodup : (functions.map (·.name)).Nodup) {f : FunctionSignature} (hf : f ∈ functions) :
    ∃ block, Calls block f ∧
      (factoryOf package moduleName source p).members.filter (·.key = f.name) =
        [⟨f.name, [.word block.binding]⟩] ∧
      (factoryOf package moduleName source p).blocks.filter (·.binding = block.binding) =
        [block] := by
  rw [← map_signature_of_plan hp] at hf
  obtain ⟨w, hw, rfl⟩ := List.mem_map.1 hf
  have hmember : wrapperMember w ∈ (factoryOf package moduleName source p).members :=
    List.mem_append_right _ (List.mem_map_of_mem hw)
  have hblock : wrapperBlock w ∈ (factoryOf package moduleName source p).blocks :=
    List.mem_map_of_mem hw
  have hkeys : ((factoryOf package moduleName source p).members.map (·.key)).Nodup := by
    rw [keys_factoryOf hp]
    exact nodup_keys hp hnodup
  have hbindings : ((factoryOf package moduleName source p).blocks.map (·.binding)).Nodup := by
    have hsame : (factoryOf package moduleName source p).blocks.map (·.binding) =
        p.wrappers.map (·.binding) := by
      rw [factoryOf, List.map_map]
      rfl
    rw [hsame]
    exact nodup_bindings_of_plan hp hnodup
  exact ⟨wrapperBlock w, calls_wrapperBlock (readable_of_plan hp w hw).name,
    filter_key_eq_singleton hkeys hmember, filter_key_eq_singleton hbindings hblock⟩

/-- The function of a plan is found by its key in the declarations of the module. -/
theorem exists_alias_of_mem (hp : plan moduleName functions = .ok p)
    (hnodup : (functions.map (·.name)).Nodup) {f : FunctionSignature} (hf : f ∈ functions) :
    ∃ type : Alias, type.name = f.name ++ "Function" ∧ type.parameters.length = f.arity ∧
      (declarationsOf package p).members.filter (·.key = f.name) =
        [⟨f.name, [.word type.name]⟩] ∧
      (declarationsOf package p).aliases.filter (·.name = type.name) = [type] := by
  rw [← map_signature_of_plan hp] at hf
  obtain ⟨w, hw, rfl⟩ := List.mem_map.1 hf
  have hmember : aliasMember w ∈ (declarationsOf package p).members :=
    List.mem_append_right _ (List.mem_map_of_mem hw)
  have hkeys : ((declarationsOf package p).members.map (·.key)).Nodup := by
    rw [keys_declarationsOf hp]
    exact nodup_keys hp hnodup
  have haliases : ((declarationsOf package p).aliases.map (·.name)).Nodup := by
    have hsame : (declarationsOf package p).aliases.map (·.name) =
        (functions.map (·.name)).map typeName := by
      rw [← map_signature_of_plan hp, declarationsOf, List.map_map, List.map_map, List.map_map]
      rfl
    rw [hsame]
    refine List.Pairwise.map typeName (fun a b hne he => hne ?_) hnodup
    rw [typeName, typeName, ← String.toList_inj, String.toList_append, String.toList_append] at he
    exact String.toList_inj.1 (List.append_cancel_right he)
  obtain ⟨hlength, -⟩ := @parameterNames_spec w.signature.parameters _
    (readable_of_plan hp w hw).parameters []
  refine ⟨aliasOf w, rfl, ?_, filter_key_eq_singleton hkeys hmember,
    filter_key_eq_singleton haliases (List.mem_map_of_mem hw)⟩
  rw [aliasOf, List.length_map, hlength]
  rfl

/-- What is generated for functions with different names is wired right. The code reads as a factory
with one wrapper for each function, in order, whose object has the keys of the client and then those
of the functions. The value of a function's key is bound by one wrapper, which calls that function
on as many arguments as it has parameters. The declarations export the same name with the same keys,
and the type of a function's key is declared once, with as many parameters as the function has.
Reference: `generate_code`, `generate_declarations`. -/
theorem generate_wired
    (hpackage : checkRuntimePackage package = .ok ())
    (hname : ∀ c ∈ moduleName.text.toList, c ∉ lineTerminators)
    (hnodup : (functions.map (·.name)).Nodup)
    (h : generate package moduleName source functions true = .ok generated) :
    ∃ factory types declared,
      (tokens? generated.code).bind readFactory = some factory ∧
      generated.typeDeclarations = some types ∧
      (tokens? types).bind readDeclarations = some declared ∧
      List.Forall₂ Calls factory.blocks functions ∧
      factory.members.map (·.key) = "client" :: "registration" :: functions.map (·.name) ∧
      (∀ f ∈ functions, ∃ block, Calls block f ∧
        factory.members.filter (·.key = f.name) = [⟨f.name, [.word block.binding]⟩] ∧
        factory.blocks.filter (·.binding = block.binding) = [block]) ∧
      declared.exportName = factory.exportName ∧
      declared.members.map (·.key) = factory.members.map (·.key) ∧
      ∀ f ∈ functions, ∃ type : Alias, type.name = f.name ++ "Function" ∧
        type.parameters.length = f.arity ∧
        declared.members.filter (·.key = f.name) = [⟨f.name, [.word type.name]⟩] ∧
        declared.aliases.filter (·.name = type.name) = [type] := by
  obtain ⟨p, hp⟩ := exists_plan_of_generate h
  obtain ⟨text, types, hgenerate, hfactory, hdeclared⟩ :=
    generate_of_plan source hp hpackage hname
  cases Except.ok.inj (h.symm.trans hgenerate)
  refine ⟨factoryOf package moduleName source p, types, declarationsOf package p, hfactory, rfl,
    hdeclared, ?_, keys_factoryOf hp, fun f hf => exists_block_of_mem hp hnodup hf, rfl, ?_,
    fun f hf => exists_alias_of_mem hp hnodup hf⟩
  · rw [← map_signature_of_plan hp, factoryOf, List.forall₂_map_left_iff,
      List.forall₂_map_right_iff, List.forall₂_same]
    exact fun w hw => calls_wrapperBlock (readable_of_plan hp w hw).name
  · rw [keys_declarationsOf hp, keys_factoryOf hp]

/-- A function whose name is reserved keeps it as its key, and the wrapper found there calls it. -/
theorem generate_wired_delete :
    ∃ generated factory types declared block,
      generate "runtime" ⟨"m"⟩ "" [⟨"delete", ["key"]⟩, ⟨"get", []⟩] true = .ok generated ∧
      (tokens? generated.code).bind readFactory = some factory ∧
      factory.members.map (·.key) = ["client", "registration", "delete", "get"] ∧
      factory.members.filter (·.key = "delete") = [⟨"delete", [.word block.binding]⟩] ∧
      factory.blocks.filter (·.binding = block.binding) = [block] ∧
      Calls block ⟨"delete", ["key"]⟩ ∧
      generated.typeDeclarations = some types ∧
      (tokens? types).bind readDeclarations = some declared ∧
      declared.exportName = factory.exportName ∧
      declared.members.map (·.key) = factory.members.map (·.key) := by
  have hpackage : checkRuntimePackage "runtime" = .ok () := rfl
  have hname : ∀ c ∈ "m".toList, c ∉ lineTerminators := List.forall_mem_singleton.2 (by decide)
  have hplan : plan ⟨"m"⟩ [⟨"delete", ["key"]⟩, ⟨"get", []⟩] =
      .ok ⟨"m", [⟨⟨"delete", ["key"]⟩, "delete_"⟩, ⟨⟨"get", []⟩, "get"⟩]⟩ := rfl
  obtain ⟨text, types, hgenerate, -, -⟩ := generate_of_plan "" hplan hpackage hname
  obtain ⟨factory, types, declared, hfactory, htypes, hdeclared, -, hkeys, hblocks, hexport, hsame,
    -⟩ := generate_wired hpackage hname (by decide) hgenerate
  obtain ⟨block, hcalls, hmember, hblock⟩ := hblocks ⟨"delete", ["key"]⟩ List.mem_cons_self
  exact ⟨_, factory, types, declared, block, hgenerate, hfactory, hkeys, hmember, hblock, hcalls,
    htypes, hdeclared, hexport, hsame⟩

end

end ModuleBridge.Generation
