import ModuleBridge.Proofs.JavaScript.Wrapper

/-!
# Modules

A generated module is read as a factory of sessions: what it imports, what it is called, its
wrappers and the members of the object it gives. The declarations of a module are read as the
aliases for the types of functions and the members of the factory's type.
-/

namespace ModuleBridge.JavaScript

/-! ## Factories -/

/-- A module that exports a factory. -/
structure Factory where
  /-- The package it imports. -/
  package : String
  exportName : String
  /-- The name of the module that sessions run. -/
  moduleName : String
  /-- The source that sessions run. -/
  source : String
  blocks : List Block
  /-- The members of the object that the factory gives. -/
  members : List Member
  deriving DecidableEq, Repr

/-- The tokens of a factory. -/
def Factory.tokens (f : Factory) : List Token :=
  lex "import \x7b PythonApiClient \x7d from" ++ .literal f.package ::
    (lex "; export const" ++ .word f.exportName ::
      (lex "= (directorEndpoint) => \x7b const client = new PythonApiClient(directorEndpoint," ++
        .literal f.moduleName :: (lex "," ++ .literal f.source ::
          (lex "); const registration = client.register();" ++
            (f.blocks.flatMap Block.tokens ++ (lex "return \x7b" ++
              (commas (f.members.map Member.shortTokens) ++ lex "\x7d; \x7d;")))))))

/-- Reads a factory. -/
def readFactory (ts : List Token) : Option Factory := do
  let ts ← expect (lex "import \x7b PythonApiClient \x7d from") ts
  let (package, ts) ← literal ts
  let ts ← expect (lex "; export const") ts
  let (exportName, ts) ← word ts
  let ts ← expect
    (lex "= (directorEndpoint) => \x7b const client = new PythonApiClient(directorEndpoint,") ts
  let (moduleName, ts) ← literal ts
  let ts ← expect (lex ",") ts
  let (source, ts) ← literal ts
  let ts ← expect (lex "); const registration = client.register();") ts
  let (blocks, ts) := many readBlock ts.length ts
  let ts ← expect (lex "return \x7b") ts
  let (members, ts) ← listed readMember ts.length ts
  if ts = lex "\x7d; \x7d;" then
    some ⟨package, exportName, moduleName, source, blocks, members⟩
  else none

/-- A factory is read back from its tokens. -/
theorem readFactory_tokens (f : Factory) (hne : f.members ≠ [])
    (hvalue : ∀ m ∈ f.members, ∀ t ∈ m.value, isValueToken t = true) :
    readFactory f.tokens = some f := by
  have hclose : lex "\x7d; \x7d;" = [.mark '}', .mark ';', .mark '}', .mark ';'] := rfl
  have hstops : Stops (lex "\x7d; \x7d;") := by rw [hclose]; exact .inr (.inl rfl)
  have hcomma (us : List Token) : lex "\x7d; \x7d;" ≠ .mark ',' :: us := by
    rw [hclose]
    exact mark_ne_comma (by decide)
  have hmembers := listed_commas
    (fun m hm _ hts => Member.readMember_shortTokens (hvalue m hm) hts)
    (fun m _ => m.shortTokens_ne_nil) hne hstops hcomma
  have hreturn : lex "return \x7b" = [.word "return", .mark '{'] := rfl
  obtain ⟨inner, hinner⟩ : ∃ inner,
      inner = lex "return \x7b" ++
        (commas (f.members.map Member.shortTokens) ++ lex "\x7d; \x7d;") := ⟨_, rfl⟩
  have hend : readBlock inner = none := by rw [hinner, hreturn]; rfl
  have hends : inner ≠ [] := by rw [hinner, hreturn]; exact List.cons_ne_nil _ _
  have hblocks : many readBlock (f.blocks.flatMap Block.tokens ++ inner).length
      (f.blocks.flatMap Block.tokens ++ inner) = (f.blocks, inner) :=
    many_flatMap (fun b _ => readBlock_tokens b) (fun _ _ => List.cons_ne_nil _ _) hend hends
  simp only [Factory.tokens, readFactory, ← hinner, literal_cons, word_cons, expect_append,
    Option.bind_eq_bind, Option.bind_some, hblocks]
  rw [hinner]
  simp only [expect_append, Option.bind_some, hmembers, if_true]

/-! ## Declarations -/

/-- An alias for the type of a function. -/
structure Alias where
  name : String
  parameters : List Member
  deriving DecidableEq, Repr

/-- The tokens of an alias. -/
def Alias.tokens (a : Alias) : List Token :=
  .word "export" :: .word "type" :: .word a.name :: (lex "= (" ++
    (commas (a.parameters.map Member.tokens) ++ lex ") => Promise<ExecuteResponse>;"))

/-- Takes the parameters of a function type. There may be none. -/
def readParameters : List Token → Option (List Member × List Token)
  | .mark ')' :: ts => some ([], .mark ')' :: ts)
  | ts => listed readMember ts.length ts

/-- Takes an alias. -/
def readAlias : List Token → Option (Alias × List Token)
  | .word "export" :: .word "type" :: ts => do
    let (name, ts) ← word ts
    let ts ← expect (lex "= (") ts
    let (parameters, ts) ← readParameters ts
    let ts ← expect (lex ") => Promise<ExecuteResponse>;") ts
    return (⟨name, parameters⟩, ts)
  | _ => none

/-- The declarations of a module. -/
structure Declarations where
  package : String
  aliases : List Alias
  exportName : String
  /-- The members of the type of what the factory gives. -/
  members : List Member
  deriving DecidableEq, Repr

/-- The tokens of declarations. -/
def Declarations.tokens (d : Declarations) : List Token :=
  lex "import \x7b AxiosResponse \x7d from 'axios';" ++
    (lex "import \x7b PythonApiClient, ExecuteResponse, RegisterResponse \x7d from" ++
      .literal d.package :: (lex ";" ++ (d.aliases.flatMap Alias.tokens ++
        (lex "export declare const" ++ .word d.exportName ::
          (lex ": (directorEndpoint: string) => \x7b" ++
            (commas (d.members.map Member.tokens) ++ lex "\x7d;"))))))

/-- Reads declarations. -/
def readDeclarations (ts : List Token) : Option Declarations := do
  let ts ← expect (lex "import \x7b AxiosResponse \x7d from 'axios';") ts
  let ts ← expect
    (lex "import \x7b PythonApiClient, ExecuteResponse, RegisterResponse \x7d from") ts
  let (package, ts) ← literal ts
  let ts ← expect (lex ";") ts
  let (aliases, ts) := many readAlias ts.length ts
  let ts ← expect (lex "export declare const") ts
  let (exportName, ts) ← word ts
  let ts ← expect (lex ": (directorEndpoint: string) => \x7b") ts
  let (members, ts) ← listed readMember ts.length ts
  if ts = lex "\x7d;" then some ⟨package, aliases, exportName, members⟩ else none

/-- An alias is read back from its tokens. -/
theorem readAlias_tokens {a : Alias}
    (hvalue : ∀ m ∈ a.parameters, ∀ t ∈ m.value, isValueToken t = true) (ts : List Token) :
    readAlias (a.tokens ++ ts) = some (a, ts) := by
  have hlex : lex ") => Promise<ExecuteResponse>;" =
      .mark ')' :: lex "=> Promise<ExecuteResponse>;" := by rfl
  obtain ⟨rest, hrest⟩ : ∃ rest, rest = lex ") => Promise<ExecuteResponse>;" ++ ts := ⟨_, rfl⟩
  have hparameters : readParameters (commas (a.parameters.map Member.tokens) ++ rest) =
      some (a.parameters, rest) := by
    cases hp : a.parameters with
    | nil =>
      rw [List.map_nil, commas, List.nil_append, hrest, hlex]
      rfl
    | cons m ms =>
      rw [← hp]
      have hstops : Stops rest := by rw [hrest, hlex]; exact .inr (.inr rfl)
      have hcomma (us : List Token) : rest ≠ .mark ',' :: us := by
        rw [hrest, hlex]
        exact mark_ne_comma (by decide)
      have hlisted := listed_commas
        (fun m hm _ hts => Member.readMember_tokens (hvalue m hm) hts)
        (fun m _ => m.tokens_ne_nil) (by rw [hp]; exact List.cons_ne_nil _ _) hstops hcomma
      obtain ⟨key, more, hmore⟩ : ∃ key more,
          commas (a.parameters.map Member.tokens) ++ rest = .word key :: more := by
        rw [hp]
        cases ms with
        | nil => exact ⟨m.key, _, rfl⟩
        | cons m' ms => exact ⟨m.key, _, rfl⟩
      rw [hmore] at hlisted ⊢
      exact hlisted
  simp only [Alias.tokens, readAlias, List.cons_append, List.append_assoc, ← hrest, word_cons,
    expect_append, Option.bind_eq_bind, Option.bind_some, hparameters]
  rw [hrest]
  simp only [expect_append, Option.bind_some]
  rfl

/-- Declarations are read back from their tokens. -/
theorem readDeclarations_tokens (d : Declarations) (hne : d.members ≠ [])
    (hvalue : ∀ m ∈ d.members, ∀ t ∈ m.value, isValueToken t = true)
    (hparameters : ∀ a ∈ d.aliases, ∀ m ∈ a.parameters, ∀ t ∈ m.value, isValueToken t = true) :
    readDeclarations d.tokens = some d := by
  have hstops : Stops (lex "\x7d;") := by rw [lex_end]; exact .inr (.inl rfl)
  have hcomma (us : List Token) : lex "\x7d;" ≠ .mark ',' :: us := by
    rw [lex_end]
    exact mark_ne_comma (by decide)
  have hmembers := listed_commas (fun m hm _ hts => Member.readMember_tokens (hvalue m hm) hts)
    (fun m _ => m.tokens_ne_nil) hne hstops hcomma
  have hdeclare : lex "export declare const" =
      [.word "export", .word "declare", .word "const"] := rfl
  obtain ⟨inner, hinner⟩ : ∃ inner, inner = lex "export declare const" ++ .word d.exportName ::
      (lex ": (directorEndpoint: string) => \x7b" ++
        (commas (d.members.map Member.tokens) ++ lex "\x7d;")) := ⟨_, rfl⟩
  have hend : readAlias inner = none := by rw [hinner, hdeclare]; rfl
  have hends : inner ≠ [] := by rw [hinner, hdeclare]; exact List.cons_ne_nil _ _
  have haliases : many readAlias (d.aliases.flatMap Alias.tokens ++ inner).length
      (d.aliases.flatMap Alias.tokens ++ inner) = (d.aliases, inner) :=
    many_flatMap (fun a ha => readAlias_tokens (hparameters a ha)) (fun _ _ => List.cons_ne_nil _ _)
      hend hends
  simp only [Declarations.tokens, readDeclarations, ← hinner, literal_cons, expect_append,
    Option.bind_eq_bind, Option.bind_some, haliases]
  rw [hinner]
  simp only [expect_append, word_cons, Option.bind_some, hmembers, if_true]

end ModuleBridge.JavaScript
