import ModuleBridge.Generation.Identifier
import ModuleBridge.Proofs.JavaScript.Module

/-!
# Names and their scopes

A name in the body of a wrapper means what the innermost scope around it declares under that name:
the body itself, the arguments, the body of the factory, its parameter, the module, and the global
object if none of them does. What a body declares is counted in its tokens, brace by brace
(`constantsAt`), and what a wrapper mentions is found in its tokens and in the holes of its template
literals (`mentioned`). So both are facts about generated code and not about how it was made.
-/

namespace ModuleBridge.JavaScript

/-! ## Declarations -/

/-- The names that `const` declares at a level of braces. The tokens begin at a depth, and perhaps
right after a `const`. -/
def constantsAt (level depth : Nat) (isDeclared : Bool) : List Token → List String
  | [] => []
  | .word name :: ts =>
    (if isDeclared && depth = level then [name] else []) ++
      constantsAt level depth (name = "const") ts
  | .mark c :: ts =>
    constantsAt level (if c = '\x7b' then depth + 1 else if c = '\x7d' then depth - 1 else depth)
      false ts
  | .literal _ :: ts | .template _ :: ts => constantsAt level depth false ts

/-- The names that a statement declares. -/
def Statement.constants : Statement → List String
  | .script _ => ["script"]
  | .guard .. | .send => []

/-- Is the token a brace? -/
def isBrace : Token → Bool
  | .mark c => c = '\x7b' || c = '\x7d'
  | _ => false

section
variable {level depth : Nat} {ts us : List Token} {c : Char}

/-! The code between the parts of a statement that vary. -/

theorem lex_arguments : lex "(args.length !==" =
    [.mark '(', .word "args", .mark '.', .word "length", .mark '!', .mark '=', .mark '='] := rfl

theorem lex_throw : lex ") \x7b throw new Error(" =
    [.mark ')', .mark '\x7b', .word "throw", .word "new", .word "Error", .mark '('] := rfl

theorem lex_thrown : lex "); \x7d" = [.mark ')', .mark ';', .mark '\x7d'] := rfl

theorem lex_script : lex "script =" = [.word "script", .mark '='] := rfl

theorem lex_semicolon : lex ";" = [.mark ';'] := rfl

theorem lex_send : lex "client.executeScript(script);" = [.word "client", .mark '.',
    .word "executeScript", .mark '(', .word "script", .mark ')', .mark ';'] := rfl

/-- At another depth than the level nothing is declared before the next brace. -/
theorem constantsAt_append_of_ne (hlevel : depth ≠ level) (h : ∀ t ∈ ts, isBrace t = false)
    (isDeclared : Bool) :
    constantsAt level depth isDeclared (ts ++ .mark c :: us) =
      constantsAt level depth false (.mark c :: us) := by
  induction ts generalizing isDeclared with
  | nil => rfl
  | cons t ts ih =>
    obtain ⟨ht, hts⟩ := List.forall_mem_cons.1 h
    cases t with
    | word name => simp [constantsAt, hlevel, ih hts]
    | mark d =>
      simp only [isBrace, Bool.or_eq_false_iff, decide_eq_false_iff_not] at ht
      simp [constantsAt, ht.1, ht.2, ih hts]
    | literal value => simp [constantsAt, ih hts]
    | template parts => simp [constantsAt, ih hts]

/-- The constants of a level go on behind those of a statement. -/
theorem constantsAt_statement (s : Statement) (ts : List Token) :
    constantsAt level depth false (s.tokens ++ ts) =
      (if depth = level then s.constants else []) ++ constantsAt level depth false ts := by
  cases s with
  | guard count message =>
    simp [Statement.tokens, Statement.constants, lex_arguments, lex_throw, lex_thrown, constantsAt]
  | script parts =>
    simp [Statement.tokens, Statement.constants, lex_script, lex_semicolon, constantsAt]
  | send => simp [Statement.tokens, Statement.constants, lex_send, constantsAt]

/-- The constants of a level go on behind those of a body. -/
theorem constantsAt_body (body : List Statement) (ts : List Token) :
    constantsAt level depth false (body.flatMap Statement.tokens ++ ts) =
      (if depth = level then body.flatMap Statement.constants else []) ++
        constantsAt level depth false ts := by
  induction body with
  | nil => simp
  | cons s body ih =>
    rw [List.flatMap_cons, List.append_assoc, constantsAt_statement, ih, List.flatMap_cons]
    split <;> simp

/-- A wrapper declares its binding around it and what its statements declare in its body. -/
theorem constantsAt_block (b : Block) (ts : List Token) :
    constantsAt level depth false (b.tokens ++ ts) =
      (if depth = level then [b.binding] else []) ++
        ((if depth + 1 = level then b.body.flatMap Statement.constants else []) ++
          constantsAt level depth false ts) := by
  have hopen : lex "= (...args) => \x7b" = [.mark '=', .mark '(', .mark '.', .mark '.', .mark '.',
      .word "args", .mark ')', .mark '=', .mark '>', .mark '\x7b'] := rfl
  rw [Block.tokens, hopen, lex_end]
  simp [constantsAt, constantsAt_body]

/-- The constants of a level go on behind the bindings of blocks. -/
theorem constantsAt_blocks (hlevel : level ≤ depth) (bs : List Block) (ts : List Token) :
    constantsAt level depth false (bs.flatMap Block.tokens ++ ts) =
      (if depth = level then bs.map (·.binding) else []) ++ constantsAt level depth false ts := by
  induction bs with
  | nil => simp
  | cons b bs ih =>
    have hbody : depth + 1 ≠ level := by omega
    rw [List.flatMap_cons, List.append_assoc, constantsAt_block, ih, if_neg hbody]
    split <;> simp

/-- Commas bring no braces between tokens without braces. -/
theorem isBrace_commas {xs : List (List Token)} (h : ∀ ts ∈ xs, ∀ t ∈ ts, isBrace t = false) :
    ∀ t ∈ commas xs, isBrace t = false := by
  induction xs with
  | nil => exact nofun
  | cons ts rest ih =>
    obtain ⟨hts, hrest⟩ := List.forall_mem_cons.1 h
    cases rest with
    | nil => exact hts
    | cons us rest =>
      intro t ht
      rw [commas, List.mem_append, List.mem_cons] at ht
      · rcases ht with ht | rfl | ht
        · exact hts t ht
        · rfl
        · exact ih hrest t ht
      · exact List.cons_ne_nil us rest

/-- A member has no braces if its value has none. -/
theorem isBrace_shortTokens {m : Member} (h : ∀ t ∈ m.value, isValueToken t = true) :
    ∀ t ∈ m.shortTokens, isBrace t = false := by
  have hvalue : ∀ t ∈ m.value, isBrace t = false := by
    intro t ht
    have hvt := h t ht
    match t, hvt with
    | .word _, _ => rfl
    | .mark c, hc =>
      simp only [isValueToken, Bool.or_eq_true, decide_eq_true_iff] at hc
      rcases hc with rfl | rfl <;> rfl
  intro t ht
  unfold Member.shortTokens at ht
  split at ht
  · rw [List.mem_singleton.1 ht]
    rfl
  · rw [Member.tokens, List.mem_cons, List.mem_cons] at ht
    rcases ht with rfl | rfl | ht
    · rfl
    · rfl
    · exact hvalue t ht

end

section
variable {f : Factory}

/-- What is declared in a module and in its factory, above the wrappers' own bodies. -/
theorem constantsAt_factory {level : Nat} (hlevel : level ≤ 1)
    (hvalue : ∀ m ∈ f.members, ∀ t ∈ m.value, isValueToken t = true) :
    constantsAt level 0 false f.tokens =
      if level = 0 then [f.exportName]
      else "client" :: "registration" :: f.blocks.map (·.binding) := by
  have himport : lex "import \x7b PythonApiClient \x7d from" =
      [.word "import", .mark '\x7b', .word "PythonApiClient", .mark '\x7d', .word "from"] := rfl
  have hexport : lex "; export const" = [.mark ';', .word "export", .word "const"] := rfl
  have hclient :
      lex "= (directorEndpoint) => \x7b const client = new PythonApiClient(directorEndpoint," =
      [.mark '=', .mark '(', .word "directorEndpoint", .mark ')', .mark '=', .mark '>',
        .mark '\x7b', .word "const", .word "client", .mark '=', .word "new",
        .word "PythonApiClient", .mark '(', .word "directorEndpoint", .mark ','] := by
    decide +kernel
  have hcomma : lex "," = [.mark ','] := rfl
  have hregistration : lex "); const registration = client.register();" =
      [.mark ')', .mark ';', .word "const", .word "registration", .mark '=', .word "client",
        .mark '.', .word "register", .mark '(', .mark ')', .mark ';'] := rfl
  have hreturn : lex "return \x7b" = [.word "return", .mark '\x7b'] := rfl
  have hclose : lex "\x7d; \x7d;" = [.mark '\x7d', .mark ';', .mark '\x7d', .mark ';'] := rfl
  have hbraces : ∀ t ∈ commas (f.members.map Member.shortTokens), isBrace t = false := by
    refine isBrace_commas fun ts hts => ?_
    obtain ⟨m, hm, rfl⟩ := List.mem_map.1 hts
    exact isBrace_shortTokens (hvalue m hm)
  have hmembers (us : List Token) (isDeclared : Bool) :
      constantsAt level 2 isDeclared
          (commas (f.members.map Member.shortTokens) ++ .mark '\x7d' :: us) =
        constantsAt level 2 false (.mark '\x7d' :: us) :=
    constantsAt_append_of_ne (by omega) hbraces isDeclared
  rw [Factory.tokens, himport, hexport, hclient, hcomma, hregistration, hreturn, hclose]
  rcases Nat.le_one_iff_eq_zero_or_eq_one.1 hlevel with rfl | rfl
  · simp [constantsAt, constantsAt_blocks, hmembers]
  · simp [constantsAt, constantsAt_blocks, hmembers]

end

/-! ## Mentions -/

/-- Is the word a name, and neither a reserved word nor a number? -/
def isName (word : String) : Bool :=
  !Generation.isReservedWord word && !word.toList.head?.any Char.isDigit

/-- The names among some tokens, perhaps right after a dot. What stands after a dot is no name but a
member of what stands before it. -/
def namesIn (isMember : Bool) : List Token → List String
  | [] => []
  | .word name :: ts => (if !isMember && isName name then [name] else []) ++ namesIn false ts
  | .mark c :: ts => namesIn (c = '.') ts
  | .literal _ :: ts | .template _ :: ts => namesIn false ts

/-- The names in the holes of a template literal. -/
def namesInHoles (parts : List Part) : List String :=
  (holes parts).flatMap fun code => namesIn false (lex (String.ofList code))

/-- The names in the holes of a token. -/
def Token.namesInHoles : Token → List String
  | .template parts => JavaScript.namesInHoles parts
  | .word _ | .mark _ | .literal _ => []

/-- The names that a statement mentions, also in the holes of its template literal. -/
def Statement.mentioned (s : Statement) : List String :=
  namesIn false s.tokens ++ s.tokens.flatMap Token.namesInHoles

/-- The names that the body of a wrapper mentions. -/
def Block.mentioned (b : Block) : List String :=
  b.body.flatMap Statement.mentioned

/-- A numeral is no name. -/
theorem isName_numeral (n : Nat) : isName (numeral n) = false := by
  obtain ⟨c, cs, hdigits⟩ := List.exists_cons_of_ne_nil (isWord_natDigits n).ne_nil
  have hc : c.isDigit = true := by
    refine Nat.isDigit_of_mem_toDigits (b := 10) (n := n) (by decide) (by decide) ?_
    rw [← Decimal.natDigits, hdigits]
    exact List.mem_cons_self
  rw [isName, numeral, String.toList_ofList, hdigits]
  simp [hc]

/-- A guard mentions the arguments, the error that it throws and what its message mentions. -/
theorem mentioned_guard (count : Nat) (message : List Part) :
    (Statement.guard count message).mentioned = "args" :: "Error" :: namesInHoles message := by
  have hnames : isName "args" = true ∧ isName "Error" = true ∧ isName "if" = false ∧
      isName "throw" = false ∧ isName "new" = false := by decide
  simp [Statement.mentioned, Statement.tokens, lex_arguments, lex_throw, lex_thrown, namesIn,
    Token.namesInHoles, isName_numeral, hnames]

/-- The statement of the script mentions the script and what its template mentions. -/
theorem mentioned_script (parts : List Part) :
    (Statement.script parts).mentioned = "script" :: namesInHoles parts := by
  have hnames : isName "script" = true ∧ isName "const" = false := by decide
  simp [Statement.mentioned, Statement.tokens, lex_script, lex_semicolon, namesIn,
    Token.namesInHoles, hnames]

/-- The last statement mentions the client and the script. -/
theorem mentioned_send : Statement.send.mentioned = ["client", "script"] := by
  have hnames : isName "client" = true ∧ isName "script" = true ∧ isName "return" = false := by
    decide
  simp [Statement.mentioned, Statement.tokens, lex_send, namesIn, Token.namesInHoles, hnames]

/-! ## Scopes -/

/-- Where a name in the body of a wrapper is declared. -/
inductive Scope
  /-- In the body of the wrapper. -/
  | body
  /-- As the arguments of the wrapper. -/
  | arguments
  /-- In the body of the factory. -/
  | factory
  /-- As the parameter of the factory. -/
  | endpoint
  /-- In the module. -/
  | module
  /-- Nowhere in the module: the name is that of a global object. -/
  | global
  deriving DecidableEq, Repr

/-- The names that a scope around the body of a wrapper declares. -/
def Factory.declared (f : Factory) (b : Block) : Scope → List String
  | .body => constantsAt 1 0 false b.tokens
  | .arguments => ["args"]
  | .factory => constantsAt 1 0 false f.tokens
  | .endpoint => ["directorEndpoint"]
  | .module => "PythonApiClient" :: constantsAt 0 0 false f.tokens
  | .global => []

/-- The innermost scope that declares a name, for the body of a wrapper. -/
def Factory.scopeOf (f : Factory) (b : Block) (name : String) : Scope :=
  if name ∈ f.declared b .body then .body
  else if name ∈ f.declared b .arguments then .arguments
  else if name ∈ f.declared b .factory then .factory
  else if name ∈ f.declared b .endpoint then .endpoint
  else if name ∈ f.declared b .module then .module
  else .global

end ModuleBridge.JavaScript
