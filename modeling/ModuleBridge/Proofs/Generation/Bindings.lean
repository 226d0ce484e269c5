import ModuleBridge.Proofs.Generation.Modules
import ModuleBridge.Proofs.JavaScript.Scope

/-!
# What the names in generated code are bound to

The bindings of a plan can be declared next to each other and next to what every factory declares
(`bindings_declarable`). Nothing keeps them from being the names of the two global objects that
wrappers use, though: such a name is captured exactly if a function or the module has it
(`wrappers_resolve`). Both are stated of the code itself, which below its first line is made of the
tokens of a factory (`Presents`).
-/

namespace ModuleBridge.Generation

open JavaScript

/-- A text is a header with the tokens of a factory below it, and a comment if the module's name
does not end it. -/
structure Presents (text : String) (moduleName : ModuleName) (f : Factory) : Prop where
  below_header : ∃ body, text = headerText moduleName ++ "\n" ++ body ∧ tokens? body = some f.tokens
  tokens?_eq : (∀ c ∈ moduleName.text.toList, c ∉ lineTerminators) → tokens? text = some f.tokens
  readFactory_eq : readFactory f.tokens = some f

section
variable {moduleName : ModuleName} {package source : String} {functions : List FunctionSignature}
  {p : Plan} {w : Wrapper} {name : String}

/-- The code of a plan presents its factory. -/
theorem presents_code (source : String) (hp : plan moduleName functions = .ok p)
    (hpackage : checkRuntimePackage package = .ok ()) :
    ∃ text, code package moduleName source functions = .ok text ∧
      Presents text moduleName (factoryOf package moduleName source p) := by
  obtain ⟨texts, htexts, hbody⟩ := reads_bodyText source hp hpackage
  have hcode := code_eq package source hp htexts
  refine ⟨_, hcode, ⟨_, rfl, tokens?_eq_some hbody⟩, fun hname => ?_, readFactory_factoryOf _ _ _ _⟩
  obtain ⟨text, htext, htokens⟩ := tokens?_code source hp hpackage hname
  cases Except.ok.inj (hcode.symm.trans htext)
  exact htokens

/-- The factory binds the names of the plan. -/
theorem map_binding_factoryOf (package : String) (moduleName : ModuleName) (source : String)
    (p : Plan) : (factoryOf package moduleName source p).blocks.map (·.binding) =
      p.wrappers.map (·.binding) := by
  rw [factoryOf, List.map_map]
  rfl

/-! ## Bindings -/

/-- The bindings of a plan for functions with different names are identifiers that can be declared
in a module, differ from each other and from all other names bound there, so that the body of the
factory declares no name twice. A function is bound to its own name wherever that is possible.
Reference: `plan_module`. -/
theorem bindings_declarable (hp : plan moduleName functions = .ok p)
    (hnodup : (functions.map (·.name)).Nodup) :
    p.wrappers.map (·.signature) = functions ∧ (p.wrappers.map (·.binding)).Nodup ∧
      (∀ w ∈ p.wrappers, isIdentifier w.binding = true ∧ isReservedWord w.binding = false ∧
        w.binding ∉ ["client", "registration", "PythonApiClient", "directorEndpoint"] ∧
        (isReservedWord w.signature.name = false →
          w.signature.name ∉ ["PythonApiClient", "directorEndpoint"] →
            w.binding = w.signature.name)) ∧
      ∀ package source, checkRuntimePackage package = .ok () → ∃ text factory,
        code package moduleName source functions = .ok text ∧ Presents text moduleName factory ∧
        constantsAt 1 0 false factory.tokens =
          "client" :: "registration" :: p.wrappers.map (·.binding) ∧
        (constantsAt 1 0 false factory.tokens).Nodup := by
  have hbindings : (p.wrappers.map (·.binding)).Nodup := nodup_bindings_of_plan hp hnodup
  have hclient : ∀ name ∈ clientMembers, name ∉ p.wrappers.map (·.binding) := by
    intro name hname hmem
    obtain ⟨w, hw, rfl⟩ := List.mem_map.1 hmem
    exact (fresh_binding_of_plan hp hw).2.2.1 hname
  refine ⟨map_signature_of_plan hp, hbindings, fun w hw => ?_, fun package source hpackage => ?_⟩
  · obtain ⟨hidentifier, hreserved, hmember, hscope⟩ := fresh_binding_of_plan hp hw
    refine ⟨hidentifier, hreserved, fun hmem => ?_, fun hown hfree => ?_⟩
    · rcases List.mem_append.1 (show w.binding ∈ clientMembers ++ scopeBindings from hmem) with
        hmem | hmem
      · exact hmember hmem
      · exact hscope hmem
    · refine binding_eq_name_of_plan hp hw ?_
      rw [needsRename, hown, Bool.false_or, ← Bool.not_eq_true, List.contains_iff_mem]
      exact hfree
  · obtain ⟨text, hcode, hpresents⟩ := presents_code source hp hpackage
    have hconstants := constantsAt_factory (Nat.le_refl 1)
      (isValueToken_of_mem_factoryOf package moduleName source p)
    rw [if_neg Nat.one_ne_zero, map_binding_factoryOf] at hconstants
    refine ⟨text, _, hcode, hpresents, hconstants, ?_⟩
    rw [hconstants]
    refine List.nodup_cons.2 ⟨?_, List.nodup_cons.2 ⟨hclient _ (by decide), hbindings⟩⟩
    rw [List.mem_cons, not_or]
    exact ⟨by decide, hclient _ (by decide)⟩

/-- The variants of a reserved word and a name that is declared anyway. -/
theorem bindings_declarable_delete :
    ∃ p : Plan, plan ⟨"m"⟩ [⟨"delete", ["key"]⟩, ⟨"delete_", []⟩, ⟨"directorEndpoint", []⟩,
        ⟨"add", ["a", "b"]⟩] = .ok p ∧
      (p.wrappers.map (·.binding)).Nodup ∧
      ∀ w ∈ p.wrappers, isReservedWord w.binding = false ∧
        w.binding ∉ ["client", "registration", "PythonApiClient", "directorEndpoint"] := by
  have hplan : plan ⟨"m"⟩ [⟨"delete", ["key"]⟩, ⟨"delete_", []⟩, ⟨"directorEndpoint", []⟩,
      ⟨"add", ["a", "b"]⟩] = .ok ⟨"m", [⟨⟨"delete", ["key"]⟩, "delete__"⟩,
        ⟨⟨"delete_", []⟩, "delete_"⟩, ⟨⟨"directorEndpoint", []⟩, "directorEndpoint_"⟩,
        ⟨⟨"add", ["a", "b"]⟩, "add"⟩]⟩ := rfl
  obtain ⟨-, hnodup, hfree, -⟩ := bindings_declarable hplan (by decide)
  exact ⟨_, hplan, hnodup, fun w hw => ⟨(hfree w hw).2.1, (hfree w hw).2.2.1⟩⟩

/-! ## Global objects -/

/-- The code of an argument mentions `JSON` and the arguments. -/
theorem namesIn_stringifyCode (index : Nat) :
    namesIn false (lex (String.ofList (stringifyCode index))) = ["JSON", "args"] := by
  have hopen : lex "JSON.stringify(args[" = [.word "JSON", .mark '.', .word "stringify",
      .mark '(', .word "args", .mark '['] := rfl
  have hclose : lex "])" = [.mark ']', .mark ')'] := rfl
  have hnames : isName "JSON" = true ∧ isName "args" = true := by decide
  rw [lex_stringifyCode, hopen, hclose]
  simp [namesIn, isName_numeral, hnames]

/-- What a wrapper mentions, statement by statement. -/
theorem mentioned_wrapperBlock (w : Wrapper) :
    (wrapperBlock w).mentioned = ["args", "Error", "args"] ++ ("script" ::
      ((List.range w.signature.arity).flatMap fun _ => ["JSON", "args"])) ++
        ["client", "script"] := by
  have hmessage : namesInHoles (messageParts w.signature.arity) = ["args"] := rfl
  have hcall : namesInHoles (callParts w.signature.name (List.range w.signature.arity)) =
      (List.range w.signature.arity).flatMap fun _ => ["JSON", "args"] := by
    simp only [namesInHoles, holes_callParts, List.flatMap_map, namesIn_stringifyCode]
  simp [Block.mentioned, wrapperBlock, mentioned_guard, mentioned_script, mentioned_send, hmessage,
    hcall]

/-- A wrapper mentions two global objects, one of them only if it has arguments to write. -/
theorem mem_mentioned_wrapperBlock : name ∈ (wrapperBlock w).mentioned ↔
    name = "args" ∨ name = "script" ∨ name = "client" ∨ name = "Error" ∨
      name = "JSON" ∧ 0 < w.signature.arity := by
  rw [mentioned_wrapperBlock]
  have hargument : name ∈ (List.range w.signature.arity).flatMap (fun _ => ["JSON", "args"]) ↔
      0 < w.signature.arity ∧ (name = "JSON" ∨ name = "args") := by
    rw [List.mem_flatMap]
    simp only [List.mem_cons, List.not_mem_nil, or_false, List.mem_range]
    exact ⟨fun ⟨i, hi, hname⟩ => ⟨Nat.zero_lt_of_lt hi, hname⟩, fun ⟨h, hname⟩ => ⟨0, h, hname⟩⟩
  simp only [List.mem_append, List.mem_cons, List.not_mem_nil, or_false, hargument]
  tauto

/-- What the scopes around the body of a wrapper declare. -/
theorem scopeOf_wrapperBlock (package : String) (moduleName : ModuleName) (source : String)
    (p : Plan) (w : Wrapper) (name : String) :
    (factoryOf package moduleName source p).scopeOf (wrapperBlock w) name =
      if name = "script" then .body
      else if name = "args" then .arguments
      else if name = "client" ∨ name = "registration" ∨ ∃ w ∈ p.wrappers, w.binding = name then
        .factory
      else if name = "directorEndpoint" then .endpoint
      else if name = "PythonApiClient" ∨ name = p.exportName then .module
      else .global := by
  have hvalue := isValueToken_of_mem_factoryOf package moduleName source p
  have hbody : constantsAt 1 0 false (wrapperBlock w).tokens = ["script"] := by
    have hblock := @constantsAt_block 1 0 (wrapperBlock w) []
    rw [List.append_nil] at hblock
    rw [hblock]
    rfl
  have hfactory := constantsAt_factory (Nat.le_refl 1) hvalue
  have hmodule := constantsAt_factory (Nat.zero_le 1) hvalue
  rw [if_neg Nat.one_ne_zero, map_binding_factoryOf] at hfactory
  rw [if_pos rfl] at hmodule
  have hexport : (factoryOf package moduleName source p).exportName = p.exportName := rfl
  simp only [Factory.scopeOf, Factory.declared, hbody, hfactory, hmodule, hexport, List.mem_cons,
    List.not_mem_nil, or_false, List.mem_map]

/-- The global objects that wrappers use. -/
def usedGlobals : List String := ["JSON", "Error"]

/-- Does a name of generated code hide a global object of that name from the wrappers? -/
def Captures (p : Plan) (name : String) : Prop :=
  p.exportName = name ∨ ∃ w ∈ p.wrappers, w.binding = name

/-- A global object is hidden exactly if a function or the module has its name. -/
theorem captures_iff (hp : plan moduleName functions = .ok p) (hname : name ∈ usedGlobals) :
    Captures p name ↔ moduleName.text = name ∨ ∃ f ∈ functions, f.name = name := by
  have hunderscore : ∀ name ∈ usedGlobals, '_' ∉ name.toList := by decide
  have hrename : ∀ name ∈ usedGlobals, needsRename name = false := by decide
  have hexport : ∀ name ∈ usedGlobals, exportName ⟨name⟩ = name := by decide +kernel
  have hexported : p.exportName = name ↔ moduleName.text = name := by
    rw [(plan_eq_ok hp).1]
    refine ⟨fun h => eq_of_exportName h (hunderscore name hname), fun h => ?_⟩
    rw [← h]
    exact hexport _ (h ▸ hname)
  rw [Captures, hexported, binding_eq_iff_of_plan hp (hunderscore name hname) (hrename name hname)]

/-- A wrapper of a plan in the code of a module: the names that its body mentions, and the scope in
which each of them is declared. -/
structure Resolves (f : Factory) (p : Plan) (b : Block) (w : Wrapper) : Prop where
  binding_eq : b.binding = w.binding
  mem_mentioned_iff : ∀ name, name ∈ b.mentioned ↔ name = "args" ∨ name = "script" ∨
    name = "client" ∨ name = "Error" ∨ name = "JSON" ∧ 0 < w.signature.arity
  script : f.scopeOf b "script" = .body
  args : f.scopeOf b "args" = .arguments
  client : f.scopeOf b "client" = .factory
  global_iff : ∀ name ∈ usedGlobals, f.scopeOf b name = .global ↔ ¬Captures p name

/-- The names in the block of a wrapper resolve as its signature says. -/
theorem resolves_wrapperBlock (package : String) (moduleName : ModuleName) (source : String)
    (p : Plan) (w : Wrapper) :
    Resolves (factoryOf package moduleName source p) p (wrapperBlock w) w where
  binding_eq := rfl
  mem_mentioned_iff := fun _ => mem_mentioned_wrapperBlock
  script := scopeOf_wrapperBlock ..
  args := scopeOf_wrapperBlock ..
  client := by
    rw [scopeOf_wrapperBlock]
    rfl
  global_iff := by
    intro name hname
    have hother : ∀ name ∈ usedGlobals, name ≠ "script" ∧ name ≠ "args" ∧ name ≠ "client" ∧
        name ≠ "registration" ∧ name ≠ "directorEndpoint" ∧ name ≠ "PythonApiClient" := by decide
    obtain ⟨hscript, hargs, hclient, hregistration, hendpoint, himport⟩ := hother name hname
    rw [scopeOf_wrapperBlock, if_neg hscript, if_neg hargs, if_neg hendpoint, Captures, not_or]
    simp only [hclient, hregistration, himport, false_or]
    by_cases hbound : ∃ w ∈ p.wrappers, w.binding = name
    · simp [hbound]
    · by_cases hexport : p.exportName = name
      · simp [hbound, hexport]
      · simp [hbound, hexport, Ne.symm hexport]

/-- The names that the wrappers of a module mention mean what they should: the script that is built,
the arguments, the client of the factory, or a global object. A wrapper does not get the global
object exactly if the factory or a wrapper has its name, which is to say, if the module or a
function has it. Reference: `SCOPE_BINDINGS`, `plan_module`. -/
theorem wrappers_resolve (hp : plan moduleName functions = .ok p)
    (hpackage : checkRuntimePackage package = .ok ()) :
    ∃ text factory, code package moduleName source functions = .ok text ∧
      Presents text moduleName factory ∧ factory.exportName = p.exportName ∧
      List.Forall₂ (Resolves factory p) factory.blocks p.wrappers ∧
      ∀ name ∈ usedGlobals,
        Captures p name ↔ moduleName.text = name ∨ ∃ f ∈ functions, f.name = name := by
  obtain ⟨text, hcode, hpresents⟩ := presents_code source hp hpackage
  refine ⟨text, factoryOf package moduleName source p, hcode, hpresents, rfl, ?_,
    fun name hname => captures_iff hp hname⟩
  rw [factoryOf, List.forall₂_map_left_iff, List.forall₂_same]
  exact fun w _ => resolves_wrapperBlock package moduleName source p w

/-- A wrapper of a function with an ordinary name in a module with an ordinary name gets both. -/
theorem wrappers_resolve_add :
    ∃ (text : String) (factory : Factory) (block : Block),
      code "runtime" ⟨"m"⟩ "" [⟨"add", ["a", "b"]⟩] = .ok text ∧
        tokens? text = some factory.tokens ∧ factory.blocks = [block] ∧
        "JSON" ∈ block.mentioned ∧ "Error" ∈ block.mentioned ∧
        factory.scopeOf block "JSON" = .global ∧ factory.scopeOf block "Error" = .global := by
  have hplan : plan ⟨"m"⟩ [⟨"add", ["a", "b"]⟩] = .ok ⟨"m", [⟨⟨"add", ["a", "b"]⟩, "add"⟩]⟩ := rfl
  have hname : ∀ c ∈ "m".toList, c ∉ lineTerminators := List.forall_mem_singleton.2 (by decide)
  obtain ⟨text, factory, hcode, hpresents, -, hblocks, hcaptures⟩ :=
    @wrappers_resolve ⟨"m"⟩ "runtime" "" _ _ hplan rfl
  obtain ⟨block, blocks, hblock, hrest, hfactory⟩ := List.forall₂_cons_right_iff.1 hblocks
  rw [List.forall₂_nil_right_iff.1 hrest] at hfactory
  have hfree : ∀ name ∈ usedGlobals, factory.scopeOf block name = .global := by
    intro name hmem
    refine (hblock.global_iff name hmem).2 fun hcaptured => ?_
    have hnames : ∀ name ∈ usedGlobals, "m" ≠ name ∧ "add" ≠ name := by decide
    rcases (hcaptures name hmem).1 hcaptured with hmodule | ⟨f, hf, hfunction⟩
    · exact (hnames name hmem).1 hmodule
    · rw [List.mem_singleton.1 hf] at hfunction
      exact (hnames name hmem).2 hfunction
  refine ⟨text, factory, block, hcode, hpresents.tokens?_eq hname, hfactory, ?_, ?_,
    hfree _ (by decide), hfree _ (by decide)⟩
  · exact (hblock.mem_mentioned_iff _).2 (by decide)
  · exact (hblock.mem_mentioned_iff _).2 (by decide)

/-- A function with the name of a global object hides it from its wrapper. -/
theorem json_captured :
    ∃ (text : String) (factory : Factory) (block : Block),
      code "runtime" ⟨"m"⟩ "" [⟨"JSON", ["v"]⟩] = .ok text ∧
        tokens? text = some factory.tokens ∧ factory.blocks = [block] ∧
        block.binding = "JSON" ∧ "JSON" ∈ block.mentioned ∧
        factory.scopeOf block "JSON" = .factory := by
  have hplan : plan ⟨"m"⟩ [⟨"JSON", ["v"]⟩] = .ok ⟨"m", [⟨⟨"JSON", ["v"]⟩, "JSON"⟩]⟩ := rfl
  have hname : ∀ c ∈ "m".toList, c ∉ lineTerminators := List.forall_mem_singleton.2 (by decide)
  have hpackage : checkRuntimePackage "runtime" = .ok () := rfl
  obtain ⟨text, hcode, hpresents⟩ := presents_code "" hplan hpackage
  refine ⟨text, _, wrapperBlock ⟨⟨"JSON", ["v"]⟩, "JSON"⟩, hcode, hpresents.tokens?_eq hname, rfl,
    rfl, mem_mentioned_wrapperBlock.2 (by decide), ?_⟩
  rw [scopeOf_wrapperBlock]
  rfl

end

end ModuleBridge.Generation
