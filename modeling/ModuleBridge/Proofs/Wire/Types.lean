import ModuleBridge.Endpoint
import ModuleBridge.Generation.Module
import ModuleBridge.Proofs.Wire.RoundTrip
import ModuleBridge.Session.Message
import ModuleBridge.Transform

/-!
# The types that are written as JSON

Each type is kept by its shape: no name is read by two fields, the fields that are left out have
their defaults, and what is built from the parts of a value is the value again. An endpoint is
checked again when it is read; it passes because it has no blanks that could be trimmed
(`SessionEndpoint.ofText_text`). Only the replies of a session have free values in them, so only
these can nest too deep (`types_printBack`).
-/

namespace ModuleBridge

open Wire (Shape Fields Field isInt64)
open Session (Status RegisterResponse ExecuteResponse)

/-! ## What the shapes keep -/

/-- Every signature is kept by its shape. -/
theorem FunctionSignature.keeps (f : FunctionSignature) : FunctionSignature.shape.Keeps f := by
  simp [shape, Fields.toMembers, Field.named]

/-- Every parsed module is kept by its shape. -/
theorem ParsedModule.keeps (m : ParsedModule) : ParsedModule.shape.Keeps m := by
  simpa [shape, Fields.toMembers, Field.named, Shape.toJson,
    FunctionSignature.keeps] using fun h : m.error = none => h.symm

/-- Both names of the source's field are kept. -/
theorem SourceField.keeps (f : SourceField) : SourceField.shape.Keeps f := by
  cases f <;> rfl

/-- Every contract is kept by its shape. -/
theorem WireContract.keeps (c : WireContract) : WireContract.shape.Keeps c := by
  simp [shape, fields, Fields.toMembers, SourceField.keeps]

/-- All options are kept by their shape. -/
theorem LoaderOptions.keeps (o : LoaderOptions) : LoaderOptions.shape.Keeps o := by
  simp [shape, fields, Fields.toMembers, Field.named, Shape.toJson,
    WireContract.keeps]

/-- Every generated module is kept by its shape. -/
theorem GeneratedModule.keeps (m : GeneratedModule) : GeneratedModule.shape.Keeps m := by
  simpa [shape, Fields.toMembers, Field.named, Shape.toJson] using
    fun h : m.typeDeclarations = none => h.symm

/-- Every output of a transform is kept by its shape. -/
theorem TransformOutput.keeps (o : TransformOutput) : TransformOutput.shape.Keeps o := by
  simp [shape, metaShape, Fields.toMembers, Field.named, Shape.toJson]

/-- Every module name passes its own check when it is read. -/
theorem ModuleName.keeps (name : ModuleName) : ModuleName.shape.Keeps name := by
  simp [shape]

/-- Characters without blanks are not trimmed. -/
theorem trimBlanks_eq_self {cs : List Char} (h : ∀ c ∈ cs, Text.isBlank c = false) :
    Text.trimBlanks cs = cs := by
  have hfront {cs : List Char} (h : ∀ c ∈ cs, Text.isBlank c = false) :
      cs.dropWhile Text.isBlank = cs := by
    cases cs with
    | nil => rfl
    | cons c cs => rw [List.dropWhile_cons_of_neg (by simp [h c List.mem_cons_self])]
  rw [Text.trimBlanks, hfront h, hfront fun c hc => h c (List.mem_reverse.1 hc),
    List.reverse_reverse]

namespace SessionEndpoint

/-- An endpoint is not refused exactly if it has no scheme, slash, backslash or blank and is not
empty. -/
theorem refusal?_eq_none_iff {cs : List Char} :
    refusal? cs = none ↔ cs ≠ [] ∧ occurs [':', '/', '/'] cs = false ∧
      (∀ c ∈ cs, c ≠ '/' ∧ c ≠ '\\') ∧ ∀ c ∈ cs, Text.isBlank c = false := by
  have hcheck (isWrong : Prop) [Decidable isWrong] (reason : String) (rest : Option String) :
      (if isWrong then some reason else rest) = none ↔ ¬ isWrong ∧ rest = none := by
    split <;> simp [*]
  simp [refusal?, hcheck]

/-- An endpoint's text is not refused again. -/
theorem refusal?_of_ofText {text : String} {e : SessionEndpoint} (h : ofText text = .ok e) :
    refusal? e.text.toList = none := by
  unfold ofText at h
  simp only at h
  split at h
  · cases h
  · next hok =>
    cases h
    rwa [String.toList_ofList]

/-- An endpoint names itself. -/
theorem ofText_text {text : String} {e : SessionEndpoint} (h : ofText text = .ok e) :
    ofText e.text = .ok e := by
  have hok := refusal?_of_ofText h
  rw [ofText, trimBlanks_eq_self (refusal?_eq_none_iff.1 hok).2.2.2]
  simp only [hok, String.ofList_toList]

/-- Every endpoint passes its own check when it is read. -/
theorem keeps {text : String} {e : SessionEndpoint} (h : ofText text = .ok e) :
    SessionEndpoint.shape.Keeps e := by
  refine ⟨trivial, ?_⟩
  show (ofText e.text).mapError (·.message) = .ok e
  rw [ofText_text h]
  rfl

end SessionEndpoint

/-! ## The replies of a session -/

namespace Session

/-- The code has 64 bits, and the details are values that can have been read, without doubles. -/
structure Status.Fits (s : Status) : Prop where
  code : isInt64 s.code = true
  details : ∀ v ∈ s.details, v.IsPlain

section
variable {s : Status}

/-- A status is kept if its code has 64 bits. -/
theorem Status.keeps (h : s.Fits) : Status.shape.Keeps s := by
  simpa [shape, Fields.toMembers, Field.named, h.code] using h.details

/-- The reply to a registration is kept if its status is. -/
theorem RegisterResponse.keeps {r : RegisterResponse} (h : r.status.Fits) :
    RegisterResponse.shape.Keeps r := by
  simp [shape, Fields.toMembers, Status.keeps h]

/-- The reply to a script is kept if its status is. -/
theorem ExecuteResponse.keeps {r : ExecuteResponse} (h : r.status.Fits) :
    ExecuteResponse.shape.Keeps r := by
  simp [shape, Fields.toMembers, Field.named, Status.keeps h]

end

end Session

/-! ## All types -/

/-- **Decoding undoes encoding.** What is printed for a value as JSON, on one line or indented,
decodes to the value, for all types that are written. A reply of a session must hold values that can
have been read, without doubles, and must not nest deeper than the decoder goes. Reference: the
derived serialisers of these types. -/
theorem types_printBack :
    (∀ f, FunctionSignature.shape.PrintsBack f) ∧
    (∀ m, ParsedModule.shape.PrintsBack m) ∧
    (∀ o, LoaderOptions.shape.PrintsBack o) ∧
    (∀ c, WireContract.shape.PrintsBack c) ∧
    (∀ m, GeneratedModule.shape.PrintsBack m) ∧
    (∀ o, TransformOutput.shape.PrintsBack o) ∧
    (∀ s : Status, s.Fits → (Status.shape.toJson s).nesting ≤ Json.nestingLimit →
      Status.shape.PrintsBack s) ∧
    (∀ r : RegisterResponse, r.status.Fits →
      (RegisterResponse.shape.toJson r).nesting ≤ Json.nestingLimit →
        RegisterResponse.shape.PrintsBack r) ∧
    (∀ r : ExecuteResponse, r.status.Fits →
      (ExecuteResponse.shape.toJson r).nesting ≤ Json.nestingLimit →
        ExecuteResponse.shape.PrintsBack r) ∧
    (∀ name, ModuleName.shape.PrintsBack name) ∧
    (∀ text e, SessionEndpoint.ofText text = .ok e → SessionEndpoint.shape.PrintsBack e) := by
  refine ⟨fun f => ?_, fun m => ?_, fun o => ?_, fun c => ?_, fun m => ?_, fun o => ?_,
    fun s hs hn => .of_keeps (Session.Status.keeps hs) hn,
    fun r hr hn => .of_keeps (Session.RegisterResponse.keeps hr) hn,
    fun r hr hn => .of_keeps (Session.ExecuteResponse.keeps hr) hn,
    fun name => ?_, fun text e he => ?_⟩
  · exact .of_brackets f.keeps rfl (by decide)
  · exact .of_brackets m.keeps rfl (by decide)
  · exact .of_brackets o.keeps rfl (by decide)
  · exact .of_brackets c.keeps rfl (by decide)
  · exact .of_brackets m.keeps rfl (by decide)
  · exact .of_brackets o.keeps rfl (by decide)
  · exact .of_brackets name.keeps rfl (by decide)
  · exact .of_brackets (SessionEndpoint.keeps he) rfl (by decide)

/-- The reply to a script with nested details decodes to itself, and so does an endpoint that was
given with blanks around it. -/
theorem types_printBack_reply :
    let s : Status := ⟨-1, "no \"x\"\n",
      [.null, .array [.ofInt 7, .array []], .object [("a", .bool true), ("b", .string "é")]]⟩
    let r : ExecuteResponse := ⟨s, "", "Traceback", "null"⟩
    Status.shape.PrintsBack s ∧ RegisterResponse.shape.PrintsBack ⟨s⟩ ∧
      ExecuteResponse.shape.PrintsBack r ∧
      SessionEndpoint.ofText " host:80\t" = .ok ⟨"host:80"⟩ ∧
      SessionEndpoint.shape.PrintsBack ⟨"host:80"⟩ := by
  intro s r
  have hs : s.Fits := by
    refine ⟨rfl, ?_⟩
    have harray : Json.IsPlain (.array [.ofInt 7, .array []]) :=
      .array (List.forall_mem_cons.2
        ⟨.integer ⟨by decide, by decide⟩, List.forall_mem_singleton.2 (.array nofun)⟩)
    have hobject : Json.IsPlain (.object [("a", .bool true), ("b", .string "é")]) :=
      .object (by decide) (List.forall_mem_cons.2
        ⟨.bool true, List.forall_mem_singleton.2 (.string "é")⟩)
    exact List.forall_mem_cons.2 ⟨.null, List.forall_mem_cons.2
      ⟨harray, List.forall_mem_singleton.2 hobject⟩⟩
  have hendpoint : SessionEndpoint.ofText " host:80\t" = .ok ⟨"host:80"⟩ := rfl
  obtain ⟨-, -, -, -, -, -, hstatus, hregister, hexecute, -, hendpoints⟩ := types_printBack
  exact ⟨hstatus s hs (by decide), hregister ⟨s⟩ hs (by decide), hexecute r hs (by decide),
    hendpoint, hendpoints _ _ hendpoint⟩

end ModuleBridge
