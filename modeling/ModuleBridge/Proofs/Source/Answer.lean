import ModuleBridge.Main
import ModuleBridge.Proofs.Json.Ascii
import ModuleBridge.Proofs.Wire.RoundTrip

/-!
# The helper's answer read back

The helper writes its answer in ASCII with blanks after the commas and colons, and the answer is
decoded by the shape of a parsed module. What stands between brackets is taken whichever way it is
spaced (`takes_asciiArray`, `takes_asciiObject`), so the line that is printed is decoded to what the
helper found out (`parse_line`).
-/

namespace ModuleBridge.Source.Answer

open Json (Reader Layout Blank asciiString asciiArray asciiObject isPrintable nestingLimit)
open Text.Utf8 (encode)
open Wire (Shape Fields)

/-! ## Texts that are taken -/

section
variable {α β σ : Type} {nesting : Nat} {texts : List (List Char)} {xs : List α}

/-- A text is read back from its ASCII literal. -/
theorem takes_asciiString (s : String) :
    (Shape.text.read nesting).Takes (encode (asciiString s)) s := by
  rw [Reader.encode_asciiString]
  refine ⟨⟨_, _, rfl, rfl⟩, fun blank rest hblank _ => ?_⟩
  simp only [List.cons_append, List.append_assoc]
  refine (Reader.bind_ok (Shape.firstByte_eq hblank rfl)).trans ?_
  rw [if_pos rfl]
  refine (Reader.bind_ok Reader.skip_cons).trans ?_
  exact Reader.string_ascii s rest

/-- A list is read back if each of its items is. -/
theorem takes_asciiArray {shape : Shape α} {f : α → List Char}
    (h : ∀ x ∈ xs, (shape.read nesting).Takes (encode (f x)) x) :
    ((Shape.list shape).read (nesting + 1)).Takes (encode (asciiArray (xs.map f))) xs := by
  have hitems : List.Forall₂ (shape.read nesting).Takes (xs.map fun x => encode (f x)) xs :=
    List.forall₂_map_left_iff.2 (List.forall₂_same.2 h)
  rw [Reader.encode_asciiArray, List.map_map]
  exact Shape.takes_brackets fun rest => Reader.items_spaced hitems

/-- The key of a member and the text that follows it. -/
def valueText (m : String × List Char) : String × List UInt8 := (m.1, encode (':' :: ' ' :: m.2))

/-- A record is read back if its members fill its slots and the slots give it. -/
theorem takes_asciiObject {name : String} {fields : Fields α σ} {build : α → β} {parts : β → α}
    {slots : σ} {x : α} {y : β} {members : List (String × List Char)}
    (hkeys : ∀ key ∈ members.map (·.1), ∀ c ∈ key.toList, c.toNat < 0x7F)
    (h : Reader.TakesMembers (fun key slots => fields.readMember nesting key slots)
      (members.map valueText) fields.empty slots)
    (hfinish : fields.finish slots = .ok x) (hbuild : build x = y) :
    ((Shape.record name fields build parts).read (nesting + 1)).Takes
      (encode (asciiObject members)) y := by
  rw [Reader.encode_asciiObject fun m hm => hkeys m.1 (List.mem_map_of_mem hm)]
  exact hbuild ▸ Shape.takes_braces (fun rest => Reader.members_spaced h) hfinish

/-- A field takes its own member. -/
theorem takes_value {shape : Shape α} {field : Wire.Field α} {rest : Fields β σ} {text : List Char}
    {x : α} {slots : σ} (h : (shape.read nesting).Takes (encode text) x) :
    ((Fields.cons field shape rest).readMember nesting field.name (none, slots)).Takes
      (valueText (field.name, text)).2 (some x, slots) :=
  Fields.takes_readMember Layout.isBlank_indented h

end

/-! ## Answers -/

section
variable {nesting : Nat}

/-- What an answer decodes to. -/
def module : Answer → ParsedModule
  | .ok functions => ⟨functions, none⟩
  | .error message => ⟨[], some message⟩

/-- A function is read back from the answer's text of it. -/
theorem takes_functionText (f : FunctionSignature) :
    (FunctionSignature.shape.read (nesting + 2)).Takes (encode (functionText f)) f := by
  have hname : (Shape.text.read (nesting + 1)).Takes (encode (asciiString f.name)) f.name :=
    takes_asciiString f.name
  have hparameters : ((Shape.list .text).read (nesting + 1)).Takes
      (encode (asciiArray (f.parameters.map asciiString))) f.parameters :=
    takes_asciiArray fun p _ => takes_asciiString p
  have hkeys : ∀ key ∈ ["name", "parameters"], ∀ c ∈ key.toList, c.toNat < 0x7F := by simp
  refine takes_asciiObject hkeys
    (.cons (takes_value hname) (Fields.takesMembers_rest
      (.cons (takes_value hparameters) (.nil _)) ?_)) rfl rfl
  simp [valueText, Wire.Field.named]

/-- An answer is read back as the module that it describes. -/
theorem takes_text (answer : Answer) :
    (ParsedModule.shape.read (nesting + 4)).Takes (encode answer.text) answer.module := by
  cases answer with
  | ok functions =>
    have hfunctions : ((Shape.list FunctionSignature.shape).read (nesting + 3)).Takes
        (encode (asciiArray (functions.map functionText))) functions :=
      takes_asciiArray fun f _ => takes_functionText f
    have hkeys : ∀ key ∈ ["functions"], ∀ c ∈ key.toList, c.toNat < 0x7F := by simp
    exact takes_asciiObject hkeys (.cons (takes_value hfunctions) (.nil _)) rfl rfl
  | error message =>
    have hmessage : ((Shape.optional .text).read (nesting + 3)).Takes
        (encode (asciiString message)) (some message) := by
      have hstring : (Shape.text.read (nesting + 3)).Takes _ message := takes_asciiString message
      rw [Reader.encode_asciiString] at hstring ⊢
      exact Shape.takes_some (by decide) hstring
    have hkeys : ∀ key ∈ ["error"], ∀ c ∈ key.toList, c.toNat < 0x7F := by simp
    refine takes_asciiObject hkeys (Fields.takesMembers_rest
      (.cons (takes_value hmessage) (.nil _)) ?_) rfl rfl
    simp [valueText, Wire.Field.named]

/-- The line of an answer decodes to it. -/
theorem parse_line (answer : Answer) :
    ParsedModule.shape.parse (Text.Utf8.bytes answer.line) = .ok answer.module := by
  have hfeed : Blank (encode ['\n']) := (Json.isGap_newline 0).blank
  have htext : (ParsedModule.shape.read nestingLimit).Takes (encode answer.text) answer.module :=
    takes_text answer
  rw [line, Text.Utf8.bytes, String.toList_ofList, Text.Utf8.encode_append]
  exact Wire.run_of_takes_blank htext hfeed

-- two bytes of UTF-8 are one unit, four are a surrogate pair
example : line (.error "é😀") = "\x7b\"error\": \"\\u00e9\\ud83d\\ude00\"\x7d\n" := by
  decide +kernel

/-- An answer is printable ASCII, whatever it says. -/
theorem isPrintable_of_mem_text {answer : Answer} {c : Char} (h : c ∈ answer.text) :
    isPrintable c = true := by
  have hstring (s : String) : ∀ c ∈ asciiString s, isPrintable c = true :=
    fun c hc => Json.isPrintable_of_mem_asciiString hc
  have hfunction (f : FunctionSignature) : ∀ c ∈ functionText f, isPrintable c = true := by
    refine fun c hc => Json.isPrintable_of_mem_asciiObject (List.forall_mem_cons.2
      ⟨hstring f.name, List.forall_mem_singleton.2 fun c hc => ?_⟩) hc
    refine Json.isPrintable_of_mem_asciiArray (fun t ht => ?_) hc
    obtain ⟨p, -, rfl⟩ := List.mem_map.1 ht
    exact hstring p
  cases answer with
  | ok functions =>
    refine Json.isPrintable_of_mem_asciiObject (List.forall_mem_singleton.2 fun c hc => ?_) h
    refine Json.isPrintable_of_mem_asciiArray (fun t ht => ?_) hc
    obtain ⟨f, -, rfl⟩ := List.mem_map.1 ht
    exact hfunction f
  | error message =>
    exact Json.isPrintable_of_mem_asciiObject (List.forall_mem_singleton.2 (hstring message)) h

/-- What a process that ended well reports is its answer. -/
theorem readCompleted_eq (interpreter : Interpreter) (written : Except SystemFailure Unit)
    (answer : Answer) (errors : List UInt8) :
    interpreter.readCompleted ⟨written, .code 0, Text.Utf8.bytes answer.line, errors⟩ =
      answer.module.toExcept := by
  have hsuccess : (!ExitStatus.isSuccess (.code 0)) = false := rfl
  simp only [Interpreter.readCompleted, hsuccess, parse_line, Bool.false_eq_true, if_false]

/-- **The answer survives the pipe.** Whatever functions the helper found, the line it prints is
read as those functions in their order, and whatever the words of its error are, the line is read as
an introspection error with those words. Either line is printable ASCII up to its line feed.
Reference: `main` of the helper, `SubprocessParser::parse`. -/
theorem readCompleted_line (interpreter : Interpreter) (written : Except SystemFailure Unit)
    (errors : List UInt8) :
    (∀ functions : List FunctionSignature,
      interpreter.readCompleted ⟨written, .code 0, Text.Utf8.bytes (line (.ok functions)), errors⟩ =
        .ok ⟨functions, none⟩) ∧
    (∀ message : String,
      interpreter.readCompleted
          ⟨written, .code 0, Text.Utf8.bytes (line (.error message)), errors⟩ =
        .error (.introspection message)) ∧
    ∀ answer : Answer, ∃ text, answer.line.toList = text ++ ['\n'] ∧
      ∀ c ∈ text, isPrintable c = true :=
  ⟨fun functions => readCompleted_eq interpreter written (.ok functions) errors,
    fun message => readCompleted_eq interpreter written (.error message) errors,
    fun answer => ⟨answer.text, String.toList_ofList, fun _ hc => isPrintable_of_mem_text hc⟩⟩

/-- The program's own answers are what it finds out about a source. -/
theorem introspect_launcher (interpreter : Interpreter) (source : String) :
    interpreter.introspect Main.launcher source = (Main.answerOf source).module.toExcept := by
  have hlaunch : Main.launcher (interpreter.launchFor source) =
      .ok ⟨.ok (), .code 0, Text.Utf8.bytes (Main.answerOf source).line, []⟩ := by
    rw [Main.launcher, Interpreter.launchFor, Text.Utf8.text?_bytes]
  rw [Interpreter.introspect, hlaunch]
  exact readCompleted_eq interpreter (.ok ()) (Main.answerOf source) []

end

end ModuleBridge.Source.Answer
