import ModuleBridge.Proofs.Report.Replies
import ModuleBridge.Signature
import ModuleBridge.Transform

/-!
# Modules and transforms with the same outline

The reports of an introspection and of a transform have no free values, so all of their views can be
read back: two of them have the same outline exactly if they show the same (`outline_module_iff`,
`outline_transforms_iff`). The report of a file whose path is no text is not printed at all
(`mapM_serialize_eq_ok_iff`).
-/

namespace ModuleBridge.Report

/-! ## Reports that show the same -/

/-- The functions show the same. -/
structure AlikeFunction (f g : FunctionSignature) : Prop where
  name : AlikeText f.name g.name
  parameters : List.Forall₂ AlikeText f.parameters g.parameters

/-- The answers of an introspection show the same. -/
structure AlikeModule (m m' : ParsedModule) : Prop where
  functions : List.Forall₂ AlikeFunction m.functions m'.functions
  error : Option.Rel AlikeText m.error m'.error

/-- The reports of a transform show the same. -/
structure AlikeTransform (r r' : TransformReport) : Prop where
  file : AlikeText r.file.shown r'.file.shown
  module : AlikeText r.module r'.module
  codeBytes : r.codeBytes = r'.codeBytes
  declarationBytes : r.declarationBytes = r'.declarationBytes
  written : List.Forall₂ AlikeText r.written r'.written

section
variable {isColoured : Bool} {v w : Json}

/-! ## Records without free values -/

/-- Members show the same if their keys are the same and their values show the same, one by one. -/
theorem memberViews_cons_eq_iff {key key' : String} {members members' : List (String × Json)} :
    memberViews isColoured ((key, v) :: members) = memberViews isColoured ((key', w) :: members') ↔
      (key = key' ∧ view isColoured v = view isColoured w) ∧
        memberViews isColoured members = memberViews isColoured members' := by
  rw [memberViews, memberViews.eq_def isColoured ((key', w) :: members')]
  simp

/-- Objects that are not empty show the same if their members do. -/
theorem view_object_eq_iff {m m' : String × Json} {members members' : List (String × Json)} :
    view isColoured (.object (m :: members)) = view isColoured (.object (m' :: members')) ↔
      memberViews isColoured (m :: members) = memberViews isColoured (m' :: members') := by
  rw [view, view, View.members.injEq]

/-- An array of strings. -/
def texts (xs : List String) : Json :=
  .array (xs.map .string)

/-- The order of members does not matter for a list of texts. -/
theorem sorted_texts (xs : List String) : (texts xs).sorted = texts xs := by
  rw [texts, Json.sorted, Json.sortedItems_eq, List.map_map]
  rfl

/-- A list of texts has no number that no program could hold. -/
theorem isHeld_texts (xs : List String) : (texts xs).IsHeld :=
  Json.isHeld_array.2 (List.forall_mem_map.2 fun s _ => .string s)

/-- A list of texts has no keys. -/
theorem allKeys_texts {p : String → Prop} (xs : List String) : (texts xs).AllKeys p :=
  Json.allKeys_array.2 (List.forall_mem_map.2 fun _ _ => trivial)

/-- Lists of texts show the same if the texts do, one by one. -/
theorem view_texts_eq_iff {xs ys : List String} :
    view isColoured (texts xs) = view isColoured (texts ys) ↔ List.Forall₂ AlikeText xs ys := by
  rw [texts, texts, view_array_eq_iff]
  exact itemViews_map_eq_iff fun _ _ => view_string_eq_iff

/-! ## Modules -/

/-- A function in the order of its keys. -/
def functionJson (f : FunctionSignature) : Json :=
  .object [("name", .string f.name), ("parameters", texts f.parameters)]

/-- The members of a function are in the order of their names. -/
theorem sorted_function (f : FunctionSignature) : (functionJson f).sorted = functionJson f := by
  have hsorted : (functionJson f).sorted =
      .object [("name", .string f.name), ("parameters", (texts f.parameters).sorted)] := rfl
  rw [hsorted, sorted_texts]
  rfl

/-- Functions show the same exactly if they are alike. -/
theorem view_function_eq_iff {f g : FunctionSignature} :
    view isColoured (functionJson f) = view isColoured (functionJson g) ↔ AlikeFunction f g := by
  rw [functionJson, functionJson, view_object_eq_iff, memberViews_cons_eq_iff,
    memberViews_cons_eq_iff, view_string_eq_iff, view_texts_eq_iff]
  exact ⟨fun h => ⟨h.1.2, h.2.1.2⟩, fun h => ⟨⟨rfl, h.name⟩, ⟨rfl, h.parameters⟩, rfl⟩⟩

/-- The error of an answer, if it has one. -/
def errorMembers (m : ParsedModule) : List (String × Json) :=
  m.error.toList.map fun e => ("error", .string e)

/-- The members of an answer in their order in an outline. -/
def moduleMembers (m : ParsedModule) : List (String × Json) :=
  errorMembers m ++ [("functions", .array (m.functions.map functionJson))]

/-- A parsed module with its members in the order of their names. -/
theorem sorted_module (m : ParsedModule) :
    (ParsedModule.shape.toJson m).sorted = .object (moduleMembers m) := by
  have hfunctions : (Json.array (m.functions.map functionJson)).sorted =
      .array (m.functions.map functionJson) := by
    rw [Json.sorted, Json.sortedItems_eq, List.map_map]
    congr 1
    exact List.map_congr_left fun f _ => sorted_function f
  obtain ⟨functions, error⟩ := m
  cases error with
  | none =>
    have hjson : (ParsedModule.shape.toJson ⟨functions, none⟩).sorted =
        .object [("functions", (Json.array (functions.map functionJson)).sorted)] := rfl
    rw [hjson, hfunctions]
    rfl
  | some e =>
    have hjson : (ParsedModule.shape.toJson ⟨functions, some e⟩).sorted =
        .object [("error", .string e),
          ("functions", (Json.array (functions.map functionJson)).sorted)] := rfl
    rw [hjson, hfunctions]
    rfl

/-- A function has no number that no program could hold. -/
theorem isHeld_function (f : FunctionSignature) : (functionJson f).IsHeld := by
  rw [functionJson, Json.isHeld_object]
  simp only [List.forall_mem_cons]
  exact ⟨.string f.name, isHeld_texts f.parameters, List.forall_mem_nil _⟩

/-- The keys of a function are legible. -/
theorem legible_function (f : FunctionSignature) : (functionJson f).AllKeys Legible :=
  ⟨by decide, trivial, by decide, allKeys_texts _, trivial⟩

/-- A parsed module can be read back from what its outline shows. -/
theorem readable_module (m : ParsedModule) : Readable isColoured (.object (moduleMembers m)) := by
  have hfunctions : (Json.array (m.functions.map functionJson)).IsHeld :=
    Json.isHeld_array.2 (List.forall_mem_map.2 fun f _ => isHeld_function f)
  have hkeys : (Json.array (m.functions.map functionJson)).AllKeys Legible :=
    Json.allKeys_array.2 (List.forall_mem_map.2 fun f _ => legible_function f)
  constructor
  · rw [Json.isHeld_object, moduleMembers, List.forall_mem_append, List.forall_mem_singleton]
    exact ⟨List.forall_mem_map.2 fun e _ => .string e, hfunctions⟩
  · intro _
    rw [Json.allKeys_object, moduleMembers, List.forall_mem_append, List.forall_mem_singleton]
    have herror : Legible "error" := by decide
    have hname : Legible "functions" := by decide
    exact ⟨List.forall_mem_map.2 fun e _ => ⟨herror, trivial⟩, hname, hkeys⟩

/-- Modules are alike if their functions are, one by one, and their errors are. -/
theorem alikeModule_iff {m m' : ParsedModule} :
    AlikeModule m m' ↔
      List.Forall₂ AlikeFunction m.functions m'.functions ∧ Option.Rel AlikeText m.error m'.error :=
  ⟨fun h => ⟨h.functions, h.error⟩, fun h => ⟨h.1, h.2⟩⟩

/-- The outlines of two parsed modules are the same exactly if the modules are alike. -/
theorem outline_module_iff {m m' : ParsedModule} :
    outline isColoured (ParsedModule.shape.toJson m) =
        outline isColoured (ParsedModule.shape.toJson m') ↔ AlikeModule m m' := by
  have hne (m : ParsedModule) : moduleMembers m ≠ [] := by simp [moduleMembers]
  have hfunctions {fs gs : List FunctionSignature} :
      view isColoured (.array (fs.map functionJson)) =
          view isColoured (.array (gs.map functionJson)) ↔
        List.Forall₂ AlikeFunction fs gs := by
    rw [view_array_eq_iff]
    exact itemViews_map_eq_iff fun _ _ => view_function_eq_iff
  rw [outline_object_iff (sorted_module m) (sorted_module m') (hne m) (hne m'),
    members_eq_iff (readable_module m) (readable_module m'), alikeModule_iff]
  obtain ⟨functions, error⟩ := m
  obtain ⟨functions', error'⟩ := m'
  cases error with
  | none =>
    cases error' with
    | none => simp [moduleMembers, errorMembers, memberViews_cons_eq_iff, hfunctions]
    | some e' => simp [moduleMembers, errorMembers, memberViews_cons_eq_iff]
  | some e =>
    cases error' with
    | none => simp [moduleMembers, errorMembers, memberViews_cons_eq_iff]
    | some e' =>
      simp [moduleMembers, errorMembers, memberViews_cons_eq_iff, hfunctions, view_string_eq_iff,
        and_comm]

/-! ## Transforms -/

/-- Reports that can be printed: the path that each was made for is a text. -/
def Printable (rs : List TransformReport) : Prop :=
  ∀ r ∈ rs, ∃ path, r.file = .text path

/-- If a path is no text, the first such path keeps all reports from being printed. -/
theorem mapM_serialize_of_not_printable {rs : List TransformReport} (h : ¬ Printable rs) :
    rs.mapM TransformReport.serialize =
      .error (.plain ["path contains invalid UTF-8 characters"]) := by
  induction rs with
  | nil => exact absurd (List.forall_mem_nil _) h
  | cons r rs ih =>
    rw [List.mapM_cons, TransformReport.serialize]
    cases hfile : r.file with
    | raw bytes isNoText => rfl
    | text path =>
      have hrest : ¬ Printable rs := fun hrest =>
        h (List.forall_mem_cons.2 ⟨⟨path, hfile⟩, hrest⟩)
      rw [ih hrest]
      rfl

/-- Reports can be printed exactly if all paths are texts, each as the object of its members.
Reference: `format_output` on a list of `TransformReport`. -/
theorem mapM_serialize_eq_ok_iff {rs : List TransformReport} {values : List Json} :
    rs.mapM TransformReport.serialize = .ok values ↔
      Printable rs ∧ values = rs.map TransformReport.toJson := by
  have hprintable {rs : List TransformReport} (h : Printable rs) :
      rs.mapM TransformReport.serialize = .ok (rs.map TransformReport.toJson) := by
    induction rs with
    | nil => rfl
    | cons r rs ih =>
      obtain ⟨⟨path, hfile⟩, hrest⟩ := List.forall_mem_cons.1 h
      rw [List.mapM_cons, TransformReport.serialize, hfile, ih hrest]
      rfl
  constructor
  · intro h
    by_cases hp : Printable rs
    · exact ⟨hp, (Except.ok.inj ((hprintable hp).symm.trans h)).symm⟩
    · cases (mapM_serialize_of_not_printable hp).symm.trans h
  · rintro ⟨hp, rfl⟩
    exact hprintable hp

/-- The members of a report in their order in an outline. -/
def transformMembers (r : TransformReport) : List (String × Json) :=
  [("code_bytes", .ofInt r.codeBytes), ("declaration_bytes", .ofInt r.declarationBytes),
    ("file", .string r.file.shown), ("module", .string r.module), ("written", texts r.written)]

/-- A report with its members in the order of their names. -/
theorem sorted_transform (r : TransformReport) :
    r.toJson.sorted = .object (transformMembers r) := by
  have hjson : r.toJson.sorted =
      .object [("code_bytes", .ofInt r.codeBytes), ("declaration_bytes", .ofInt r.declarationBytes),
        ("file", .string r.file.shown), ("module", .string r.module),
        ("written", (texts r.written).sorted)] := rfl
  rw [hjson, sorted_texts]
  rfl

/-- Reports with their members in the order of their names. -/
theorem sorted_transforms (rs : List TransformReport) :
    (Json.array (rs.map TransformReport.toJson)).sorted =
      .array (rs.map fun r => .object (transformMembers r)) := by
  rw [Json.sorted, Json.sortedItems_eq, List.map_map]
  congr 1
  exact List.map_congr_left fun r _ => sorted_transform r

/-- Reports show the same exactly if they are alike. -/
theorem view_transform_eq_iff {r r' : TransformReport} :
    view isColoured (.object (transformMembers r)) =
        view isColoured (.object (transformMembers r')) ↔ AlikeTransform r r' := by
  rw [transformMembers, transformMembers, view_object_eq_iff]
  simp only [memberViews_cons_eq_iff, view_ofInt_eq_iff, view_string_eq_iff, view_texts_eq_iff,
    Int.natCast_inj, true_and, and_true]
  exact ⟨fun h => ⟨h.2.2.1, h.2.2.2.1, h.1, h.2.1, h.2.2.2.2⟩,
    fun h => ⟨h.codeBytes, h.declarationBytes, h.file, h.module, h.written⟩⟩

/-- The outlines of two lists of reports are the same exactly if the reports are alike, one by
one. -/
theorem outline_transforms_iff {rs rs' : List TransformReport} :
    outline isColoured (.array (rs.map TransformReport.toJson)) =
        outline isColoured (.array (rs'.map TransformReport.toJson)) ↔
      List.Forall₂ AlikeTransform rs rs' := by
  have hreadable (rs : List TransformReport) :
      Readable isColoured (.array (rs.map fun r => .object (transformMembers r))) := by
    constructor
    · refine Json.isHeld_array.2 (List.forall_mem_map.2 fun r _ => ?_)
      rw [Json.isHeld_object, transformMembers]
      simp only [List.forall_mem_cons]
      exact ⟨.number trivial, .number trivial, .string r.file.shown, .string r.module,
        isHeld_texts r.written, List.forall_mem_nil _⟩
    · refine fun _ => Json.allKeys_array.2 (List.forall_mem_map.2 fun r _ => ?_)
      exact ⟨by decide, trivial, by decide, trivial, by decide, trivial, by decide, trivial,
        by decide, allKeys_texts _, trivial⟩
  rw [outline_array_iff (sorted_transforms rs) (sorted_transforms rs') (hreadable rs)
    (hreadable rs')]
  exact itemViews_map_eq_iff fun _ _ => view_transform_eq_iff

end

end ModuleBridge.Report
