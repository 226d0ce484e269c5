import ModuleBridge.Proofs.Report.Records
import ModuleBridge.Report.Format

/-!
# What the formats tell apart

Both formats that are JSON tell any two values apart, since the text of a value determines it
(`Json.compact_inj`, `Json.indented_inj`). An outline tells two reports apart exactly if they do not
show the same (`formats_tell`): a string with line feeds is shown by its lines, so the line feed at
its end is lost (`formats_lose_lineFeed`), and without colours the free details are shown by their
texts alone (`formats_tell_number`).
-/

namespace ModuleBridge.Report

open Session (Status RegisterResponse ExecuteResponse)

section
variable {isColoured : Bool}

/-! ## The formats -/

/-- Details as a program holds them: their keys are in order, and their numbers are ones that it can
hold. -/
def HeldDetails (details : List Json) : Prop :=
  ∀ v ∈ details, v.sorted = v ∧ v.IsHeld

/-- What the formats tell apart in values of a type: both formats that are JSON tell any two values
apart, and the outline those that do not show the same. -/
def Tells {α : Type} (toJson : α → Json) (held : α → Prop) (alike : Bool → α → α → Prop) : Prop :=
  ∀ x y, held x → held y → ∀ isColoured,
    (OutputFormat.json.print isColoured (toJson x) =
        OutputFormat.json.print isColoured (toJson y) ↔ x = y) ∧
    (OutputFormat.text.print isColoured (toJson x) =
        OutputFormat.text.print isColoured (toJson y) ↔ x = y) ∧
    (OutputFormat.pretty.print isColoured (toJson x) =
        OutputFormat.pretty.print isColoured (toJson y) ↔ alike isColoured x y)

/-- The two formats that are JSON tell values of a type apart if these are told apart as JSON. -/
theorem Tells.of_outline {α : Type} {toJson : α → Json} {held : α → Prop}
    {alike : Bool → α → α → Prop} (hheld : ∀ x, held x → (toJson x).IsHeld)
    (hinj : ∀ x y, held x → held y → toJson x = toJson y → x = y)
    (houtline : ∀ x y, held x → held y → ∀ isColoured,
      outline isColoured (toJson x) = outline isColoured (toJson y) ↔ alike isColoured x y) :
    Tells toJson held alike := by
  intro x y hx hy isColoured
  refine ⟨⟨fun h => ?_, fun h => by rw [h]⟩, ⟨fun h => ?_, fun h => by rw [h]⟩,
    houtline x y hx hy isColoured⟩
  · exact hinj x y hx hy (Json.indented_inj (hheld x hx) (hheld y hy) h)
  · exact hinj x y hx hy (Json.compact_inj (hheld x hx) (hheld y hy) h)

/-- Lists of strings are told apart as values. -/
theorem texts_inj {xs ys : List String} (h : texts xs = texts ys) : xs = ys :=
  List.map_injective_iff.2 (fun _ _ => Json.string.inj) (Json.array.inj h)

/-- Functions are told apart as values. -/
theorem function_inj {f g : FunctionSignature} (h : functionJson f = functionJson g) : f = g := by
  simp only [functionJson, Json.object.injEq, List.cons.injEq, Prod.mk.injEq, Json.string.injEq,
    true_and, and_true] at h
  obtain ⟨_, _⟩ := f
  obtain ⟨_, _⟩ := g
  rw [FunctionSignature.mk.injEq]
  exact ⟨h.1, texts_inj h.2⟩

/-- Statuses are told apart as values. -/
theorem status_inj {s t : Status} (h : Status.shape.toJson s = Status.shape.toJson t) :
    s = t := by
  obtain ⟨_, _, _⟩ := s
  obtain ⟨_, _, _⟩ := t
  simpa [toJson_status, Json.ofInt] using h

/-- A status with held details is held. -/
theorem isHeld_status {s : Status} (h : HeldDetails s.details) :
    (Status.shape.toJson s).IsHeld := by
  rw [toJson_status, Json.isHeld_object]
  simp only [List.forall_mem_cons]
  exact ⟨.number trivial, .string s.message, .array fun v hv => (h v hv).2, List.forall_mem_nil _⟩

/-- What the formats tell apart in replies to a registration. -/
theorem tells_register : Tells RegisterResponse.shape.toJson (fun r => HeldDetails r.status.details)
    fun isColoured r r' => AlikeStatus isColoured r.status r'.status := by
  have hjson (r : RegisterResponse) :
      RegisterResponse.shape.toJson r = .object [("status", Status.shape.toJson r.status)] := rfl
  refine .of_outline (fun r h => ?_) (fun r r' _ _ h => ?_) fun r r' h h' isColoured => ?_
  · rw [hjson, Json.isHeld_object, List.forall_mem_singleton]
    exact isHeld_status h
  · rw [hjson, hjson] at h
    obtain ⟨_⟩ := r
    obtain ⟨_⟩ := r'
    simp only [Json.object.injEq, List.cons.injEq, Prod.mk.injEq, true_and, and_true] at h
    rw [status_inj h]
  · exact outline_register_iff (fun v hv => (h v hv).1) fun v hv => (h' v hv).1

/-- What the formats tell apart in replies to a script. -/
theorem tells_reply : Tells ExecuteResponse.shape.toJson (fun r => HeldDetails r.status.details)
    AlikeReply := by
  have hjson (r : ExecuteResponse) : ExecuteResponse.shape.toJson r =
      .object [("status", Status.shape.toJson r.status), ("d3Log", .string r.d3Log),
        ("pythonLog", .string r.pythonLog), ("returnValue", .string r.returnValue)] := rfl
  refine .of_outline (fun r h => ?_) (fun r r' _ _ h => ?_) fun r r' h h' isColoured => ?_
  · rw [hjson, Json.isHeld_object]
    simp only [List.forall_mem_cons]
    exact ⟨isHeld_status h, .string _, .string _, .string _, List.forall_mem_nil _⟩
  · rw [hjson, hjson] at h
    obtain ⟨_, _, _, _⟩ := r
    obtain ⟨_, _, _, _⟩ := r'
    simp only [Json.object.injEq, List.cons.injEq, Prod.mk.injEq, Json.string.injEq, true_and,
      and_true] at h
    rw [status_inj h.1, h.2.1, h.2.2.1, h.2.2.2]
  · exact outline_reply_iff (fun v hv => (h v hv).1) fun v hv => (h' v hv).1

/-- What the formats tell apart in answers of an introspection. -/
theorem tells_module :
    Tells ParsedModule.shape.toJson (fun _ => True) fun _ m m' => AlikeModule m m' := by
  have hjson (m : ParsedModule) : ParsedModule.shape.toJson m =
      .object (("functions", .array (m.functions.map functionJson)) :: errorMembers m) := by
    obtain ⟨_, error⟩ := m
    cases error <;> rfl
  refine .of_outline (fun m _ => ?_) (fun m m' _ _ h => ?_) fun m m' _ _ isColoured =>
    outline_module_iff
  · rw [hjson, Json.isHeld_object, List.forall_mem_cons]
    exact ⟨.array (List.forall_mem_map.2 fun f _ => isHeld_function f),
      List.forall_mem_map.2 fun e _ => .string e⟩
  · rw [hjson, hjson, Json.object.injEq, List.cons.injEq, Prod.mk.injEq, Json.array.injEq] at h
    obtain ⟨⟨-, hfunctions⟩, herror⟩ := h
    have hsame : m.functions = m'.functions :=
      List.map_injective_iff.2 (fun _ _ => function_inj) hfunctions
    obtain ⟨functions, error⟩ := m
    obtain ⟨functions', error'⟩ := m'
    simp only at hsame
    rw [hsame]
    cases error <;> cases error' <;> simp_all [errorMembers]

/-- Reports of a transform are told apart by their members if their paths are texts. -/
theorem transform_inj {r r' : TransformReport} (hr : ∃ path, r.file = .text path)
    (hr' : ∃ path, r'.file = .text path) (h : r.toJson = r'.toJson) : r = r' := by
  obtain ⟨path, hfile⟩ := hr
  obtain ⟨path', hfile'⟩ := hr'
  obtain ⟨_, _, _, _, _⟩ := r
  obtain ⟨_, _, _, _, _⟩ := r'
  cases hfile
  cases hfile'
  simp only [TransformReport.toJson, Files.GivenPath.shown, Json.ofInt, Json.object.injEq,
    List.cons.injEq, Prod.mk.injEq, Json.string.injEq, Json.number.injEq,
    JsonNumber.integer.injEq, Int.natCast_inj, true_and, and_true] at h
  rw [h.1, h.2.1, h.2.2.1, h.2.2.2.1, texts_inj h.2.2.2.2]

/-- What the formats tell apart in the reports of a transform. -/
theorem tells_transforms : Tells (fun rs => .array (rs.map TransformReport.toJson)) Printable
    fun _ rs rs' => List.Forall₂ AlikeTransform rs rs' := by
  have hjson (r : TransformReport) : r.toJson =
      .object [("file", .string r.file.shown), ("module", .string r.module),
        ("code_bytes", .ofInt r.codeBytes), ("declaration_bytes", .ofInt r.declarationBytes),
        ("written", texts r.written)] := rfl
  refine .of_outline (fun rs _ => .array (List.forall_mem_map.2 fun r _ => ?_))
    (fun rs rs' hp hp' h => ?_) fun rs rs' _ _ isColoured => outline_transforms_iff
  · rw [hjson, Json.isHeld_object]
    simp only [List.forall_mem_cons]
    exact ⟨.string r.file.shown, .string r.module, .number trivial, .number trivial,
      isHeld_texts r.written, List.forall_mem_nil _⟩
  · replace h := Json.array.inj h
    induction rs generalizing rs' with
    | nil => exact (List.map_eq_nil_iff.1 h.symm).symm
    | cons r rs ih =>
      obtain ⟨r', rs', rfl⟩ := List.exists_cons_of_ne_nil
        (l := rs') fun hnil => by simp [hnil] at h
      obtain ⟨hr, hrest⟩ := List.forall_mem_cons.1 hp
      obtain ⟨hr', hrest'⟩ := List.forall_mem_cons.1 hp'
      obtain ⟨hhead, htail⟩ := List.cons.inj h
      rw [transform_inj hr hr' hhead, ih rs' hrest hrest' htail]

/-- Details show the same if their views are the same: with colours always, and without colours if
their keys are legible. -/
theorem alikeDetails_iff_views {details details' : List Json} (h : HeldDetails details)
    (h' : HeldDetails details')
    (hkeys : isColoured = false → ∀ v ∈ details ++ details', v.AllKeys Legible) :
    AlikeDetails isColoured details details' ↔
      itemViews isColoured details = itemViews isColoured details' := by
  have hreadable {details : List Json} (h : HeldDetails details)
      (hkeys : isColoured = false → ∀ v ∈ details, v.AllKeys Legible) :
      Readable isColoured (.array details) :=
    ⟨.array fun v hv => (h v hv).2, fun hc => Json.allKeys_array.2 (hkeys hc)⟩
  rw [alikeDetails_iff, text_eq_iff
    (hreadable h fun hc v hv => hkeys hc v (List.mem_append_left _ hv))
    (hreadable h' fun hc v hv => hkeys hc v (List.mem_append_right _ hv)), view_array_eq_iff]

/-- **What the formats tell apart.** For every type of report the formats that are JSON tell any two
values apart, and the outline exactly those that do not show the same: every field with a name shows
in full, but for the ends of the lines of a string, and free details show as their rows. The reports
of a transform are printed exactly if their paths are texts. With colours these are their structure,
their keys and their values with their types; without colours, if the keys are legible, their
structure, their keys and the bare texts of their values. Reference: `format_output`. -/
theorem formats_tell :
    Tells ExecuteResponse.shape.toJson (fun r => HeldDetails r.status.details) AlikeReply ∧
    Tells RegisterResponse.shape.toJson (fun r => HeldDetails r.status.details)
      (fun isColoured r r' => AlikeStatus isColoured r.status r'.status) ∧
    Tells ParsedModule.shape.toJson (fun _ => True) (fun _ => AlikeModule) ∧
    Tells (fun rs => .array (rs.map TransformReport.toJson)) Printable
      (fun _ => List.Forall₂ AlikeTransform) ∧
    (∀ rs values, rs.mapM TransformReport.serialize = .ok values ↔
      Printable rs ∧ values = rs.map TransformReport.toJson) ∧
    ∀ isColoured details details', HeldDetails details → HeldDetails details' →
      (isColoured = false → ∀ v ∈ details ++ details', v.AllKeys Legible) →
      (AlikeDetails isColoured details details' ↔
        itemViews isColoured details = itemViews isColoured details') :=
  ⟨tells_reply, tells_register, tells_module, tells_transforms,
    fun _ _ => mapM_serialize_eq_ok_iff, fun _ _ _ => alikeDetails_iff_views⟩

/-- A reply with nothing but details. -/
def replyOf (details : List Json) : ExecuteResponse :=
  ⟨⟨0, "", details⟩, "", "", ""⟩

/-- Without colours a number shows like the string of its digits; with colours it does not. -/
theorem formats_tell_number :
    OutputFormat.pretty.print false (ExecuteResponse.shape.toJson (replyOf [.ofInt 1])) =
        OutputFormat.pretty.print false (ExecuteResponse.shape.toJson (replyOf [.string "1"])) ∧
      OutputFormat.pretty.print true (ExecuteResponse.shape.toJson (replyOf [.ofInt 1])) ≠
        OutputFormat.pretty.print true (ExecuteResponse.shape.toJson (replyOf [.string "1"])) := by
  have hnumber : HeldDetails [.ofInt 1] := List.forall_mem_singleton.2 ⟨rfl, .number trivial⟩
  have hstring : HeldDetails [.string "1"] := List.forall_mem_singleton.2 ⟨rfl, .string "1"⟩
  obtain ⟨hreply, -, -, -, -, hviews⟩ := formats_tell
  have hpretty (isColoured : Bool) :=
    (hreply (replyOf [.ofInt 1]) (replyOf [.string "1"]) hnumber hstring isColoured).2.2
  have hkeys : ∀ v ∈ [Json.ofInt 1] ++ [.string "1"], v.AllKeys Legible :=
    List.forall_mem_cons.2 ⟨trivial, List.forall_mem_singleton.2 trivial⟩
  constructor
  · refine (hpretty false).2 ⟨⟨rfl, .inl rfl, ?_⟩, .inl rfl, .inl rfl, .inl rfl⟩
    exact (hviews false _ _ hnumber hstring fun _ => hkeys).2 rfl
  · intro h
    have hsame := (hviews true _ _ hnumber hstring nofun).1 ((hpretty true).1 h).status.details
    cases hsame

/-- Equal outlines do not mean equal replies, with colours or without: the line feed at the end of a
log is not shown. -/
theorem formats_lose_lineFeed :
    ¬ ∃ isColoured, ∀ r r' : ExecuteResponse,
      HeldDetails r.status.details → HeldDetails r'.status.details →
      OutputFormat.pretty.print isColoured (ExecuteResponse.shape.toJson r) =
        OutputFormat.pretty.print isColoured (ExecuteResponse.shape.toJson r') → r = r' := by
  rintro ⟨isColoured, h⟩
  have hsame := h ⟨⟨0, "", []⟩, "", "one\ntwo", ""⟩ ⟨⟨0, "", []⟩, "", "one\ntwo\n", ""⟩
    (List.forall_mem_nil _) (List.forall_mem_nil _) (by cases isColoured <;> rfl)
  simp at hsame

end

end ModuleBridge.Report
