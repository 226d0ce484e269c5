import ModuleBridge.Proofs.Report.Formats
import ModuleBridge.Proofs.Report.Outline
import ModuleBridge.Proofs.Wire.RoundTrip

/-!
# The printed reports of a transform

What is printed for the reports of a transform is described by what can be read back from it
(`Shows`): from JSON the reports themselves, from an outline without colours the rows of each report
in turn, and from any outline the reports up to the ends of the lines of their texts. Reports whose
paths are texts are printed so (`shows_print`).
-/

namespace ModuleBridge

open Wire (Fields Shape)

namespace TransformReport

/-- How reports are read back whose paths are texts. -/
def shape : Shape TransformReport :=
  .record "TransformReport"
    (.cons { name := "file" } .path
      (.cons { name := "module" } .text
        (.cons { name := "code_bytes" } .integer
          (.cons { name := "declaration_bytes" } .integer
            (.cons { name := "written" } (.list .path) .nil)))))
    (fun (file, module, codeBytes, declarationBytes, written, ()) =>
      ⟨.text file, module, codeBytes.toNat, declarationBytes.toNat, written⟩)
    (fun r => (r.file.shown, r.module, r.codeBytes, r.declarationBytes, r.written, ()))

/-- The sizes are those of texts that a program can hold. -/
structure Fits (r : TransformReport) : Prop where
  codeBytes : r.codeBytes < Wire.int64Bound
  declarationBytes : r.declarationBytes < Wire.int64Bound

/-- The shape of reports writes them as they are written. -/
theorem toJson_shape (r : TransformReport) : shape.toJson r = r.toJson := by
  rfl

/-- A report is kept by its shape if its path is a text and its sizes are ones of 64 bits. -/
theorem keeps {r : TransformReport} (hr : ∃ path, r.file = .text path) (hfits : r.Fits) :
    shape.Keeps r := by
  obtain ⟨file, module, codeBytes, declarationBytes, written⟩ := r
  obtain ⟨path, rfl⟩ := hr
  obtain ⟨hcode, hdeclarations⟩ := hfits
  have hint {n : Nat} (h : n < Wire.int64Bound) : Wire.isInt64 n = true := by
    simp only [Wire.isInt64, Bool.and_eq_true, decide_eq_true_eq]
    omega
  simp [shape, Fields.toMembers, Wire.Field.named, hint hcode, hint hdeclarations]

end TransformReport

namespace Report

/-- The rows of the reports of a transform: an item for each, and inside it its members. -/
def reportRows : List TransformReport → List String
  | [] => ["[]"]
  | r :: rs =>
    (itemEntries 0 ((r :: rs).map fun r => .object (transformMembers r))).flatMap Entry.rows

/-- What a text shows that was printed for reports. -/
structure Shows (format : OutputFormat) (isColoured : Bool) (rs : List TransformReport)
    (text : String) : Prop where
  decodes : format ≠ .pretty → (∀ r ∈ rs, r.Fits) →
    (Shape.list TransformReport.shape).parse (Text.Utf8.bytes text) = .ok rs
  rows : format = .pretty → isColoured = false → Text.rows text = reportRows rs
  /-- An outline is that of reports that show the same, and of no others. -/
  alike : format = .pretty → ∀ rs',
    outline isColoured (.array (rs'.map TransformReport.toJson)) = text ↔
      List.Forall₂ AlikeTransform rs' rs

section
variable {format : OutputFormat} {isColoured : Bool} {rs : List TransformReport} {text : String}

/-- The rows of the outline of reports. -/
theorem rows_outline_reports (rs : List TransformReport) :
    Text.rows (outline false (.array (rs.map TransformReport.toJson))) = reportRows rs := by
  have hkeys : (Json.array (rs.map TransformReport.toJson)).AllKeys Text.OneRow := by
    refine Json.allKeys_array.2 (List.forall_mem_map.2 fun r _ => ?_)
    exact ⟨by decide, trivial, by decide, trivial, by decide, trivial, by decide, trivial,
      by decide, allKeys_texts _, trivial⟩
  obtain ⟨hrows, -⟩ := rows_outline _ (.array _) hkeys
  rw [hrows]
  cases rs with
  | nil => rfl
  | cons r rs =>
    have hentries : outlineRows (.array ((r :: rs).map TransformReport.toJson)) =
        (entries 0 (Json.array ((r :: rs).map TransformReport.toJson)).sorted).flatMap
          Entry.rows := rfl
    rw [hentries, sorted_transforms, entries]
    rfl

/-- Reports whose paths are texts are shown by what is printed for them. -/
theorem shows_print (h : Printable rs) (format : OutputFormat) (isColoured : Bool) :
    Shows format isColoured rs
      (format.print isColoured (.array (rs.map TransformReport.toJson))) := by
  refine ⟨fun hformat hfits => ?_, fun hformat hplain => ?_, fun hformat rs' => ?_⟩
  · have hkeeps : (Shape.list TransformReport.shape).Keeps rs :=
      fun r hr => TransformReport.keeps (h r hr) (hfits r hr)
    have hback := Shape.PrintsBack.of_brackets hkeeps rfl (by decide)
    refine hback format ?_ isColoured
    cases format with
    | json => exact List.mem_cons_of_mem _ List.mem_cons_self
    | text => exact List.mem_cons_self
    | pretty => exact absurd rfl hformat
  · rw [hformat, hplain]
    exact rows_outline_reports rs
  · rw [hformat]
    exact outline_transforms_iff

end

end Report

end ModuleBridge
