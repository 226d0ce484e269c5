import Mathlib.Data.List.Nodup
import ModuleBridge.Options
import ModuleBridge.Proofs.Wire.Records

/-!
# Documents that stand for options

Options may be written as any object whose members give some fields, each under one of its names and
in any spelling, in any order and with members of no field between them. Each such member stands for
an entry (`OptionEntry.Stands`). A document whose entries give no field twice is read as the options
that they describe, in which the other fields have their defaults; one that gives a field twice is
refused, and so is one whose contract does (`LoaderOptions.parse_document`).
-/

namespace ModuleBridge

open Json (IsValue IsObject Padded SpellsString IsGap)
open Text.Utf8 (encode bytes)
open Wire (Shape Fields)

/-! ## Contracts -/

/-- What a member of a contract says. -/
inductive ContractEntry
  | sourceField (value : SourceField)
  /-- Something under a key that no field has. -/
  | other

namespace ContractEntry

/-- The keys that are read. -/
def keys : List String := ["register_source_field", "registerSourceField"]

/-- The names of the variants. -/
def variants : List (String × SourceField) :=
  [("contents", .contents), ("sourceCode", .sourceCode), ("source_code", .sourceCode)]

/-- A member with the key and the text of a value stands for the entry. -/
inductive Stands : ContractEntry → String → List Char → Prop
  | sourceField {value : SourceField} {key name : String} {text : List Char} (hkey : key ∈ keys)
    (hname : (name, value) ∈ variants) (h : SpellsString text name) :
    Stands (.sourceField value) key text
  | other {key : String} {text : List Char} (hkey : key ∉ keys) (h : IsValue text) :
    Stands .other key text

/-- The name of the field that an entry gives. -/
def field? : ContractEntry → Option String
  | .sourceField _ => some "register_source_field"
  | .other => none

/-- The entry says what the contract is. -/
def Holds (c : WireContract) : ContractEntry → Prop
  | .sourceField value => c.sourceField = value
  | .other => True

end ContractEntry

/-- The names of the fields that are given. -/
def ContractEntry.given (entries : List ContractEntry) : List String :=
  entries.filterMap ContractEntry.field?

/-- The contract is what the entries say, and has the default where they say nothing. -/
structure WireContract.DescribedBy (c : WireContract) (entries : List ContractEntry) : Prop where
  holds : ∀ e ∈ entries, e.Holds c
  sourceField : "register_source_field" ∉ ContractEntry.given entries → c.sourceField = .contents

/-! ## Options -/

/-- What a member of options says. -/
inductive OptionEntry
  | generateJavascript (value : Bool)
  | generateTypeDefinitions (value : Bool)
  | runtimePackage (value : String)
  | python (value : Option String)
  | wire (entries : List ContractEntry)
  /-- Something under a key that no field has. -/
  | other

namespace OptionEntry

/-- The keys that are read. -/
def keys : List String :=
  ["generate_javascript", "generateJavascript", "generate_type_definitions",
    "generateTypeDefinitions", "runtime_package", "runtimePackage", "python", "wire"]

/-- The text of a truth value. -/
def flagText (value : Bool) : List Char := (if value then "true" else "false").toList

/-- A member with the key and the text of a value stands for the entry. -/
inductive Stands : OptionEntry → String → List Char → Prop
  | generateJavascript {value : Bool} {key : String}
    (hkey : key ∈ ["generate_javascript", "generateJavascript"]) :
    Stands (.generateJavascript value) key (flagText value)
  | generateTypeDefinitions {value : Bool} {key : String}
    (hkey : key ∈ ["generate_type_definitions", "generateTypeDefinitions"]) :
    Stands (.generateTypeDefinitions value) key (flagText value)
  | runtimePackage {value key : String} {text : List Char}
    (hkey : key ∈ ["runtime_package", "runtimePackage"]) (h : SpellsString text value) :
    Stands (.runtimePackage value) key text
  | noPython : Stands (.python none) "python" "null".toList
  | python {value : String} {text : List Char} (h : SpellsString text value) :
    Stands (.python (some value)) "python" text
  | wire {entries : List ContractEntry} {text : List Char}
    (h : IsObject ContractEntry.Stands entries text) : Stands (.wire entries) "wire" text
  | other {key : String} {text : List Char} (hkey : key ∉ keys) (h : IsValue text) :
    Stands .other key text

/-- The name of the field that an entry gives. -/
def field? : OptionEntry → Option String
  | .generateJavascript _ => some "generate_javascript"
  | .generateTypeDefinitions _ => some "generate_type_definitions"
  | .runtimePackage _ => some "runtime_package"
  | .python _ => some "python"
  | .wire _ => some "wire"
  | .other => none

/-- The entry says what an option is. -/
def Holds (o : LoaderOptions) : OptionEntry → Prop
  | .generateJavascript value => o.generateJavascript = value
  | .generateTypeDefinitions value => o.generateTypeDefinitions = value
  | .runtimePackage value => o.runtimePackage = value
  | .python value => o.python = value
  | .wire entries => o.wire.DescribedBy entries
  | .other => True

/-- The names of the fields that are given. -/
def given (entries : List OptionEntry) : List String := entries.filterMap field?

/-- A field is given twice, in the options or in a contract. -/
inductive GivenTwice (entries : List OptionEntry) (name : String) : Prop
  | here (h : 2 ≤ (given entries).count name)
  | inside {contract : List ContractEntry} (hmem : .wire contract ∈ entries)
    (h : 2 ≤ (ContractEntry.given contract).count name)

end OptionEntry

namespace LoaderOptions

/-- The options are what the entries say, and have the defaults where they say nothing. -/
structure DescribedBy (o : LoaderOptions) (entries : List OptionEntry) : Prop where
  holds : ∀ e ∈ entries, e.Holds o
  generateJavascript :
    "generate_javascript" ∉ OptionEntry.given entries → o.generateJavascript = false
  generateTypeDefinitions :
    "generate_type_definitions" ∉ OptionEntry.given entries → o.generateTypeDefinitions = true
  runtimePackage : "runtime_package" ∉ OptionEntry.given entries →
    o.runtimePackage = "@disguise-one/designer-pythonapi"
  python : "python" ∉ OptionEntry.given entries → o.python = none
  wire : "wire" ∉ OptionEntry.given entries → o.wire = {}

/-- The text is an object for the entries, with blanks around it. -/
def IsDocument (entries : List OptionEntry) (text : List Char) : Prop :=
  ∃ p : Padded, p.IsSpaced ∧ IsObject OptionEntry.Stands entries p.inner ∧ text = p.text

end LoaderOptions

/-! ## Contracts -/

namespace ContractEntry

section
variable {e : ContractEntry} {entries : List ContractEntry} {known : Option WireContract}
  {key name : String} {text : List Char} {nesting : Nat}

/-- A member that stands for an entry is read into the entry's field. -/
theorem reads?_of_stands (h : e.Stands key text) :
    WireContract.fields.reads? key = e.field? := by
  cases h with
  | sourceField hkey =>
    simp only [keys, List.mem_cons, List.not_mem_nil, or_false] at hkey
    rcases hkey with rfl | rfl <;> rfl
  | other hkey =>
    simp only [keys, List.mem_cons, List.not_mem_nil, or_false, not_or] at hkey
    simp [WireContract.fields, Fields.reads?, Wire.Field.named, field?, hkey, Ne.symm]

/-- A variant is found by its name. -/
theorem variant?_of_mem {value : SourceField} (h : (name, value) ∈ variants) :
    Wire.variant? variants name = .ok value := by
  simp only [variants, List.mem_cons, List.not_mem_nil, or_false, Prod.mk.injEq] at h
  obtain ⟨rfl, rfl⟩ | ⟨rfl, rfl⟩ | ⟨rfl, rfl⟩ := h <;> rfl

/-- What stands for an entry is a value of its field. -/
theorem admits_of_stands (h : e.Stands key text) (hholds : ∀ c ∈ known, e.Holds c) :
    WireContract.fields.Admits nesting (known.map (·.sourceField), ()) key (encode text) := by
  cases h with
  | @sourceField value key name text hkey hname h =>
    have htakes : (SourceField.shape.read nesting).Takes (encode text) value :=
      Shape.takes_readChoice_of_spells h (variant?_of_mem hname) nesting
    have hknown : ∀ y ∈ known.map (·.sourceField), value = y := by
      intro y hy
      obtain ⟨c, hc, rfl⟩ := Option.map_eq_some_iff.1 hy
      exact (hholds c hc).symm
    simp only [keys, List.mem_cons, List.not_mem_nil, or_false] at hkey
    rcases hkey with rfl | rfl
    · exact Fields.admits_of_named rfl htakes hknown
    · exact Fields.admits_of_named rfl htakes hknown
  | other hkey h =>
    exact Fields.admits_of_reads?_eq_none (reads?_of_stands (.other hkey h))
      (Json.Reader.takes_skipValue h)

/-- A contract is read unless it gives its field twice, and then it is refused. If one is described,
that is the one that is read. -/
theorem reads_object (nesting : Nat) (h : IsObject Stands entries text)
    (hknown : ∀ c ∈ known, c.DescribedBy entries) :
    ((∃ c, (WireContract.shape.read (nesting + 1)).Takes (encode text) c ∧ ∀ d ∈ known, c = d) ∧
      ∀ name, ¬2 ≤ (given entries).count name) ∨
    ∃ name, (WireContract.shape.read (nesting + 1)).Refuses (encode text) (.duplicateField name) ∧
      2 ≤ (given entries).count name := by
  obtain ⟨ms, gap, hgap, rfl, hentries⟩ := h
  have hnames : WireContract.fields.names.Nodup := by decide
  have hreading := Fields.exists_reading nesting (fun _ _ => False) hentries reads?_of_stands
    (fun e he _ _ h => .inl
      ⟨admits_of_stands h fun c hc => (hknown c hc).holds e he, fun _ => not_false⟩) .nil
  rw [List.append_nil] at hreading
  rcases hreading with ⟨seen, h, hnodup, hperm, -⟩ | ⟨cause, h, ⟨f, rfl, hcount⟩ | ⟨_, _, hbad⟩⟩
  · refine .inl ⟨?_, fun name => ?_⟩
    · cases known with
      | none =>
        obtain ⟨c, htakes⟩ := Shape.exists_takes_object h hnames hgap ⟨rfl, trivial⟩
        exact ⟨c, htakes, nofun⟩
      | some c =>
        have hdefaults : WireContract.fields.Defaults seen (c.sourceField, ()) := by
          refine ⟨fun hmem => ?_, trivial⟩
          rw [(hknown c rfl).sourceField fun hgiven => hmem (hperm.mem_iff.2 hgiven)]
        exact ⟨c, Shape.takes_object h hnames hgap hdefaults, fun d hd => by cases hd; rfl⟩
    · rw [given, ← hperm.count_eq]
      exact Nat.not_lt.2 (List.nodup_iff_count_le_one.1 hnodup name)
  · exact .inr ⟨f, Shape.refuses_object h hnames hgap, hcount⟩
  · exact hbad.elim

end

end ContractEntry

/-! ## Options -/

namespace OptionEntry

/-- The entry is a contract that gives a field twice, and the cause says which. -/
def Blames (e : OptionEntry) (cause : Json.Cause) : Prop :=
  ∃ contract name, e = .wire contract ∧ cause = .duplicateField name ∧
    2 ≤ (ContractEntry.given contract).count name

section
variable {e : OptionEntry} {entries : List OptionEntry} {known : Option LoaderOptions}
  {key name : String} {text : List Char} {nesting : Nat}

theorem reads?_of_stands (h : e.Stands key text) :
    LoaderOptions.fields.reads? key = e.field? := by
  cases h with
  | generateJavascript hkey | generateTypeDefinitions hkey | runtimePackage hkey =>
    simp only [List.mem_cons, List.not_mem_nil, or_false] at hkey
    rcases hkey with rfl | rfl <;> rfl
  | noPython | python | wire => rfl
  | other hkey =>
    simp only [keys, List.mem_cons, List.not_mem_nil, or_false, not_or] at hkey
    simp [LoaderOptions.fields, Fields.reads?, Wire.Field.named, field?, hkey, Ne.symm]

/-- Just what is said of the contract can be blamed. -/
theorem not_blames (h : ∀ contract, e ≠ .wire contract) (cause : Json.Cause) : ¬e.Blames cause := by
  rintro ⟨contract, -, heq, -⟩
  exact h contract heq

/-- What is known of options, as slots of their fields. -/
def slots (known : Option LoaderOptions) :
    Option Bool × Option Bool × Option String × Option (Option String) × Option WireContract ×
      Unit :=
  (known.map (·.generateJavascript), known.map (·.generateTypeDefinitions),
    known.map (·.runtimePackage), known.map (·.python), known.map (·.wire), ())

/-- A flag is read back. -/
theorem takes_flagText (value : Bool) : Shape.readFlag.Takes (encode (flagText value)) value := by
  have htakes : Shape.readFlag.Takes (encode (Json.renderIn .compact 0 (.bool value))) value :=
    Shape.takes_readFlag value
  cases value with
  | true => exact htakes
  | false => exact htakes

/-- What is known is known through a function, too. -/
theorem eq_of_mem_map {α β : Type} {f : α → β} {known : Option α} {x : β}
    (h : ∀ a ∈ known, f a = x) : ∀ y ∈ known.map f, x = y := by
  intro y hy
  obtain ⟨a, ha, rfl⟩ := Option.map_eq_some_iff.1 hy
  exact (h a ha).symm

/-- The member of the interpreter is admitted if its value is the one that is known. -/
theorem admits_python {value : Option String} {text : List UInt8}
    (htakes : ((Shape.optional .path).read nesting).Takes text value)
    (hholds : ∀ o ∈ known, o.python = value) :
    LoaderOptions.fields.Admits nesting (slots known) "python" text := by
  iterate 3 refine Fields.admits_of_not_named (by decide) ?_
  exact Fields.admits_of_named rfl htakes (eq_of_mem_map hholds)

/-- What stands for a contract is one, the known one if it is known, or gives a field twice. -/
theorem value_of_contract {contract : List ContractEntry}
    (h : IsObject ContractEntry.Stands contract text)
    (hholds : ∀ o ∈ known, o.wire.DescribedBy contract) :
    (LoaderOptions.fields.Admits (nesting + 1) (slots known) "wire" (encode text) ∧
      ∀ cause, ¬(OptionEntry.wire contract).Blames cause) ∨
    ∃ cause, LoaderOptions.fields.Bars (nesting + 1) cause "wire" (encode text) ∧
      (OptionEntry.wire contract).Blames cause := by
  have hknown : ∀ c ∈ known.map (·.wire), c.DescribedBy contract := by
    intro c hc
    obtain ⟨o, ho, rfl⟩ := Option.map_eq_some_iff.1 hc
    exact hholds o ho
  rcases ContractEntry.reads_object nesting h hknown with
    ⟨⟨c, htakes, hc⟩, honce⟩ | ⟨name, hrefuses, htwice⟩
  · refine .inl ⟨?_, ?_⟩
    · iterate 4 refine Fields.admits_of_not_named (by decide) ?_
      exact Fields.admits_of_named rfl htakes hc
    · rintro cause ⟨_, name, heq, -, htwice⟩
      cases heq
      exact honce name htwice
  · refine .inr ⟨.duplicateField name, ?_, contract, name, rfl, rfl, htwice⟩
    iterate 4 refine Fields.bars_of_not_named (by decide) ?_
    exact Fields.bars_of_named rfl hrefuses

/-- What stands for an entry is a value of its field, unless it is a contract that gives a field
twice. Then it is refused. -/
theorem value_of_stands (h : e.Stands key text) (hholds : ∀ o ∈ known, e.Holds o) :
    (LoaderOptions.fields.Admits (nesting + 1) (slots known) key (encode text) ∧
      ∀ cause, ¬e.Blames cause) ∨
    ∃ cause, LoaderOptions.fields.Bars (nesting + 1) cause key (encode text) ∧ e.Blames cause := by
  cases h with
  | @generateJavascript value key hkey =>
    have htakes : (Shape.flag.read (nesting + 1)).Takes _ value := takes_flagText value
    simp only [List.mem_cons, List.not_mem_nil, or_false] at hkey
    refine .inl ⟨?_, not_blames nofun⟩
    rcases hkey with rfl | rfl
    all_goals exact Fields.admits_of_named rfl htakes (eq_of_mem_map hholds)
  | @generateTypeDefinitions value key hkey =>
    have htakes : (Shape.flag.read (nesting + 1)).Takes _ value := takes_flagText value
    simp only [List.mem_cons, List.not_mem_nil, or_false] at hkey
    refine .inl ⟨?_, not_blames nofun⟩
    rcases hkey with rfl | rfl
    all_goals
      refine Fields.admits_of_not_named (by decide) ?_
      exact Fields.admits_of_named rfl htakes (eq_of_mem_map hholds)
  | @runtimePackage value key text hkey h =>
    have htakes : (Shape.text.read (nesting + 1)).Takes (encode text) value :=
      Shape.takes_readString_of_spells _ h
    simp only [List.mem_cons, List.not_mem_nil, or_false] at hkey
    refine .inl ⟨?_, not_blames nofun⟩
    rcases hkey with rfl | rfl
    all_goals
      iterate 2 refine Fields.admits_of_not_named (by decide) ?_
      exact Fields.admits_of_named rfl htakes (eq_of_mem_map hholds)
  | noPython =>
    have htakes : ((Shape.optional .path).read (nesting + 1)).Takes
        (encode (Json.renderIn .compact 0 .null)) none := Shape.takes_none .path
    exact .inl ⟨admits_python htakes hholds, not_blames nofun⟩
  | @python value text h =>
    obtain ⟨spelled, htext, -⟩ := Json.Reader.string_of_spells h
    have htakes : (Shape.path.read (nesting + 1)).Takes (encode text) value :=
      Shape.takes_readString_of_spells _ h
    rw [htext] at htakes ⊢
    exact .inl ⟨admits_python (Shape.takes_some (by decide) htakes) hholds, not_blames nofun⟩
  | wire h => exact value_of_contract h hholds
  | other hkey h =>
    refine .inl ⟨?_, not_blames nofun⟩
    exact Fields.admits_of_reads?_eq_none (reads?_of_stands (.other hkey h))
      (Json.Reader.takes_skipValue h)

end

end OptionEntry

namespace LoaderOptions

open OptionEntry (Stands Holds GivenTwice given slots)

section
variable {entries : List OptionEntry} {known : Option LoaderOptions} {ms : List Json.Member}

/-- If the members stand for entries, then all are read and no field is given twice, or they are
read up to one by which a field is. -/
theorem exists_reading (nesting : Nat)
    (hentries : List.Forall₂ (fun e m => ∃ key, m.Spells key ∧ Stands e key m.value.inner)
      entries ms)
    (hholds : ∀ o ∈ known, ∀ e ∈ entries, e.Holds o) :
    (∃ seen, fields.Reading (nesting + 1) (slots known) [] ms (.ok seen) ∧
      seen.Perm (given entries) ∧ ∀ name, ¬GivenTwice entries name) ∨
    ∃ name, fields.Reading (nesting + 1) (slots known) [] ms (.error (.duplicateField name)) ∧
      GivenTwice entries name := by
  have hreading := Fields.exists_reading (nesting + 1) OptionEntry.Blames hentries
    OptionEntry.reads?_of_stands
    (fun e he _ _ h => OptionEntry.value_of_stands h fun o ho => hholds o ho e he) .nil
  rw [List.append_nil] at hreading
  rcases hreading with ⟨seen, h, hnodup, hperm, hgood⟩ |
    ⟨cause, h, ⟨name, rfl, hcount⟩ | ⟨e, he, contract, name, rfl, rfl, hcount⟩⟩
  · refine .inl ⟨seen, h, hperm, fun name htwice => ?_⟩
    cases htwice with
    | here htwice =>
      rw [given, ← hperm.count_eq] at htwice
      exact Nat.not_lt.2 (List.nodup_iff_count_le_one.1 hnodup name) htwice
    | inside hmem htwice => exact hgood _ hmem _ ⟨_, name, rfl, rfl, htwice⟩
  · exact .inr ⟨name, h, .here hcount⟩
  · exact .inr ⟨name, h, .inside he hcount⟩

/-- What no entry gives is at its default. -/
theorem DescribedBy.defaults {o : LoaderOptions} {seen : List String} (h : o.DescribedBy entries)
    (hseen : seen.Perm (given entries)) :
    fields.Defaults seen (o.generateJavascript, o.generateTypeDefinitions, o.runtimePackage,
      o.python, o.wire, ()) := by
  have hgiven {name : String} (hname : name ∉ seen) : name ∉ given entries :=
    fun hmem => hname (hseen.mem_iff.2 hmem)
  refine ⟨fun hf => ?_, fun hf => ?_, fun hf => ?_, fun hf => ?_, fun hf => ?_, trivial⟩
  · rw [h.generateJavascript (hgiven hf)]
  · rw [h.generateTypeDefinitions (hgiven hf)]
  · rw [h.runtimePackage (hgiven hf), defaultRuntimePackage]
  · rw [h.python (hgiven hf)]
  · rw [h.wire (hgiven hf)]

/-! ### Documents with one blank in front of each key and value -/

/-- A member with a blank in front of the key and of the value. -/
def spacedMember (m : String × List Char) : Json.Member :=
  ⟨⟨[' '], Json.renderString m.1, []⟩, ⟨[' '], m.2, []⟩⟩

/-- An object of such members. -/
def spacedObject (members : List (String × List Char)) : List Char :=
  Json.enclosed '\x7b' '\x7d' [] ((members.map spacedMember).map Json.Member.text)

/-- Members with spaces between them make an object. -/
theorem isObject_spacedObject {ε : Type} {stands : ε → String → List Char → Prop}
    {entries : List ε} {members : List (String × List Char)}
    (h : List.Forall₂ (fun e m => stands e m.1 m.2) entries members) :
    IsObject stands entries (spacedObject members) := by
  have hblank : IsGap [' '] := by simp [IsGap]
  refine ⟨members.map spacedMember, [], nofun, rfl, List.forall₂_map_right_iff.2 (h.imp ?_)⟩
  intro e m hstands
  exact ⟨m.1, ⟨⟨⟨hblank, nofun⟩, ⟨hblank, nofun⟩⟩, Json.spells_renderString m.1⟩, hstands⟩

/-- An object by itself is a document. -/
theorem isDocument_ofList {text : List Char} (h : IsObject Stands entries text) :
    IsDocument entries (String.ofList text).toList := by
  rw [String.toList_ofList]
  exact ⟨⟨[], text, []⟩, ⟨nofun, nofun⟩, h, by simp [Padded.text]⟩

/-- Fields under names of both kinds and out of order, with a member of no field among them. -/
def mixedDocument : List Char :=
  spacedObject [
    ("wire", spacedObject [("registerSourceField", Json.renderString "source_code")]),
    ("note", ['[', 'n', 'u', 'l', 'l', ']']),
    ("generate_javascript", OptionEntry.flagText true)]

/-- A contract that gives its field under both names. -/
def twofoldDocument : List Char :=
  spacedObject [
    ("wire", spacedObject [
      ("registerSourceField", Json.renderString "contents"),
      ("register_source_field", Json.renderString "contents")])]

/-! ### Reading -/

/-- An object whose entries give no field twice is read as the options that they describe. One whose
entries do is refused for such a field. Reference: the derived deserialiser of `LoaderOptions`. -/
theorem parse_document {text : String} (h : IsDocument entries text.toList) :
    ((∀ name, ¬GivenTwice entries name) →
      ∀ o : LoaderOptions, o.DescribedBy entries → shape.parse (bytes text) = .ok o) ∧
    ((∃ name, GivenTwice entries name) →
      ∃ e name, shape.parse (bytes text) = .error e ∧ e.cause = .duplicateField name ∧
        GivenTwice entries name) := by
  obtain ⟨p, hspaced, ⟨ms, gap, hgap, hinner, hentries⟩, htext⟩ := h
  have hnames : fields.names.Nodup := by decide
  have hbytes : bytes text = encode p.before ++ (encode p.inner ++ encode p.after) := by
    rw [bytes, htext, Padded.text, Text.Utf8.encode_append, Text.Utf8.encode_append]
  rw [hbytes, hinner]
  constructor
  · intro honce o hdescribed
    have hholds : ∀ o' ∈ some o, ∀ e ∈ entries, e.Holds o' := by
      rintro _ ⟨⟩
      exact hdescribed.holds
    rcases exists_reading 125 hentries hholds with ⟨seen, h, hperm, -⟩ | ⟨name, -, htwice⟩
    · have hread : (shape.read Json.nestingLimit).Takes _ o :=
        Shape.takes_object h hnames hgap (hdescribed.defaults hperm)
      exact Wire.run_of_takes_padded hread hspaced.before.blank hspaced.after.blank
    · exact absurd htwice (honce name)
  · rintro ⟨name, htwice⟩
    have hnothing : ∀ o ∈ (none : Option LoaderOptions), ∀ e ∈ entries, e.Holds o :=
      fun o ho => absurd ho (Option.not_mem_none o)
    rcases exists_reading 125 hentries hnothing with ⟨_, -, -, honce⟩ | ⟨name', h, htwice'⟩
    · exact absurd htwice (honce name)
    · have hrefuses : (shape.read Json.nestingLimit).Refuses _ (.duplicateField name') :=
        Shape.refuses_object h hnames hgap
      obtain ⟨e, hrun, hcause⟩ := Wire.run_of_refuses hrefuses hspaced.before.blank
      exact ⟨e, name', hrun, hcause, htwice'⟩

/-- Options in mixed spellings are read, and a contract that gives its field twice is refused. -/
theorem parse_document_spellings :
    shape.parse (bytes (String.ofList mixedDocument)) =
      .ok { generateJavascript := true, wire := ⟨.sourceCode⟩ } ∧
    ∃ e name, shape.parse (bytes (String.ofList twofoldDocument)) = .error e ∧
      e.cause = .duplicateField name ∧
      GivenTwice [.wire [.sourceField .contents, .sourceField .contents]] name := by
  have hname {value : SourceField} {key name : String} (hkey : key ∈ ContractEntry.keys)
      (h : (name, value) ∈ ContractEntry.variants) :
      ContractEntry.Stands (.sourceField value) key (Json.renderString name) :=
    .sourceField hkey h (Json.spells_renderString name)
  constructor
  · have hcontract : IsObject ContractEntry.Stands [.sourceField .sourceCode]
        (spacedObject [("registerSourceField", Json.renderString "source_code")]) :=
      isObject_spacedObject (.cons (hname (by decide) (by decide)) .nil)
    have hblank : Padded.IsSpaced ⟨[], ['n', 'u', 'l', 'l'], []⟩ := ⟨nofun, nofun⟩
    have hnote : IsValue (Json.enclosed '[' ']' []
        (List.map Padded.text [⟨[], ['n', 'u', 'l', 'l'], []⟩])) :=
      .array nofun (by simpa using hblank) (by simpa using .word (by decide))
    have hdocument : IsDocument [.wire [.sourceField .sourceCode], .other,
        .generateJavascript true] (String.ofList mixedDocument).toList :=
      isDocument_ofList (isObject_spacedObject (.cons (.wire hcontract)
        (.cons (.other (by decide) hnote) (.cons (.generateJavascript (by decide)) .nil))))
    refine (parse_document hdocument).1 ?_ _ ?_
    · intro name htwice
      cases htwice with
      | here h =>
        have hgiven : ["wire", "generate_javascript"].Nodup := by decide
        exact Nat.not_lt.2 (List.nodup_iff_count_le_one.1 hgiven name) h
      | inside hmem h =>
        obtain rfl : _ = [ContractEntry.sourceField .sourceCode] := by simpa using hmem
        have hgiven : ["register_source_field"].Nodup := by decide
        exact Nat.not_lt.2 (List.nodup_iff_count_le_one.1 hgiven name) h
    · have hwire : WireContract.DescribedBy ⟨.sourceCode⟩ [.sourceField .sourceCode] :=
        ⟨by simp [ContractEntry.Holds], fun h => absurd h (by decide)⟩
      exact ⟨by simpa [Holds] using hwire, fun h => absurd h (by decide), fun _ => rfl,
        fun _ => rfl, fun _ => rfl, fun h => absurd h (by decide)⟩
  · have hcontract : IsObject ContractEntry.Stands
        [.sourceField .contents, .sourceField .contents] (spacedObject
        [("registerSourceField", Json.renderString "contents"),
          ("register_source_field", Json.renderString "contents")]) :=
      isObject_spacedObject
        (.cons (hname (by decide) (by decide)) (.cons (hname (by decide) (by decide)) .nil))
    have hdocument : IsDocument [.wire [.sourceField .contents, .sourceField .contents]]
        (String.ofList twofoldDocument).toList :=
      isDocument_ofList (isObject_spacedObject (.cons (.wire hcontract) .nil))
    exact (parse_document hdocument).2
      ⟨"register_source_field", .inside List.mem_cons_self (by decide)⟩

end

end LoaderOptions

end ModuleBridge
