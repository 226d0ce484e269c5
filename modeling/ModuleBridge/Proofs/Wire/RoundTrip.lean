import Mathlib.Data.List.TakeWhile
import ModuleBridge.Proofs.Json.Values
import ModuleBridge.Report.Format
import ModuleBridge.Wire.Shape

/-!
# Reading back what a shape writes

A shape keeps a value if nothing is lost on the way: integers fit, a choice is known under its name,
a value that may be missing is not written as `null`, a field that is left out has the value that it
is given then, and no key is read by a field before its own (`Shape.Keeps`). The text of a value
that is kept is taken by the reader of the shape (`Shape.takes_read`, by induction on the shape), so
it decodes to the value in both formats that are JSON (`Shape.PrintsBack.of_keeps`). A shape without
free values says itself how deep its values nest (`Shape.nesting_toJson_le`).
-/

namespace ModuleBridge.Wire

open Json (Reader Layout Blank Ends SpellsString renderIn renderString nestingLimit)
open Text.Utf8 (encode)

mutual

/-- Is nothing lost when the value is written? -/
def Shape.Keeps {α : Type} : Shape α → α → Prop
  | .text, _ => True
  | .path, _ => True
  | .flag, _ => True
  | .integer, n => isInt64 n = true
  | .free, v => v.IsPlain
  | .choice known nameOf, x => variant? known (nameOf x) = .ok x
  | .optional shape, x => ∀ y ∈ x, shape.Keeps y ∧ ∃ s, shape.toJson y = .string s
  | .list shape, xs => ∀ x ∈ xs, shape.Keeps x
  | .record _ fields build parts, x => fields.Keeps (parts x) ∧ build (parts x) = x
  | .checked shape check view, x => shape.Keeps (view x) ∧ check (view x) = .ok x

/-- Is nothing lost when the values of fields are written? -/
def Fields.Keeps {α σ : Type} : Fields α σ → α → Prop
  | .nil, _ => True
  | .cons field shape rest, (x, xs) =>
    (if field.omitted x then field.absent = some x else shape.Keeps x) ∧
      (∀ m ∈ rest.toMembers xs, field.named m.1 = false) ∧ rest.Keeps xs

end

section
variable {α β σ τ : Type} {shape : Shape α}

@[simp] theorem Shape.keeps_text (s : String) : Shape.text.Keeps s := trivial

@[simp] theorem Shape.keeps_path (s : String) : Shape.path.Keeps s := trivial

@[simp] theorem Shape.keeps_flag (b : Bool) : Shape.flag.Keeps b := trivial

@[simp] theorem Shape.keeps_integer {n : Int} : Shape.integer.Keeps n ↔ isInt64 n = true := .rfl

@[simp] theorem Shape.keeps_free {v : Json} : Shape.free.Keeps v ↔ v.IsPlain := .rfl

@[simp] theorem Shape.keeps_optional {x : Option α} :
    (Shape.optional shape).Keeps x ↔
      ∀ y ∈ x, shape.Keeps y ∧ ∃ s, shape.toJson y = .string s := .rfl

@[simp] theorem Shape.keeps_list {xs : List α} :
    (Shape.list shape).Keeps xs ↔ ∀ x ∈ xs, shape.Keeps x := .rfl

@[simp] theorem Shape.keeps_record {name : String} {fields : Fields α σ} {build : α → β}
    {parts : β → α} {x : β} :
    (Shape.record name fields build parts).Keeps x ↔
      fields.Keeps (parts x) ∧ build (parts x) = x := .rfl

@[simp] theorem Shape.keeps_checked {check : α → Except String β} {view : β → α} {x : β} :
    (Shape.checked shape check view).Keeps x ↔ shape.Keeps (view x) ∧ check (view x) = .ok x := .rfl

@[simp] theorem Fields.keeps_nil : Fields.nil.Keeps () := trivial

/-- A record of fields is kept if the first field is kept or may be left out, no later member has
its name, and the other fields are kept. -/
@[simp] theorem Fields.keeps_cons {field : Field α} {rest : Fields τ σ} {x : α} {xs : τ} :
    (Fields.cons field shape rest).Keeps (x, xs) ↔
      (if field.omitted x then field.absent = some x else shape.Keeps x) ∧
        (∀ m ∈ rest.toMembers xs, field.named m.1 = false) ∧ rest.Keeps xs := .rfl

end

/-- The slots after the members of all fields that are not left out have been read. -/
def Fields.filled {α σ : Type} : Fields α σ → α → σ
  | .nil, _ => ()
  | .cons field _ rest, (x, xs) => (if field.omitted x then none else some x, rest.filled xs)

namespace Shape

section
variable {α β σ : Type} {layout : Layout} {depth nesting : Nat} {text : List UInt8}

/-! ## Scalars -/

/-- The first byte of a text is the first one behind the blanks. -/
theorem firstByte_eq {blank rest : List UInt8} {b : UInt8} (hb : Blank blank)
    (hs : Reader.isSpace b = false) : firstByte (blank ++ b :: rest) = .ok (b, b :: rest) :=
  Reader.bind_ok (Reader.peek_eq hb hs)

/-- A string is read from any of its spellings. -/
theorem takes_readString_of_spells {text : List Char} {s : String} (expected : String)
    (h : SpellsString text s) : (readString expected).Takes (encode text) s := by
  obtain ⟨spelled, htext, hread⟩ := Reader.string_of_spells h
  rw [htext]
  refine ⟨⟨_, _, rfl, rfl⟩, fun blank rest hblank _ => ?_⟩
  simp only [List.cons_append, List.append_assoc]
  refine (Reader.bind_ok (firstByte_eq hblank rfl)).trans ?_
  rw [if_pos rfl]
  refine (Reader.bind_ok Reader.skip_cons).trans ?_
  exact hread rest

/-- A text is read back from its literal. -/
theorem takes_readString (expected s : String) :
    (readString expected).Takes (encode (renderString s)) s :=
  takes_readString_of_spells expected (Json.spells_renderString s)

/-- A truth value is read back from its word. -/
theorem takes_readFlag (value : Bool) :
    readFlag.Takes (encode (renderIn layout depth (.bool value))) value := by
  obtain ⟨b, bs, hb, hfirst, hscalar⟩ := Json.scalar_bool layout depth value
  have hscalar' (rest : List UInt8) :
      (if b = 0x74 || b = 0x66 then Reader.scalar b else mismatch b "a boolean")
        (b :: (bs ++ rest)) = .ok (.bool value, rest) := by
    rw [if_pos (by simpa using hfirst), hscalar]
  have hbegins : Json.begins b = true := by
    rcases hfirst with rfl | rfl <;> rfl
  rw [hb]
  refine ⟨⟨b, bs, rfl, hbegins⟩, fun blank rest hblank _ => ?_⟩
  refine (Reader.bind_ok (firstByte_eq hblank (Reader.begins_iff.1 hbegins).1)).trans ?_
  exact Reader.bind_ok (hscalar' rest)

/-- What fits a signed integer of 64 bits is one that readers of numbers keep. -/
theorem fitsBits_of_isInt64 {n : Int} (h : isInt64 n = true) : Json.FitsBits n := by
  have hbound : int64Bound < Nat.pow 2 64 := by decide
  simp only [isInt64, Bool.and_eq_true, decide_eq_true_eq] at h
  exact ⟨h.1, by omega⟩

/-- An integer of 64 bits is read back from its digits. -/
theorem takes_readInteger {n : Int} (h : isInt64 n = true) :
    readInteger.Takes (encode (renderIn layout depth (.ofInt n))) n := by
  have hfits := fitsBits_of_isInt64 h
  have hread (rest : List UInt8) : orFail (int64? (.integer n)) rest = .ok (n, rest) := by
    rw [int64?, if_pos h]
    rfl
  rw [Json.ofInt, renderIn]
  rcases Int.lt_or_le n 0 with hneg | hpos
  · rw [Json.render_of_neg hneg]
    refine ⟨⟨0x2D, _, rfl, rfl⟩, fun blank rest hblank hrest => ?_⟩
    refine (Reader.bind_ok (firstByte_eq hblank rfl)).trans ?_
    rw [if_pos rfl]
    refine (Reader.bind_ok Reader.skip_cons).trans ?_
    exact (Reader.bind_ok (Json.number_of_neg hfits hneg hrest)).trans (hread rest)
  · obtain ⟨b, bs, hb, hdigit⟩ := Json.render_of_nonneg hpos
    have hbegins := Json.begins_of_isDigit hdigit
    refine ⟨⟨b, bs, hb, hbegins⟩, fun blank rest hblank hrest => ?_⟩
    have hnumber := Json.number_of_nonneg hfits hpos hrest
    rw [hb] at hnumber ⊢
    refine (Reader.bind_ok (firstByte_eq hblank (Reader.begins_iff.1 hbegins).1)).trans ?_
    rw [if_neg (Json.ne_of_isDigit hdigit rfl), if_pos hdigit]
    exact (Reader.bind_ok hnumber).trans (hread rest)

/-- A choice is read from any spelling of its name. -/
theorem takes_readChoice_of_spells {known : List (String × α)} {text : List Char} {name : String}
    {x : α} (hname : SpellsString text name) (h : variant? known name = .ok x) (nesting : Nat) :
    (readChoice known nesting).Takes (encode text) x := by
  have hstring := takes_readString_of_spells "variant identifier" hname
  refine ⟨hstring.starts, fun blank rest hblank hrest => ?_⟩
  have hread := hstring.reads [] rest .nil hrest
  obtain ⟨spelled, htext, -⟩ := Reader.string_of_spells hname
  rw [htext] at hread ⊢
  simp only [List.nil_append, List.cons_append] at hread ⊢
  refine (Reader.bind_ok (firstByte_eq hblank rfl)).trans ?_
  rw [if_pos rfl]
  refine (Reader.bind_ok hread).trans ?_
  rw [h]
  rfl

/-- A choice is read back from its name. -/
theorem takes_readChoice {known : List (String × α)} {name : String} {x : α}
    (h : variant? known name = .ok x) (nesting : Nat) :
    (readChoice known nesting).Takes (encode (renderString name)) x :=
  takes_readChoice_of_spells (Json.spells_renderString name) h nesting

/-! ## Values of other shapes -/

/-- What is made of a value that is taken is taken. -/
theorem takes_bind {r : Reader α} {f : α → Reader β} {x : α} {y : β} (h : r.Takes text x)
    (hf : ∀ rest, f x rest = .ok (y, rest)) : (r >>= f).Takes text y :=
  ⟨h.starts, fun blank rest hblank hrest =>
    (Reader.bind_ok (h.reads blank rest hblank hrest)).trans (hf rest)⟩

/-- An absent value is read back from `null`. -/
theorem takes_none (shape : Shape α) :
    ((Shape.optional shape).read nesting).Takes (encode (renderIn layout depth .null)) none := by
  refine ⟨⟨0x6E, _, rfl, rfl⟩, fun blank rest hblank _ => ?_⟩
  rw [Shape.read]
  refine (Reader.bind_ok (Reader.peek_eq hblank rfl)).trans ?_
  refine (Reader.bind_ok Reader.skip_cons).trans ?_
  exact Reader.bind_ok (Reader.word_append Reader.nullTail rest)

/-- A value that is not written as `null` is read back as one that is there. -/
theorem takes_some {shape : Shape α} {x : α} {b : UInt8} {bs : List UInt8} (hb : b ≠ 0x6E)
    (h : (shape.read nesting).Takes (b :: bs) x) :
    ((Shape.optional shape).read nesting).Takes (b :: bs) (some x) := by
  refine ⟨h.starts, fun blank rest hblank hrest => ?_⟩
  obtain ⟨b', bs', heq, hbegins⟩ := h.starts
  obtain ⟨rfl, rfl⟩ := List.cons.inj heq
  have hread := h.reads [] rest .nil hrest
  rw [Shape.read]
  simp only [List.nil_append, List.cons_append] at hread ⊢
  refine (Reader.bind_ok (Reader.peek_eq hblank (Reader.begins_iff.1 hbegins).1)).trans ?_
  have hne : some b ≠ some 0x6E := fun e => hb (Option.some.inj e)
  generalize some b = first at hne
  split
  · contradiction
  · exact Reader.bind_ok hread

/-- A list is taken if its items are, between the brackets. -/
theorem takes_brackets {shape : Shape α} {xs : List α}
    (h : ∀ rest, Reader.items (shape.read nesting) (text ++ 0x5D :: rest) = .ok (xs, 0x5D :: rest)) :
    ((Shape.list shape).read (nesting + 1)).Takes (0x5B :: (text ++ [0x5D])) xs := by
  rw [Shape.read]
  refine ⟨⟨0x5B, _, rfl, rfl⟩, fun blank rest hblank _ => ?_⟩
  simp only [List.cons_append, List.append_assoc, List.nil_append]
  refine (Reader.bind_ok (firstByte_eq hblank rfl)).trans ?_
  rw [if_pos rfl]
  refine (Reader.bind_ok Reader.skip_cons).trans ?_
  refine (Reader.bind_ok (h rest)).trans ?_
  exact Reader.bind_ok Reader.skip_cons

/-- A list is read back if each of its items is. -/
theorem takes_list {shape : Shape α} {xs : List α} (hl : layout.IsBlank)
    (h : ∀ x ∈ xs, (shape.read nesting).Takes
      (encode (renderIn layout (depth + 1) (shape.toJson x))) x) :
    ((Shape.list shape).read (nesting + 1)).Takes
      (encode (renderIn layout depth ((Shape.list shape).toJson xs))) xs := by
  rw [Shape.toJson, Json.encode_array, List.map_map]
  have hitems : List.Forall₂ (shape.read nesting).Takes
      (xs.map fun x => encode (renderIn layout (depth + 1) (shape.toJson x))) xs :=
    List.forall₂_map_left_iff.2 (List.forall₂_same.2 fun x hx => h x hx)
  exact takes_brackets fun rest =>
    Reader.items_inside hitems (hl.beforeItem _) (hl.beforeEnd _)

/-! ## Records -/

/-- A record is taken if its members are, between the brackets, and fill its slots. -/
theorem takes_braces {name : String} {fields : Fields α σ} {build : α → β} {parts : β → α} {x : α}
    {slots : σ}
    (h : ∀ rest, Reader.members Reader.string (fun key slots => fields.readMember nesting key slots)
      fields.empty (text ++ 0x7D :: rest) = .ok (slots, 0x7D :: rest))
    (hfinish : fields.finish slots = .ok x) :
    ((Shape.record name fields build parts).read (nesting + 1)).Takes (0x7B :: (text ++ [0x7D]))
      (build x) := by
  rw [Shape.read]
  refine ⟨⟨0x7B, _, rfl, rfl⟩, fun blank rest hblank _ => ?_⟩
  simp only [List.cons_append, List.append_assoc, List.nil_append]
  refine (Reader.bind_ok (firstByte_eq hblank rfl)).trans ?_
  rw [if_pos rfl]
  refine (Reader.bind_ok Reader.skip_cons).trans ?_
  refine (Reader.bind_ok (h rest)).trans ?_
  refine (Reader.bind_ok Reader.skip_cons).trans ?_
  rw [hfinish, orFail]
  exact Reader.bind_ok rfl

/-- A record is read back if its members fill its slots and the slots give its parts. -/
theorem takes_record {name : String} {fields : Fields α σ} {build : α → β} {parts : β → α} {x : β}
    {slots : σ} (hl : layout.IsBlank)
    (h : Reader.TakesMembers (fun key slots => fields.readMember nesting key slots)
      ((fields.toMembers (parts x)).map (Json.valueText layout (depth + 1))) fields.empty slots)
    (hfinish : fields.finish slots = .ok (parts x)) (hbuild : build (parts x) = x) :
    ((Shape.record name fields build parts).read (nesting + 1)).Takes
      (encode (renderIn layout depth ((Shape.record name fields build parts).toJson x))) x := by
  rw [Shape.toJson, Json.encode_object]
  have hbraces : ((Shape.record name fields build parts).read (nesting + 1)).Takes _
      (build (parts x)) :=
    takes_braces (fun rest => Reader.members_inside h (hl.beforeItem depth) (hl.beforeEnd depth))
      hfinish
  rwa [hbuild] at hbraces

end

end Shape

namespace Fields

section
variable {α β σ : Type} {field : Field α} {shape : Shape α} {rest : Fields β σ} {nesting : Nat}

/-- The slots that were filled hold the values again. -/
theorem finish_filled : {α σ : Type} → (fields : Fields α σ) → {xs : α} → fields.Keeps xs →
    fields.finish (fields.filled xs) = .ok xs
  | _, _, .nil, _, _ => rfl
  | _, _, .cons field shape rest, (x, xs), h => by
    obtain ⟨hx, -, hrest⟩ := h
    have hfirst : ((if field.omitted x then none else some x) <|> field.absent) = some x := by
      split at hx
      · next homitted => rw [if_pos homitted, hx]; rfl
      · next homitted => rw [if_neg homitted]; rfl
    rw [filled, finish, hfirst]
    simp only [finish_filled rest hrest]

/-- Members that the first field does not read leave its slot as it is. -/
theorem takesMembers_rest {slot : Option α} {slots slots' : σ} {ms : List (String × List UInt8)}
    (h : Reader.TakesMembers (fun key slots => rest.readMember nesting key slots) ms slots slots')
    (hms : ∀ m ∈ ms, field.named m.1 = false) :
    Reader.TakesMembers
      (fun key slots => (Fields.cons field shape rest).readMember nesting key slots) ms
      (slot, slots) (slot, slots') := by
  induction h with
  | nil built => exact .nil _
  | cons first _ ih =>
    refine .cons ?_ (ih fun m hm => hms m (.tail _ hm))
    simp only [Fields.readMember, hms _ List.mem_cons_self]
    exact Shape.takes_bind first fun rest => rfl

/-- The first field takes its own member. -/
theorem takes_readMember {layout : Layout} {text : List Char} {x : α} {slots : σ}
    (hl : layout.IsBlank) (h : (shape.read nesting).Takes (encode text) x) :
    ((Fields.cons field shape rest).readMember nesting field.name (none, slots)).Takes
      (encode (layout.afterKey ++ text)) (some x, slots) := by
  have hnamed : field.named field.name = true := by simp [Field.named]
  simp only [Fields.readMember, hnamed, if_true]
  exact Json.takes_afterKey hl h fun rest => rfl

end

end Fields

mutual

/-- The text of a value that a shape keeps is taken if its brackets do not nest too deep. -/
theorem Shape.takes_read {layout : Layout} (hl : layout.IsBlank) {α : Type} :
    (shape : Shape α) → {x : α} → {nesting : Nat} → shape.Keeps x →
      (shape.toJson x).nesting ≤ nesting → (depth : Nat) →
        (shape.read nesting).Takes (encode (renderIn layout depth (shape.toJson x))) x
  | .text, _, _, _, _, _ => Shape.takes_readString _ _
  | .path, _, _, _, _, _ => Shape.takes_readString _ _
  | .flag, _, _, _, _, _ => Shape.takes_readFlag _
  | .integer, _, _, h, _, _ => Shape.takes_readInteger h
  | .free, _, _, h, hn, depth => Json.takes_value hl h hn depth
  | .choice _ _, _, _, h, _, _ => Shape.takes_readChoice h _
  | .optional shape, none, _, _, _, _ => Shape.takes_none shape
  | .optional shape, some x, _, h, hn, depth => by
    obtain ⟨hx, s, hs⟩ := h x rfl
    have htext := Shape.takes_read hl shape hx hn depth
    rw [Shape.toJson]
    rw [hs, renderIn, Reader.encode_renderString] at htext ⊢
    exact Shape.takes_some (by decide) htext
  | .list shape, xs, _, h, hn, depth => by
    obtain ⟨k, rfl, hitems⟩ := Json.nesting_array_le.1 hn
    exact Shape.takes_list hl fun x hx =>
      Shape.takes_read hl shape (h x hx) (hitems _ (List.mem_map_of_mem hx)) _
  | .record _ fields build parts, x, _, h, hn, depth => by
    obtain ⟨k, rfl, hmembers⟩ := Json.nesting_object_le.1 hn
    have hfilled := fields.takesMembers hl h.1 hmembers (depth + 1)
    exact Shape.takes_record hl hfilled (fields.finish_filled h.1) h.2
  | .checked shape check view, x, _, h, hn, depth =>
    Shape.takes_bind (Shape.takes_read hl shape h.1 hn depth) fun rest => by
      rw [h.2]
      rfl

/-- The members that are written for fields are taken and fill their slots. -/
theorem Fields.takesMembers {layout : Layout} (hl : layout.IsBlank) {α σ : Type} :
    (fields : Fields α σ) → {xs : α} → {nesting : Nat} → fields.Keeps xs →
      (∀ m ∈ fields.toMembers xs, m.2.nesting ≤ nesting) → (depth : Nat) →
        Reader.TakesMembers (fun key slots => fields.readMember nesting key slots)
          ((fields.toMembers xs).map (Json.valueText layout depth)) fields.empty (fields.filled xs)
  | .nil, _, _, _, _, _ => .nil _
  | .cons field shape rest, (x, xs), nesting, h, hn, depth => by
    obtain ⟨hx, hnames, hrest⟩ := h
    have hothers {slot : Option _} (hn' : ∀ m ∈ rest.toMembers xs, m.2.nesting ≤ nesting) :
        Reader.TakesMembers
          (fun key slots => (Fields.cons field shape rest).readMember nesting key slots)
          ((rest.toMembers xs).map (Json.valueText layout depth)) (slot, rest.empty)
          (slot, rest.filled xs) := by
      refine Fields.takesMembers_rest (rest.takesMembers hl hrest hn' depth) fun m hm => ?_
      obtain ⟨m', hm', rfl⟩ := List.mem_map.1 hm
      exact hnames m' hm'
    rw [Fields.toMembers] at hn ⊢
    rw [Fields.filled, Fields.empty]
    split at hx
    · next homitted =>
      rw [if_pos homitted] at hn ⊢
      rw [if_pos homitted]
      exact hothers hn
    · next homitted =>
      rw [if_neg homitted] at hn ⊢
      rw [if_neg homitted]
      refine .cons (Fields.takes_readMember hl (Shape.takes_read hl shape hx ?_ depth)) (hothers ?_)
      · exact hn _ List.mem_cons_self
      · exact fun m hm => hn m (.tail _ hm)

end

/-! ## Brackets -/

mutual

/-- How many brackets at most are open at once in the values of a shape, if the shape says so. -/
def Shape.brackets? {α : Type} : Shape α → Option Nat
  | .text | .path | .flag | .integer | .choice _ _ => some 0
  | .free => none
  | .optional shape => shape.brackets?
  | .list shape => shape.brackets?.map (· + 1)
  | .record _ fields _ _ => fields.brackets?.map (· + 1)
  | .checked shape _ _ => shape.brackets?

/-- How many brackets at most are open at once in the values of fields, if their shapes say so. -/
def Fields.brackets? {α σ : Type} : Fields α σ → Option Nat
  | .nil => some 0
  | .cons _ shape rest => do return max (← shape.brackets?) (← rest.brackets?)

end

mutual

/-- The brackets that a shape speaks of are those of its values. -/
theorem Shape.nesting_toJson_le {α : Type} :
    (shape : Shape α) → {n : Nat} → shape.brackets? = some n → (x : α) →
      (shape.toJson x).nesting ≤ n
  | .text, _, _, _ | .path, _, _, _ | .flag, _, _, _ | .integer, _, _, _ | .choice _ _, _, _, _ =>
    Nat.zero_le _
  | .optional _, _, _, none => Nat.zero_le _
  | .optional shape, _, h, some x => Shape.nesting_toJson_le shape h x
  | .list shape, n, h, xs => by
    obtain ⟨k, hk, rfl⟩ := Option.map_eq_some_iff.1 h
    refine Json.nesting_array_le.2 ⟨k, rfl, fun v hv => ?_⟩
    obtain ⟨x, -, rfl⟩ := List.mem_map.1 hv
    exact Shape.nesting_toJson_le shape hk x
  | .record _ fields _ parts, n, h, x => by
    obtain ⟨k, hk, rfl⟩ := Option.map_eq_some_iff.1 h
    exact Json.nesting_object_le.2 ⟨k, rfl, Fields.nesting_toMembers_le fields hk (parts x)⟩
  | .checked shape _ view, _, h, x => Shape.nesting_toJson_le shape h (view x)

/-- The members of a record are nested no deeper than its shape says. -/
theorem Fields.nesting_toMembers_le {α σ : Type} :
    (fields : Fields α σ) → {n : Nat} → fields.brackets? = some n → (xs : α) →
      ∀ m ∈ fields.toMembers xs, m.2.nesting ≤ n
  | .nil, _, _, _ => nofun
  | .cons field shape rest, n, h, (x, xs) => by
    simp only [Fields.brackets?, Option.bind_eq_bind, Option.bind_eq_some_iff, Option.pure_def,
      Option.some.injEq] at h
    obtain ⟨k, hk, k', hk', rfl⟩ := h
    have hrest : ∀ m ∈ rest.toMembers xs, m.2.nesting ≤ max k k' := fun m hm =>
      Nat.le_trans (Fields.nesting_toMembers_le rest hk' xs m hm) (Nat.le_max_right k k')
    rw [Fields.toMembers]
    split
    · exact hrest
    · exact List.forall_mem_cons.2
        ⟨Nat.le_trans (Shape.nesting_toJson_le shape hk x) (Nat.le_max_left k k'), hrest⟩

end

/-! ## Whole texts -/

/-- A text that is taken is the value, also with blanks around it. -/
theorem run_of_takes_padded {α : Type} {r : Reader α} {before text after : List UInt8} {x : α}
    (h : r.Takes text x) (hbefore : Blank before) (hafter : Blank after) :
    Reader.run r (before ++ (text ++ after)) = .ok x := by
  have hends : Ends after := by simpa using Ends.blank hafter .nil
  have hnone : after.dropWhile Reader.isSpace = [] := List.dropWhile_eq_nil_iff.2 hafter
  have hpeek : Reader.peek after = .ok (none, []) := by
    rw [Reader.peek, hnone]
    rfl
  rw [Reader.run, Reader.bind_ok (h.reads before after hbefore hends), Reader.bind_ok hpeek]
  rfl

/-- What a reader takes from the front of a text it reads from the text, if blanks follow. -/
theorem run_of_takes_blank {α : Type} {r : Reader α} {text after : List UInt8} {x : α}
    (h : r.Takes text x) (hafter : Blank after) : Reader.run r (text ++ after) = .ok x :=
  run_of_takes_padded h .nil hafter

/-- A text that is refused is no value, whatever stands after it. -/
theorem run_of_refuses {α : Type} {r : Reader α} {before text after : List UInt8}
    {cause : Json.Cause} (h : r.Refuses text cause) (hbefore : Blank before) :
    ∃ e, Reader.run r (before ++ (text ++ after)) = .error e ∧ e.cause = cause := by
  obtain ⟨unread, hread⟩ := h before after hbefore
  refine ⟨Json.Fault.toError (before ++ (text ++ after)) ⟨cause, unread⟩, ?_, rfl⟩
  rw [Reader.run, Reader.bind_error hread]

/-- What a reader takes from a text it reads from it. -/
theorem run_of_takes {α : Type} {r : Reader α} {text : List UInt8} {x : α} (h : r.Takes text x) :
    Reader.run r text = .ok x := by
  have hrun := run_of_takes_blank h .nil
  rwa [List.append_nil] at hrun

/-- The JSON texts of a value decode back to it. -/
def Shape.PrintsBack {α : Type} (shape : Shape α) (x : α) : Prop :=
  ∀ format ∈ [OutputFormat.text, .json], ∀ isColoured,
    shape.parse (Text.Utf8.bytes (format.print isColoured (shape.toJson x))) = .ok x

/-- A value that a shape keeps is printed so that it decodes back, if its brackets do not nest too
deep. -/
theorem Shape.PrintsBack.of_keeps {α : Type} {shape : Shape α} {x : α} (h : shape.Keeps x)
    (hn : (shape.toJson x).nesting ≤ nestingLimit) : shape.PrintsBack x := by
  have hparse {layout : Layout} (hl : layout.IsBlank) :
      shape.parse (Text.Utf8.bytes (String.ofList (renderIn layout 0 (shape.toJson x)))) =
        .ok x := by
    rw [Text.Utf8.bytes, String.toList_ofList]
    exact run_of_takes (shape.takes_read hl h hn 0)
  intro format hformat isColoured
  simp only [List.mem_cons, List.not_mem_nil, or_false] at hformat
  rcases hformat with rfl | rfl
  · exact hparse Layout.isBlank_compact
  · exact hparse Layout.isBlank_indented

/-- The values of a shape without free values in it are printed so that they decode back. -/
theorem Shape.PrintsBack.of_brackets {α : Type} {shape : Shape α} {x : α} {n : Nat}
    (h : shape.Keeps x) (hb : shape.brackets? = some n) (hn : n ≤ nestingLimit) :
    shape.PrintsBack x :=
  .of_keeps h (Nat.le_trans (Shape.nesting_toJson_le shape hb x) hn)

end ModuleBridge.Wire
