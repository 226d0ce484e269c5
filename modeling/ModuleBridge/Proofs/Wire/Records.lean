import ModuleBridge.Proofs.Json.Skips
import ModuleBridge.Proofs.Wire.RoundTrip

/-!
# Records in any order

A record is read from an object with its members in any order and under any of their names, and what
no field reads is passed over. After some members the filled slots are those of the fields that were
seen (`Fields.Seen`), and they hold the values that are known (`Fields.Fits`). One more member of a
new field keeps this (`Fields.exists_takes_readMember`), and a second one of a field is refused
(`Fields.refuses_readMember`), so how an object is read depends on which fields its members are read
by and on nothing else (`Fields.Reading`, `Shape.takes_object`, `Shape.refuses_object`).
-/

namespace ModuleBridge.Wire

open Json (Reader Cause Blank Ends IsGap Member SpellsString enclosed)
open Text.Utf8

namespace Fields

/-- The name of the field by which a key is read, if there is one. -/
def reads? {α σ : Type} : Fields α σ → String → Option String
  | .nil, _ => none
  | .cons field _ rest, key => if field.named key then some field.name else rest.reads? key

/-- The names of the fields. -/
def names {α σ : Type} : Fields α σ → List String
  | .nil => []
  | .cons field _ rest => field.name :: rest.names

/-- Slots that hold the values of all fields. -/
def full {α σ : Type} : Fields α σ → α → σ
  | .nil, _ => ()
  | .cons _ _ rest, (x, xs) => (some x, rest.full xs)

/-- The slots that are filled are those of the fields that were seen. -/
def Seen {α σ : Type} (seen : List String) : Fields α σ → σ → Prop
  | .nil, _ => True
  | .cons field _ rest, (slot, slots) =>
    (slot.isSome = true ↔ field.name ∈ seen) ∧ rest.Seen seen slots

/-- Where a value is known, no slot holds another one. -/
def Fits {α σ : Type} : Fields α σ → σ → σ → Prop
  | .nil, _, _ => True
  | .cons _ _ rest, (known, knowns), (slot, slots) =>
    (∀ x ∈ known, ∀ y ∈ slot, y = x) ∧ rest.Fits knowns slots

/-- The fields that were not seen have the values that they are given then. -/
def Defaults {α σ : Type} (seen : List String) : Fields α σ → α → Prop
  | .nil, _ => True
  | .cons field _ rest, (x, xs) =>
    (field.name ∉ seen → field.absent = some x) ∧ rest.Defaults seen xs

/-- No field has to be there. -/
def Optional {α σ : Type} : Fields α σ → Prop
  | .nil => True
  | .cons field _ rest => field.absent.isSome = true ∧ rest.Optional

/-- The text is a value of the field by which the key is read, the known one if it is known. What no
field reads is any value. -/
def Admits {α σ : Type} (nesting : Nat) : Fields α σ → σ → String → List UInt8 → Prop
  | .nil, _, _, text => Reader.skipValue.Takes text ()
  | .cons field shape rest, (known, knowns), key, text =>
    if field.named key then ∃ x, (shape.read nesting).Takes text x ∧ ∀ y ∈ known, x = y
    else rest.Admits nesting knowns key text

/-- The field by which the key is read refuses the text. -/
def Bars {α σ : Type} (nesting : Nat) (cause : Cause) :
    Fields α σ → String → List UInt8 → Prop
  | .nil, _, _ => False
  | .cons field shape rest, key, text =>
    if field.named key then (shape.read nesting).Refuses text cause
    else rest.Bars nesting cause key text

/-- How members are read after those of the fields that were seen: all of them, with the fields that
are seen then, or up to one of a field that was seen before or whose value is refused. -/
inductive Reading {α σ : Type} (fields : Fields α σ) (nesting : Nat) (known : σ) :
    List String → List Member → Except Cause (List String) → Prop
  | done (seen : List String) : Reading fields nesting known seen [] (.ok seen)
  | next {seen : List String} {m : Member} {ms : List Member} {key : String}
    {outcome : Except Cause (List String)} (spells : m.Spells key)
    (new : ∀ f ∈ fields.reads? key, f ∉ seen)
    (admits : fields.Admits nesting known key (encode m.value.inner))
    (others : Reading fields nesting known ((fields.reads? key).toList ++ seen) ms outcome) :
    Reading fields nesting known seen (m :: ms) outcome
  | again {seen : List String} {m : Member} {ms : List Member} {key f : String}
    (spells : m.Spells key) (read : fields.reads? key = some f) (old : f ∈ seen) :
    Reading fields nesting known seen (m :: ms) (.error (.duplicateField f))
  | inside {seen : List String} {m : Member} {ms : List Member} {key : String} {cause : Cause}
    (spells : m.Spells key) (new : ∀ f ∈ fields.reads? key, f ∉ seen)
    (bars : fields.Bars nesting cause key (encode m.value.inner)) :
    Reading fields nesting known seen (m :: ms) (.error cause)

section
variable {α β σ : Type} {fields : Fields α σ} {known slots : σ} {seen : List String}
  {nesting : Nat} {key f : String} {text gap : List UInt8} {cause : Cause} {xs : α}

section
variable {field : Field α} {shape : Shape α} {rest : Fields β σ} {first : Option α} {others : σ}

/-- A key that names the first field is read into it. -/
theorem reads?_of_named (h : field.named key = true) :
    (Fields.cons field shape rest).reads? key = some field.name :=
  if_pos h

/-- A key that does not name the first field is read by the others. -/
theorem reads?_of_not_named (h : ¬field.named key = true) :
    (Fields.cons field shape rest).reads? key = rest.reads? key :=
  if_neg h

/-- A member of the first field is admitted if its value is read as what the field holds. -/
theorem admits_of_named {x : α} (h : field.named key = true)
    (htakes : (shape.read nesting).Takes text x) (hx : ∀ y ∈ first, x = y) :
    (Fields.cons field shape rest).Admits nesting (first, others) key text :=
  (if_pos h).mpr ⟨x, htakes, hx⟩

/-- A member of another field is admitted if the others admit it. -/
theorem admits_of_not_named (h : ¬field.named key = true)
    (hrest : rest.Admits nesting others key text) :
    (Fields.cons field shape rest).Admits nesting (first, others) key text :=
  (if_neg h).mpr hrest

/-- What no field reads is passed over. -/
theorem admits_of_reads?_eq_none : {α σ : Type} → {fields : Fields α σ} → {known : σ} →
    fields.reads? key = none → Reader.skipValue.Takes text () →
    fields.Admits nesting known key text
  | _, _, .nil, _, _, htakes => htakes
  | _, _, .cons field shape rest, (_, knowns), h, htakes => by
    have hnamed : ¬field.named key = true := by
      intro hnamed
      rw [reads?_of_named hnamed] at h
      cases h
    rw [reads?_of_not_named hnamed] at h
    exact admits_of_not_named hnamed (admits_of_reads?_eq_none h htakes)

/-- A member of the first field is barred if its value is refused. -/
theorem bars_of_named (h : field.named key = true)
    (hrefuses : (shape.read nesting).Refuses text cause) :
    (Fields.cons field shape rest).Bars nesting cause key text :=
  (if_pos h).mpr hrefuses

/-- A member of another field is barred if the others bar it. -/
theorem bars_of_not_named (h : ¬field.named key = true)
    (hrest : rest.Bars nesting cause key text) :
    (Fields.cons field shape rest).Bars nesting cause key text :=
  (if_neg h).mpr hrest

end

/-! ## Slots -/

/-- A key is read into one of the fields. -/
theorem mem_names_of_reads? : {α σ : Type} → {fields : Fields α σ} → fields.reads? key = some f →
    f ∈ fields.names
  | _, _, .nil, h => nomatch h
  | _, _, .cons field shape rest, h => by
    rw [reads?] at h
    split at h
    · cases h
      exact List.mem_cons_self
    · exact .tail _ (mem_names_of_reads? h)

/-- The slot of a field that was not seen is empty. -/
theorem Seen.isSome_eq_false {field : Field α} {shape : Shape α} {rest : Fields β σ}
    {slot : Option α} (h : (Fields.cons field shape rest).Seen seen (slot, slots))
    (hnew : field.name ∉ seen) : slot.isSome = false := by
  rw [← Bool.not_eq_true, h.1]
  exact hnew

/-- Nothing was seen while all slots are empty. -/
theorem seen_empty : {α σ : Type} → (fields : Fields α σ) → fields.Seen [] fields.empty
  | _, _, .nil => trivial
  | _, _, .cons _ _ rest => ⟨by simp, rest.seen_empty⟩

/-- Empty slots fit whatever is known. -/
theorem fits_empty : {α σ : Type} → (fields : Fields α σ) → (known : σ) →
    fields.Fits known fields.empty
  | _, _, .nil, _ => trivial
  | _, _, .cons _ _ rest, (_, knowns) => ⟨nofun, rest.fits_empty knowns⟩

/-- The names of other fields make no difference. -/
theorem Seen.cons : {α σ : Type} → {fields : Fields α σ} → {slots : σ} → fields.Seen seen slots →
    f ∉ fields.names → fields.Seen (f :: seen) slots
  | _, _, .nil, _, _, _ => trivial
  | _, _, .cons field shape rest, (slot, slots), h, hf => by
    obtain ⟨hne, hrest⟩ := List.ne_and_not_mem_of_not_mem_cons hf
    refine ⟨h.1.trans ?_, Seen.cons h.2 hrest⟩
    rw [List.mem_cons, or_iff_right (Ne.symm hne)]

/-- The values that fit and the defaults of the other fields are all values. -/
theorem finish_of_fits : {α σ : Type} → {fields : Fields α σ} → {slots : σ} → {xs : α} →
    fields.Seen seen slots → fields.Fits (fields.full xs) slots → fields.Defaults seen xs →
    fields.finish slots = .ok xs
  | _, _, .nil, _, _, _, _, _ => rfl
  | _, _, .cons field shape rest, (slot, slots), (x, xs), hseen, hfits, hdefaults => by
    have hfirst : (slot <|> field.absent) = some x := by
      cases slot with
      | some y => exact congrArg some (hfits.1 x rfl y rfl)
      | none => exact hdefaults.1 fun h => by simpa using hseen.1.2 h
    rw [finish, hfirst]
    simp only [finish_of_fits hseen.2 hfits.2 hdefaults.2]

/-- Fields that may all be absent can be finished whatever was seen. -/
theorem exists_finish : {α σ : Type} → {fields : Fields α σ} → fields.Optional → (slots : σ) →
    ∃ xs, fields.finish slots = .ok xs
  | _, _, .nil, _, _ => ⟨(), rfl⟩
  | _, _, .cons field shape rest, h, (slot, slots) => by
    obtain ⟨x, hx⟩ : ∃ x, (slot <|> field.absent) = some x := by
      cases slot with
      | some y => exact ⟨y, rfl⟩
      | none => exact Option.isSome_iff_exists.1 h.1
    obtain ⟨xs, hxs⟩ := exists_finish h.2 slots
    refine ⟨(x, xs), ?_⟩
    rw [finish, hx]
    simp only [hxs]

/-! ## One member -/

/-- A member of a field that was not seen fills its slot, and one that no field reads is passed
over. -/
theorem exists_takes_readMember : {α σ : Type} → {fields : Fields α σ} → {known slots : σ} →
    fields.Admits nesting known key text → Blank gap → fields.names.Nodup →
    (∀ f ∈ fields.reads? key, f ∉ seen) → fields.Seen seen slots → fields.Fits known slots →
    ∃ slots', (fields.readMember nesting key slots).Takes (0x3A :: (gap ++ text)) slots' ∧
      fields.Seen ((fields.reads? key).toList ++ seen) slots' ∧ fields.Fits known slots'
  | _, _, .nil, _, _, h, hgap, _, _, _, _ => by
    simp only [readMember]
    exact ⟨(), Json.takes_colon hgap h fun _ => rfl, trivial, trivial⟩
  | _, _, .cons field shape rest, (known, knowns), (slot, slots), h, hgap, hnames, hnew, hseen,
      hfits => by
    obtain ⟨hname, hnames⟩ := List.nodup_cons.1 hnames
    by_cases hnamed : field.named key = true
    · rw [reads?_of_named hnamed] at hnew ⊢
      obtain ⟨x, htakes, hknown⟩ := (if_pos hnamed).mp h
      have hempty := hseen.isSome_eq_false (hnew _ rfl)
      refine ⟨(some x, slots), ?_, ⟨by simp, hseen.2.cons hname⟩, ⟨?_, hfits.2⟩⟩
      · simp only [readMember, hnamed, hempty, if_true, Bool.false_eq_true, if_false]
        exact Json.takes_colon hgap htakes fun _ => rfl
      · rintro y hy _ ⟨⟩
        exact hknown y hy
    · rw [reads?_of_not_named hnamed] at hnew ⊢
      obtain ⟨slots', htakes, hseen', hfits'⟩ :=
        exists_takes_readMember ((if_neg hnamed).mp h) hgap hnames hnew hseen.2 hfits.2
      refine ⟨(slot, slots'), ?_, ⟨hseen.1.trans ?_, hseen'⟩, ⟨hfits.1, hfits'⟩⟩
      · simp only [readMember, hnamed, Bool.false_eq_true, if_false]
        exact Shape.takes_bind htakes fun _ => rfl
      · rw [List.mem_append, or_iff_right]
        rw [Option.mem_toList]
        exact fun hf => hname (mem_names_of_reads? hf)

/-- What goes wrong while a value is read goes wrong with all. -/
theorem refuses_bind {r : Reader α} {g : α → Reader β} (h : r.Refuses text cause) :
    (r >>= g).Refuses text cause := by
  intro blank rest hblank
  obtain ⟨unread, hread⟩ := h blank rest hblank
  exact ⟨unread, Reader.bind_error hread⟩

/-- A member's value is refused behind its colon. -/
theorem refuses_colon {r : Reader α} (hgap : Blank gap) (h : r.Refuses text cause) :
    Reader.Refuses (do Reader.colon; r) (0x3A :: (gap ++ text)) cause := by
  intro blank rest hblank
  obtain ⟨unread, hread⟩ := h gap rest hgap
  refine ⟨unread, ?_⟩
  simp only [List.cons_append, List.append_assoc]
  exact (Reader.bind_ok (Reader.colon_eq hblank)).trans hread

/-- A reader that fails within an object refuses each text. -/
theorem refuses_failedInObject (cause : Cause) (text : List UInt8) :
    (Shape.failedInObject cause : Reader α).Refuses text cause := by
  intro blank rest _
  generalize blank ++ (text ++ rest) = bytes
  have hpeek : Reader.peek bytes = .ok (_, bytes.dropWhile Reader.isSpace) := rfl
  rw [Shape.failedInObject, Reader.bind_ok hpeek]
  generalize (bytes.dropWhile Reader.isSpace).head? = first
  split
  · exact ⟨_, rfl⟩
  · exact ⟨_, rfl⟩

/-- A second member of a field is refused. -/
theorem refuses_readMember : {α σ : Type} → {fields : Fields α σ} → {slots : σ} →
    fields.reads? key = some f → f ∈ seen → fields.Seen seen slots → (text : List UInt8) →
    (fields.readMember nesting key slots).Refuses text (.duplicateField f)
  | _, _, .nil, _, h, _, _, _ => nomatch h
  | _, _, .cons field shape rest, (slot, slots), h, hf, hseen, text => by
    by_cases hnamed : field.named key = true
    · rw [reads?_of_named hnamed] at h
      cases h
      simp only [readMember, hnamed, hseen.1.2 hf, if_true]
      exact refuses_failedInObject _ text
    · rw [reads?_of_not_named hnamed] at h
      simp only [readMember, hnamed, Bool.false_eq_true, if_false]
      exact refuses_bind (refuses_readMember h hf hseen.2 text)

/-- A member is refused if the value of its field is. -/
theorem refuses_readMember_of_bars : {α σ : Type} → {fields : Fields α σ} → {slots : σ} →
    fields.Bars nesting cause key text → Blank gap → (∀ f ∈ fields.reads? key, f ∉ seen) →
    fields.Seen seen slots →
    (fields.readMember nesting key slots).Refuses (0x3A :: (gap ++ text)) cause
  | _, _, .nil, _, h, _, _, _ => nomatch h
  | _, _, .cons field shape rest, (slot, slots), h, hgap, hnew, hseen => by
    by_cases hnamed : field.named key = true
    · rw [reads?_of_named hnamed] at hnew
      have hempty := hseen.isSome_eq_false (hnew _ rfl)
      simp only [readMember, hnamed, hempty, if_true, Bool.false_eq_true, if_false]
      exact refuses_colon hgap (refuses_bind ((if_pos hnamed).mp h))
    · rw [reads?_of_not_named hnamed] at hnew
      simp only [readMember, hnamed, Bool.false_eq_true, if_false]
      exact refuses_bind
        (refuses_readMember_of_bars ((if_neg hnamed).mp h) hgap hnew hseen.2)

/-! ## Objects -/

/-- A member is one for its key. -/
theorem isMember_of_spells {m : Member} (h : m.Spells key) :
    Reader.IsMember key (0x3A :: (encode m.value.before ++ encode m.value.inner))
      (encode m.text) := by
  obtain ⟨spelled, hkey, hread⟩ := Reader.string_of_spells h.key
  have htext : encode m.text = encode m.key.before ++ 0x22 :: (spelled ++ 0x22 ::
      (encode m.key.after ++ (0x3A :: (encode m.value.before ++ encode m.value.inner) ++
        encode m.value.after))) := by
    have hcolon (cs : List Char) : encode (':' :: cs) = 0x3A :: encode cs := rfl
    simp only [Member.text, Json.Padded.text, encode_append, hkey, hcolon, List.append_assoc,
      List.cons_append, List.nil_append]
  rw [htext]
  exact .intro h.spaced.key.before.blank h.spaced.key.after.blank h.spaced.value.after.blank hread

/-- Members are read as the fields say by which they are read. -/
theorem Reading.readsMembers {ms : List Member} {outcome : Except Cause (List String)}
    (h : fields.Reading nesting known seen ms outcome) (hnames : fields.names.Nodup)
    (hseen : fields.Seen seen slots) (hfits : fields.Fits known slots) :
    match outcome with
    | .ok seen' => ∃ slots', Reader.ReadsMembers
        (fun key slots => fields.readMember nesting key slots)
        (ms.map fun m => encode m.text) slots (.ok slots') ∧
        fields.Seen seen' slots' ∧ fields.Fits known slots'
    | .error cause => Reader.ReadsMembers (fun key slots => fields.readMember nesting key slots)
        (ms.map fun m => encode m.text) slots (.error cause) := by
  induction h generalizing slots with
  | done seen => exact ⟨slots, .done slots, hseen, hfits⟩
  | @next seen m ms key outcome spells new admits _ ih =>
    obtain ⟨slots', htakes, hseen', hfits'⟩ := exists_takes_readMember admits
      spells.spaced.value.before.blank hnames new hseen hfits
    have hothers := ih hseen' hfits'
    cases outcome with
    | ok seen' =>
      obtain ⟨slots'', hread, hend⟩ := hothers
      exact ⟨slots'', .next (isMember_of_spells spells) htakes hread, hend⟩
    | error cause => exact .next (isMember_of_spells spells) htakes hothers
  | again spells read old =>
    exact .stop (isMember_of_spells spells) (refuses_readMember read old hseen _)
  | inside spells new bars =>
    exact .stop (isMember_of_spells spells)
      (refuses_readMember_of_bars bars spells.spaced.value.before.blank new hseen)

/-- The names of the fields that entries give. -/
theorem filterMap_toList_append {ε : Type} (field? : ε → Option String) (e : ε) (entries : List ε) :
    (e :: entries).filterMap field? = (field? e).toList ++ entries.filterMap field? := by
  cases h : field? e <;> simp [h]

/-- If the members stand for entries, of which each gives a field a value or is to blame for a
refusal, then all are read, and no field was given twice and no entry is to blame; or they are read
up to a field that is given twice or an entry that is to blame. -/
theorem exists_reading {ε : Type} {stands : ε → String → List Char → Prop}
    {field? : ε → Option String} {entries : List ε} {ms : List Member}
    (nesting : Nat) (blames : ε → Cause → Prop)
    (hentries : List.Forall₂ (fun e m => ∃ key, m.Spells key ∧ stands e key m.value.inner)
      entries ms)
    (hreads : ∀ {e key text}, stands e key text → fields.reads? key = field? e)
    (hvalue : ∀ e ∈ entries, ∀ {key text}, stands e key text →
      (fields.Admits nesting known key (encode text) ∧ ∀ cause, ¬blames e cause) ∨
        ∃ cause, fields.Bars nesting cause key (encode text) ∧ blames e cause)
    (hseen : seen.Nodup) :
    (∃ seen', fields.Reading nesting known seen ms (.ok seen') ∧ seen'.Nodup ∧
      seen'.Perm (entries.filterMap field? ++ seen) ∧ ∀ e ∈ entries, ∀ cause, ¬blames e cause) ∨
    ∃ cause, fields.Reading nesting known seen ms (.error cause) ∧
      ((∃ f, cause = .duplicateField f ∧ 2 ≤ (entries.filterMap field? ++ seen).count f) ∨
        ∃ e ∈ entries, blames e cause) := by
  -- the names that were seen grow with each entry, so nothing is fixed about them but that they
  -- are different
  induction hentries generalizing seen with
  | nil => exact .inl ⟨seen, .done seen, hseen, .refl _, nofun⟩
  | @cons e m entries ms hm _ ih =>
    obtain ⟨key, spells, hstands⟩ := hm
    obtain ⟨hfirst, hothers⟩ := List.forall_mem_cons.1 hvalue
    have hread := hreads hstands
    rw [filterMap_toList_append, List.append_assoc]
    by_cases hnew : ∀ f ∈ field? e, f ∉ seen
    · rcases hfirst hstands with ⟨admits, hgood⟩ | ⟨cause, bars, hbad⟩
      · have hnodup : ((field? e).toList ++ seen).Nodup := by
          cases hf : field? e with
          | none => exact hseen
          | some f => exact List.nodup_cons.2 ⟨hnew f hf, hseen⟩
        have hperm : (entries.filterMap field? ++ ((field? e).toList ++ seen)).Perm
            ((field? e).toList ++ (entries.filterMap field? ++ seen)) :=
          List.perm_append_comm_assoc ..
        have hnext {outcome : Except Cause (List String)}
            (h : fields.Reading nesting known ((field? e).toList ++ seen) ms outcome) :
            fields.Reading nesting known seen (m :: ms) outcome :=
          .next spells (hread ▸ hnew) admits (hread ▸ h)
        rcases ih hothers hnodup with ⟨seen', h, hnodup', hperm', hgood'⟩ | ⟨cause, h, hwhy⟩
        · exact .inl ⟨seen', hnext h, hnodup', hperm'.trans hperm,
            List.forall_mem_cons.2 ⟨hgood, hgood'⟩⟩
        · refine .inr ⟨cause, hnext h, hwhy.imp ?_ ?_⟩
          · rintro ⟨f, hcause, hcount⟩
            exact ⟨f, hcause, hperm.count_eq f ▸ hcount⟩
          · rintro ⟨e', he', hbad⟩
            exact ⟨e', .tail _ he', hbad⟩
      · exact .inr ⟨cause, .inside spells (hread ▸ hnew) bars, .inr ⟨e, List.mem_cons_self, hbad⟩⟩
    · obtain ⟨f, hf, hold⟩ : ∃ f, field? e = some f ∧ f ∈ seen := by simpa using hnew
      refine .inr ⟨.duplicateField f, .again spells (hread.trans hf) hold, .inl ⟨f, rfl, ?_⟩⟩
      have hcount := List.one_le_count_iff.2 hold
      rw [hf, Option.toList_some, List.singleton_append, List.count_cons_self, List.count_append]
      omega

end

end Fields

namespace Shape

section
variable {α β σ : Type} {name : String} {fields : Fields α σ} {build : α → β} {parts : β → α}
  {known : σ} {seen : List String} {nesting : Nat} {ms : List Member} {gap : List Char}

/-- The text of an object with the bytes between its brackets. -/
theorem encode_object (gap : List Char) (ms : List Member) :
    encode (enclosed '\x7b' '\x7d' gap (ms.map Member.text)) =
      0x7B :: (Reader.listed (ms.map fun m => encode m.text) ++ encode gap ++ [0x7D]) := by
  rw [enclosed, encode_ascii (by decide), encode_append, encode_append,
    Json.encode_separated_listed, List.map_map, List.append_assoc]
  rfl

/-- If all members are read, so is the object, as what is made of some slots. -/
theorem takes_object_of_finish (h : fields.Reading nesting known [] ms (.ok seen))
    (hnames : fields.names.Nodup) (hgap : IsGap gap) :
    ∃ slots, fields.Seen seen slots ∧ fields.Fits known slots ∧
      ∀ xs, fields.finish slots = .ok xs →
        ((Shape.record name fields build parts).read (nesting + 1)).Takes
          (encode (enclosed '\x7b' '\x7d' gap (ms.map Member.text))) (build xs) := by
  obtain ⟨slots, hread, hseen, hfits⟩ :=
    h.readsMembers hnames fields.seen_empty (fields.fits_empty known)
  refine ⟨slots, hseen, hfits, fun xs hfinish => ?_⟩
  rw [encode_object]
  refine takes_braces (fun rest => ?_) hfinish
  rw [List.append_assoc]
  exact Reader.endsAs_members hread hgap.blank

/-- An object is read as the known values, if the fields that are not seen have their defaults. -/
theorem takes_object {xs : α} (h : fields.Reading nesting (fields.full xs) [] ms (.ok seen))
    (hnames : fields.names.Nodup) (hgap : IsGap gap) (hdefaults : fields.Defaults seen xs) :
    ((Shape.record name fields build parts).read (nesting + 1)).Takes
      (encode (enclosed '\x7b' '\x7d' gap (ms.map Member.text))) (build xs) := by
  obtain ⟨slots, hseen, hfits, htakes⟩ := takes_object_of_finish h hnames hgap
  exact htakes xs (Fields.finish_of_fits hseen hfits hdefaults)

/-- An object is read if no field has to be there. -/
theorem exists_takes_object (h : fields.Reading nesting known [] ms (.ok seen))
    (hnames : fields.names.Nodup) (hgap : IsGap gap) (hoptional : fields.Optional) :
    ∃ x, ((Shape.record name fields build parts).read (nesting + 1)).Takes
      (encode (enclosed '\x7b' '\x7d' gap (ms.map Member.text))) x := by
  obtain ⟨slots, -, -, htakes⟩ := takes_object_of_finish h hnames hgap
  obtain ⟨xs, hfinish⟩ := Fields.exists_finish hoptional slots
  exact ⟨build xs, htakes xs hfinish⟩

/-- An object is refused if a member of it is. -/
theorem refuses_object {cause : Cause} (h : fields.Reading nesting known [] ms (.error cause))
    (hnames : fields.names.Nodup) (hgap : IsGap gap) :
    ((Shape.record name fields build parts).read (nesting + 1)).Refuses
      (encode (enclosed '\x7b' '\x7d' gap (ms.map Member.text))) cause := by
  have hread := h.readsMembers hnames fields.seen_empty (fields.fits_empty known)
  intro blank rest hblank
  obtain ⟨unread, hmembers⟩ : Reader.EndsAs _ (.error cause) (0x7D :: rest) :=
    Reader.endsAs_members hread hgap.blank
  refine ⟨unread, ?_⟩
  rw [encode_object, Shape.read]
  simp only [List.cons_append, List.append_assoc, List.nil_append]
  refine (Reader.bind_ok (firstByte_eq hblank rfl)).trans ?_
  rw [if_pos rfl]
  refine (Reader.bind_ok Reader.skip_cons).trans ?_
  exact Reader.bind_error hmembers

end

end Shape

end ModuleBridge.Wire
