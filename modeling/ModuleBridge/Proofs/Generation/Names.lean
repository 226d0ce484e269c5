import ModuleBridge.Generation.Plan
import ModuleBridge.Proofs.Generation.FreeName

/-!
# The names in generated code

What is accepted as the name of a function or a parameter is an identifier, and a binding is the
name of its function or a name that is free (`bindWrappers_cons`). Bindings therefore differ from
each other as soon as the functions do (`nodup_bindings_of_plan`): one that was chosen avoids all
names of functions and those chosen before.
-/

namespace ModuleBridge.Generation

/-! ## Characters of ASCII -/

/-- Of the letters and the numerals, those of ASCII are in the first ranges. -/
theorem asciiRanges :
    Text.alphabeticRanges.filter (·.1 < 0x80) = [(0x41, 0x5A), (0x61, 0x7A)] ∧
      Text.numericRanges.filter (·.1 < 0x80) = [(0x30, 0x39)] := by
  decide +kernel

section
variable {c : Char}

/-- Among the ASCII characters just the letters are alphabetic. -/
theorem isAlphabetic_of_ascii (h : c.toNat < 0x80) :
    Text.isAlphabetic c = Text.inRanges [(0x41, 0x5A), (0x61, 0x7A)] c := by
  rw [Text.isAlphabetic, ← Text.inRanges_filter_lt h Text.alphabeticRanges, asciiRanges.1]

/-- Among the ASCII characters just the digits are numeric. -/
theorem isNumeric_of_ascii (h : c.toNat < 0x80) :
    Text.isNumeric c = Text.inRanges [(0x30, 0x39)] c := by
  rw [Text.isNumeric, ← Text.inRanges_filter_lt h Text.numericRanges, asciiRanges.2]

/-- The letters and digits of ASCII. -/
theorem isAlphanumeric_of_ascii (h : c.toNat < 0x80) :
    isAlphanumeric c = Text.inRanges [(0x41, 0x5A), (0x61, 0x7A), (0x30, 0x39)] c := by
  rw [isAlphanumeric, isAlphabetic_of_ascii h, isNumeric_of_ascii h]
  simp [Text.inRanges, Bool.or_assoc]

/-- Among the ASCII characters just letters, digits and the underscore may stand in an
identifier. -/
theorem isIdentifierTail_of_ascii (h : c.toNat < 0x80) : isIdentifierTail c =
    (c = '_' || Text.inRanges [(0x41, 0x5A), (0x61, 0x7A), (0x30, 0x39)] c) := by
  rw [isIdentifierTail, isAlphanumeric_of_ascii h]

end

/-! ## Identifiers -/

/-- A name of characters that can stand in an identifier. -/
structure IsTail (name : String) : Prop where
  ne_nil : name.toList ≠ []
  all : ∀ c ∈ name.toList, isIdentifierTail c = true

section
variable {name : String}

/-- A name that has no underscore has none put after it. -/
theorem eq_of_append_underscores {count : Nat} (h : '_' ∉ (name ++ underscores count).toList) :
    name ++ underscores count = name := by
  cases count with
  | zero => exact String.append_empty
  | succ count =>
    rw [toList_append_underscores, List.mem_append, not_or] at h
    exact absurd List.mem_cons_self h.2

/-- Underscores may be added to what may stand in an identifier. -/
theorem IsTail.append_underscores (h : IsTail name) (count : Nat) :
    IsTail (name ++ underscores count) := by
  refine ⟨?_, fun c hc => ?_⟩
  · rw [toList_append_underscores]
    exact List.append_ne_nil_of_left_ne_nil h.ne_nil _
  · rw [toList_append_underscores] at hc
    rcases List.mem_append.1 hc with hc | hc
    · exact h.all c hc
    · rw [(List.mem_replicate.1 hc).2]
      rfl

/-- An identifier stays one with underscores at its end. -/
theorem isIdentifier_append_underscores (h : isIdentifier name = true) (count : Nat) :
    isIdentifier (name ++ underscores count) = true := by
  unfold isIdentifier at h ⊢
  rw [toList_append_underscores]
  cases hname : name.toList with
  | nil =>
    rw [hname] at h
    cases h
  | cons c cs =>
    rw [hname] at h
    rw [Bool.and_eq_true, List.all_eq_true] at h
    rw [List.cons_append, Bool.and_eq_true, List.all_eq_true]
    refine ⟨h.1, fun d hd => ?_⟩
    rcases List.mem_append.1 hd with hd | hd
    · exact h.2 d hd
    · rw [(List.mem_replicate.1 hd).2]
      rfl

/-- A name that is accepted has a first character, which begins it. -/
theorem exists_start_of_isIdentifier (h : isIdentifier name = true) :
    ∃ c cs, name.toList = c :: cs ∧ isIdentifierStart c = true := by
  unfold isIdentifier at h
  split at h
  · cases h
  · next c cs hname => exact ⟨c, cs, hname, (Bool.and_eq_true_iff.1 h).1⟩

/-- What can begin an identifier can stand in it. -/
theorem isIdentifierTail_of_start {c : Char} (h : isIdentifierStart c = true) :
    isIdentifierTail c = true := by
  simp only [isIdentifierStart, isIdentifierTail, isAlphanumeric, Bool.or_eq_true] at h ⊢
  rcases h with h | h
  · exact .inl h
  · exact .inr (.inl h)

/-- An identifier has nothing but characters of identifiers. -/
theorem IsTail.of_isIdentifier (h : isIdentifier name = true) : IsTail name := by
  unfold isIdentifier at h
  split at h
  · cases h
  · next c cs hname =>
    rw [Bool.and_eq_true, List.all_eq_true] at h
    refine ⟨by rw [hname]; exact List.cons_ne_nil c cs, fun d hd => ?_⟩
    rw [hname] at hd
    cases hd with
    | head => exact isIdentifierTail_of_start h.1
    | tail _ hd => exact h.2 d hd

/-- Just identifiers pass the check of names. -/
theorem requireIdentifier_eq_ok_iff (field name : String) :
    requireIdentifier field name = .ok () ↔ isIdentifier name = true := by
  unfold requireIdentifier
  split
  · next h => simp [h]
  · next h => simp [h]

/-- The characters of a name with an underscore for each that cannot stand in an identifier. -/
def replaced (name : String) : List Char :=
  name.toList.map fun c => if isIdentifierTail c then c else '_'

/-- After the replacement all characters may stand in an identifier. -/
theorem isIdentifierTail_of_mem_replaced {c : Char} (h : c ∈ replaced name) :
    isIdentifierTail c = true := by
  obtain ⟨d, -, rfl⟩ := List.mem_map.1 h
  split
  · assumption
  · rfl

/-- A name without any underscore after the replacement had no character replaced. -/
theorem replaced_eq_of_no_underscore (h : '_' ∉ replaced name) : replaced name = name.toList := by
  refine (List.map_congr_left fun c hc => ?_).trans (List.map_id' _)
  by_cases hc' : isIdentifierTail c = true
  · rw [if_pos hc']
  · refine absurd ?_ h
    rw [replaced, List.mem_map]
    exact ⟨c, hc, if_neg hc'⟩

/-- The characters of the identifier for a name, up to the underscore after a reserved word. -/
def kept (name : String) : List Char :=
  if needsUnderscore (replaced name) then '_' :: replaced name else replaced name

theorem toIdentifier_eq (name : String) :
    toIdentifier name =
      if isReservedWord (String.ofList (kept name)) then String.ofList (kept name) ++ "_"
      else String.ofList (kept name) := rfl

/-- The identifier of a name is its kept characters, with underscores at the end. -/
theorem exists_toIdentifier (name : String) :
    ∃ count, toIdentifier name = String.ofList (kept name) ++ underscores count := by
  rw [toIdentifier_eq]
  split
  · exact ⟨1, rfl⟩
  · exact ⟨0, String.append_empty.symm⟩

/-- The kept characters are the replaced ones behind underscores, at least one if there is none. -/
theorem exists_kept (name : String) :
    ∃ front, kept name = List.replicate front '_' ++ replaced name ∧
      (replaced name = [] → front ≠ 0) := by
  unfold kept
  split
  · exact ⟨1, rfl, fun _ => Nat.one_ne_zero⟩
  · next hneeds => exact ⟨0, rfl, fun hnil => absurd (by rw [hnil]; rfl) hneeds⟩

/-- The identifier for a name has underscores around the characters of the name, and one in front if
there are none. -/
theorem toList_toIdentifier (name : String) :
    ∃ front back, (toIdentifier name).toList =
      List.replicate front '_' ++ (replaced name ++ List.replicate back '_') ∧
        (replaced name = [] → front ≠ 0) := by
  obtain ⟨back, hback⟩ := exists_toIdentifier name
  obtain ⟨front, hfront, hnil⟩ := exists_kept name
  refine ⟨front, back, ?_, hnil⟩
  rw [hback, toList_append_underscores, String.toList_ofList, hfront, List.append_assoc]

/-- What is kept of a name is an identifier. -/
theorem isIdentifier_kept (name : String) : isIdentifier (String.ofList (kept name)) = true := by
  have htail : (replaced name).all isIdentifierTail = true :=
    List.all_eq_true.2 fun c hc => isIdentifierTail_of_mem_replaced hc
  unfold isIdentifier
  rw [String.toList_ofList, kept]
  split
  · next hc =>
    -- a digit in front, or nothing at all
    split at hc
    · cases hc
    · next hneeds => exact absurd (by rw [hc]; rfl) hneeds
  · next c cs hc =>
    split at hc
    · cases hc
      exact htail
    · next hneeds =>
      rw [hc, List.all_cons, Bool.and_eq_true] at htail
      rw [hc] at hneeds
      have hnumeral : Text.isNumeric c = false := Bool.eq_false_iff.2 hneeds
      refine Bool.and_eq_true_iff.2 ⟨?_, htail.2⟩
      have hc' := htail.1
      rwa [isIdentifierTail, isAlphanumeric, hnumeral, Bool.or_false] at hc'

/-- The identifier for a name is one up to its first character. -/
theorem isTail_toIdentifier (name : String) : IsTail (toIdentifier name) := by
  obtain ⟨front, back, hlist, hnil⟩ := toList_toIdentifier name
  refine ⟨?_, fun c hc => ?_⟩
  · rw [hlist, ne_eq, List.append_eq_nil_iff, List.append_eq_nil_iff, List.replicate_eq_nil_iff]
    exact fun he => hnil he.2.1 he.1
  · rw [hlist, List.mem_append, List.mem_append, List.mem_replicate, List.mem_replicate] at hc
    rcases hc with ⟨-, rfl⟩ | hc | ⟨-, rfl⟩
    · rfl
    · exact isIdentifierTail_of_mem_replaced hc
    · rfl

/-- An identifier without an underscore is the name that it was made for. -/
theorem toIdentifier_eq_of_no_underscore (h : '_' ∉ (toIdentifier name).toList) :
    toIdentifier name = name := by
  obtain ⟨front, back, hlist, -⟩ := toList_toIdentifier name
  rw [hlist, List.mem_append, List.mem_append, List.mem_replicate, List.mem_replicate, not_or,
    not_or] at h
  obtain ⟨hfront, hreplaced, hback⟩ := h
  have hfront' : front = 0 := by simpa using hfront
  have hback' : back = 0 := by simpa using hback
  rw [hfront', hback', replaced_eq_of_no_underscore hreplaced] at hlist
  rw [← String.toList_inj, hlist]
  simp

end

/-! ## Plans -/

section
variable {f : FunctionSignature} {functions rest : List FunctionSignature}
  {taken chosen parameters remaining : List String} {wrappers : List Wrapper} {w : Wrapper}
  {moduleName : ModuleName} {p : Plan}

/-- A list of parameters passes if each of them is an identifier. -/
theorem forM_requireIdentifier_eq_ok_iff :
    parameters.forM (requireIdentifier "parameter") = .ok () ↔
      ∀ p ∈ parameters, isIdentifier p = true := by
  induction parameters with
  | nil => simp [pure, Except.pure]
  | cons p rest ih =>
    have hcons : (p :: rest).forM (requireIdentifier "parameter") =
        (requireIdentifier "parameter" p).bind fun _ =>
          rest.forM (requireIdentifier "parameter") := rfl
    rw [hcons, List.forall_mem_cons, ← ih,
      ← requireIdentifier_eq_ok_iff "parameter" p]
    cases requireIdentifier "parameter" p with
    | error e => simp [Except.bind]
    | ok u => simp [Except.bind]

/-- A function is accepted if its name and its parameters are identifiers and its name is no other
member's. -/
theorem checkSignature_eq_ok_iff :
    checkSignature f = .ok () ↔ isIdentifier f.name = true ∧ f.name ∉ clientMembers ∧
      ∀ p ∈ f.parameters, isIdentifier p = true := by
  rw [← forM_requireIdentifier_eq_ok_iff, ← requireIdentifier_eq_ok_iff "function" f.name]
  unfold checkSignature
  cases hname : requireIdentifier "function" f.name with
  | error e => simp [bind, Except.bind]
  | ok u =>
    by_cases hmember : f.name ∈ clientMembers
    · simp [bind, Except.bind, hmember]
    · simp [bind, Except.bind, hmember]

/-- The first wrapper is bound to a free name or to its function's own. -/
theorem bindWrappers_cons (h : bindWrappers taken chosen (f :: rest) = .ok wrappers) :
    ∃ binding wrappers', wrappers = ⟨f, binding⟩ :: wrappers' ∧ checkSignature f = .ok () ∧
      (binding = freeName f.name (taken ++ chosen) ∧ needsRename f.name = true ∧
          bindWrappers taken (binding :: chosen) rest = .ok wrappers' ∨
        binding = f.name ∧ needsRename f.name = false ∧
          bindWrappers taken chosen rest = .ok wrappers') := by
  rw [bindWrappers] at h
  obtain ⟨_, hf, h⟩ := exists_of_bind_ok h
  split at h
  · next hrename =>
    obtain ⟨wrappers', hrest, h⟩ := exists_of_bind_ok h
    cases h
    exact ⟨_, wrappers', rfl, hf, .inl ⟨rfl, hrename, hrest⟩⟩
  · next hrename =>
    obtain ⟨wrappers', hrest, h⟩ := exists_of_bind_ok h
    cases h
    exact ⟨_, wrappers', rfl, hf, .inr ⟨rfl, by simpa using hrename, hrest⟩⟩

/-- There is one wrapper for each function, in the order of the functions. -/
theorem map_signature_of_bindWrappers (h : bindWrappers taken chosen functions = .ok wrappers) :
    wrappers.map (·.signature) = functions := by
  induction functions generalizing chosen wrappers with
  | nil =>
    cases h
    rfl
  | cons f rest ih =>
    obtain ⟨binding, wrappers', rfl, -, ⟨-, -, hrest⟩ | ⟨-, -, hrest⟩⟩ := bindWrappers_cons h
    · rw [List.map_cons, ih hrest]
    · rw [List.map_cons, ih hrest]

/-- A wrapper is for a function that is accepted, and bound to its name or to a free one. -/
theorem binding_of_bindWrappers (h : bindWrappers taken chosen functions = .ok wrappers)
    (hw : w ∈ wrappers) : checkSignature w.signature = .ok () ∧
      (w.binding = w.signature.name ∧ needsRename w.signature.name = false ∨
        needsRename w.signature.name = true ∧
          ∃ chosen', w.binding = freeName w.signature.name (taken ++ chosen')) := by
  induction functions generalizing chosen wrappers with
  | nil =>
    cases h
    cases hw
  | cons f rest ih =>
    obtain ⟨binding, wrappers', rfl, hf, ⟨rfl, hrename, hrest⟩ | ⟨rfl, hown, hrest⟩⟩ :=
      bindWrappers_cons h
    · cases hw with
      | head => exact ⟨hf, .inr ⟨hrename, chosen, rfl⟩⟩
      | tail _ hw => exact ih hrest hw
    · cases hw with
      | head => exact ⟨hf, .inl ⟨rfl, hown⟩⟩
      | tail _ hw => exact ih hrest hw

/-- No two wrappers are bound to one name. A name that was chosen is none of those taken, and all
names of functions are taken. -/
theorem nodup_bindings_of_bindWrappers (h : bindWrappers taken chosen functions = .ok wrappers)
    (htaken : ∀ f ∈ functions, f.name ∈ taken) (hchosen : ∀ name ∈ chosen, name ∉ taken)
    (hnodup : (functions.map (·.name)).Nodup) :
    (wrappers.map (·.binding)).Nodup ∧ (∀ w ∈ wrappers, w.binding ∉ chosen) ∧
      ∀ w ∈ wrappers, w.binding ∈ taken → w.binding = w.signature.name := by
  induction functions generalizing chosen wrappers with
  | nil =>
    cases h
    exact ⟨.nil, nofun, nofun⟩
  | cons f rest ih =>
    obtain ⟨hf, hrestNodup⟩ := List.nodup_cons.1 hnodup
    have htaken' : ∀ g ∈ rest, g.name ∈ taken := fun g hg => htaken g (.tail _ hg)
    -- a free name joins those chosen, which are never taken; a name that is kept is taken already
    obtain ⟨binding, wrappers', rfl, -, ⟨hfree, -, hrest⟩ | ⟨hname, -, hrest⟩⟩ := bindWrappers_cons h
    · obtain ⟨-, -, hnew⟩ := freeName_spec f.name (taken ++ chosen)
      rw [← hfree, List.mem_append, not_or] at hnew
      have hchosen' : ∀ name ∈ binding :: chosen, name ∉ taken := by
        intro name hn
        cases hn with
        | head => exact hnew.1
        | tail _ hn => exact hchosen name hn
      obtain ⟨hbindings, havoid, hown⟩ := ih hrest htaken' hchosen' hrestNodup
      refine ⟨List.nodup_cons.2 ⟨fun hmem => ?_, hbindings⟩, fun w hw => ?_, fun w hw hmem => ?_⟩
      · obtain ⟨w, hw, hwb⟩ := List.mem_map.1 hmem
        exact havoid w hw (hwb ▸ List.mem_cons_self)
      · cases hw with
        | head => exact hnew.2
        | tail _ hw => exact fun hmem => havoid w hw (.tail _ hmem)
      · cases hw with
        | head => exact absurd hmem hnew.1
        | tail _ hw => exact hown w hw hmem
    · have hftaken : f.name ∈ taken := htaken f List.mem_cons_self
      obtain ⟨hbindings, havoid, hown⟩ := ih hrest htaken' hchosen hrestNodup
      rw [hname]
      refine ⟨List.nodup_cons.2 ⟨fun hmem => hf ?_, hbindings⟩, fun w hw => ?_, fun w hw hmem => ?_⟩
      · obtain ⟨w, hw, hwb⟩ := List.mem_map.1 hmem
        have hwf : w.binding = w.signature.name := hown w hw (hwb ▸ hftaken)
        have hsignature : w.signature ∈ rest := by
          rw [← map_signature_of_bindWrappers hrest]
          exact List.mem_map_of_mem hw
        rw [← hwb, hwf]
        exact List.mem_map_of_mem hsignature
      · cases hw with
        | head => exact fun hmem => hchosen _ hmem hftaken
        | tail _ hw => exact havoid w hw
      · cases hw with
        | head => rfl
        | tail _ hw => exact hown w hw hmem

/-- A plan has the export name of its module and the wrappers that were bound for its functions. -/
theorem plan_eq_ok (h : plan moduleName functions = .ok p) :
    p.exportName = exportName moduleName ∧
      bindWrappers (functions.map (·.name) ++ scopeBindings) [] functions = .ok p.wrappers := by
  obtain ⟨wrappers, hwrappers, h⟩ := exists_of_bind_ok h
  cases h
  exact ⟨rfl, hwrappers⟩

/-- A plan has one wrapper for each function, in the order of the functions. -/
theorem map_signature_of_plan (h : plan moduleName functions = .ok p) :
    p.wrappers.map (·.signature) = functions :=
  map_signature_of_bindWrappers (plan_eq_ok h).2

/-- A wrapper of a plan is for a function that is accepted, and its binding is the function's name
or a free one. -/
theorem binding_of_plan (h : plan moduleName functions = .ok p) (hw : w ∈ p.wrappers) :
    checkSignature w.signature = .ok () ∧
      (w.binding = w.signature.name ∧ needsRename w.signature.name = false ∨
        needsRename w.signature.name = true ∧ ∃ chosen, w.binding =
          freeName w.signature.name (functions.map (·.name) ++ scopeBindings ++ chosen)) :=
  binding_of_bindWrappers (plan_eq_ok h).2 hw

/-- The signature of a planned wrapper passed its check, and its binding is made of characters of
identifiers. -/
theorem wrapper_of_plan (h : plan moduleName functions = .ok p) (hw : w ∈ p.wrappers) :
    checkSignature w.signature = .ok () ∧ IsTail w.binding := by
  obtain ⟨hf, hbinding⟩ := binding_of_plan h hw
  have htail : IsTail w.signature.name := .of_isIdentifier (checkSignature_eq_ok_iff.1 hf).1
  refine ⟨hf, ?_⟩
  rcases hbinding with ⟨hown, -⟩ | ⟨-, chosen, hfree⟩
  · rw [hown]
    exact htail
  · obtain ⟨⟨count, hcount⟩, -, -⟩ := freeName_spec w.signature.name
      (functions.map (·.name) ++ scopeBindings ++ chosen)
    rw [hfree, hcount]
    exact htail.append_underscores _

/-- A plan for functions with different names binds no two wrappers to one name. -/
theorem nodup_bindings_of_plan (h : plan moduleName functions = .ok p)
    (hnodup : (functions.map (·.name)).Nodup) : (p.wrappers.map (·.binding)).Nodup :=
  (nodup_bindings_of_bindWrappers (plan_eq_ok h).2
    (fun _ hf => List.mem_append_left _ (List.mem_map_of_mem hf)) (List.forall_mem_nil _) hnodup).1

/-- A binding is an identifier that can be declared next to what is declared in every factory. -/
theorem fresh_binding_of_plan (h : plan moduleName functions = .ok p) (hw : w ∈ p.wrappers) :
    isIdentifier w.binding = true ∧ isReservedWord w.binding = false ∧
      w.binding ∉ clientMembers ∧ w.binding ∉ scopeBindings := by
  obtain ⟨hf, hbinding⟩ := binding_of_plan h hw
  obtain ⟨hname, hmember, -⟩ := checkSignature_eq_ok_iff.1 hf
  rcases hbinding with ⟨hown, hrename⟩ | ⟨-, chosen, hfree⟩
  · rw [needsRename, Bool.or_eq_false_iff, ← Bool.not_eq_true (scopeBindings.contains _),
      List.contains_iff_mem] at hrename
    rw [hown]
    exact ⟨hname, hrename.1, hmember, hrename.2⟩
  · obtain ⟨⟨count, hcount⟩, hreserved, hused⟩ := freeName_spec w.signature.name
      (functions.map (·.name) ++ scopeBindings ++ chosen)
    rw [← hfree] at hcount hreserved hused
    rw [List.mem_append, List.mem_append, not_or, not_or] at hused
    refine ⟨?_, hreserved, fun hmem => ?_, hused.1.2⟩
    · rw [hcount]
      exact isIdentifier_append_underscores hname _
    · have hclient : ∀ name ∈ clientMembers, '_' ∉ name.toList := by decide
      refine hclient _ hmem ?_
      rw [hcount, toList_append_underscores]
      exact List.mem_append_right _ List.mem_cons_self

/-- A function that needs no other name keeps its own. -/
theorem binding_eq_name_of_plan (h : plan moduleName functions = .ok p) (hw : w ∈ p.wrappers)
    (hrename : needsRename w.signature.name = false) : w.binding = w.signature.name := by
  rcases (binding_of_plan h hw).2 with ⟨hown, -⟩ | ⟨hneeds, -⟩
  · exact hown
  · rw [hrename] at hneeds
    cases hneeds

/-- A name without an underscore that need not be changed is bound only for the function of that
name. -/
theorem binding_eq_iff_of_plan {name : String} (h : plan moduleName functions = .ok p)
    (hunderscore : '_' ∉ name.toList) (hrename : needsRename name = false) :
    (∃ w ∈ p.wrappers, w.binding = name) ↔ ∃ f ∈ functions, f.name = name := by
  constructor
  · rintro ⟨w, hw, rfl⟩
    have hf : w.signature ∈ functions := by
      rw [← map_signature_of_plan h]
      exact List.mem_map_of_mem hw
    refine ⟨w.signature, hf, ?_⟩
    rcases (binding_of_plan h hw).2 with ⟨hown, -⟩ | ⟨-, chosen, hfree⟩
    · exact hown.symm
    · obtain ⟨⟨count, hcount⟩, -, -⟩ := freeName_spec w.signature.name
        (functions.map (·.name) ++ scopeBindings ++ chosen)
      rw [hfree, hcount] at hunderscore ⊢
      exact (eq_of_append_underscores hunderscore).symm
  · rintro ⟨f, hf, rfl⟩
    rw [← map_signature_of_plan h] at hf
    obtain ⟨w, hw, rfl⟩ := List.mem_map.1 hf
    exact ⟨w, hw, binding_eq_name_of_plan h hw hrename⟩

/-- A name without an underscore is exported only for the module of that name. -/
theorem eq_of_exportName {name : String} (h : exportName moduleName = name)
    (hunderscore : '_' ∉ name.toList) : moduleName.text = name := by
  obtain ⟨count, hcount, -⟩ := exists_extend importedBindings (toIdentifier moduleName.text)
  rw [exportName, hcount] at h
  rw [← h] at hunderscore ⊢
  have hsame := eq_of_append_underscores hunderscore
  rw [hsame] at hunderscore ⊢
  exact (toIdentifier_eq_of_no_underscore hunderscore).symm

/-- The export name is made of characters of identifiers. -/
theorem isTail_exportName (moduleName : ModuleName) : IsTail (exportName moduleName) := by
  obtain ⟨count, hcount, -⟩ := exists_extend importedBindings (toIdentifier moduleName.text)
  rw [exportName, hcount]
  exact (isTail_toIdentifier _).append_underscores count

/-- The export name of a plan is made of characters of identifiers. -/
theorem isTail_exportName_of_plan (h : plan moduleName functions = .ok p) :
    IsTail p.exportName := by
  rw [(plan_eq_ok h).1]
  exact isTail_exportName moduleName

/-- The name of a parameter in a declaration is that of the parameter, up to underscores. -/
theorem parameterNames_spec (h : ∀ p ∈ remaining, isIdentifier p = true) (seen : List String) :
    (parameterNames parameters seen remaining).length = remaining.length ∧
      ∀ name ∈ parameterNames parameters seen remaining, IsTail name := by
  induction remaining generalizing seen with
  | nil => exact ⟨rfl, nofun⟩
  | cons p remaining ih =>
    obtain ⟨hlength, htail⟩ := ih (fun q hq => h q (.tail _ hq))
      ((if isReservedWord p then freeName p (parameters ++ seen) else p) :: seen)
    have hp : IsTail p := .of_isIdentifier (h p List.mem_cons_self)
    refine ⟨congrArg (· + 1) hlength, fun name hn => ?_⟩
    cases hn with
    | head =>
      split
      · obtain ⟨⟨count, hcount⟩, -, -⟩ := freeName_spec p (parameters ++ seen)
        rw [hcount]
        exact hp.append_underscores _
      · exact hp
    | tail _ hn => exact htail name hn

end

end ModuleBridge.Generation
