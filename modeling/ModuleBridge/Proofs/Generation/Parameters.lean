import Mathlib.Data.List.Forall2
import ModuleBridge.Proofs.Generation.Names

/-!
# The parameters of a declaration

A parameter keeps its name unless that is reserved, and then gets underscores after it. The names
chosen before are passed on, and a name that is chosen is neither one of those nor that of any
parameter (`chosen_free`). So the names differ as the parameters do, in whatever order a reserved
word and its variants with underscores come (`free_parameterNames`). Since no comma stands in a
name, the list that is printed can be cut into its entries again (`entries_joinWith`).
-/

namespace ModuleBridge.Generation

/-- What a parameter is called in a declaration. -/
inductive Called : String → String → Prop
  /-- A parameter that can be bound keeps its name. -/
  | own {p : String} (free : isReservedWord p = false) : Called p p
  /-- A reserved word gets underscores. -/
  | marked {p : String} (reserved : isReservedWord p = true) (count : Nat) :
    Called p (p ++ underscores (count + 1))

/-- The name of a parameter after those that were chosen before. -/
def chosen (parameters seen : List String) (p : String) : String :=
  if isReservedWord p then freeName p (parameters ++ seen) else p

/-- The entries of a list of parameters: what stands between the commas, without blanks in front. -/
def entries (text : String) : List String :=
  if text = "" then []
  else (text.toList.splitOn ',').map fun cs => String.ofList (cs.dropWhile (· = ' '))

/-- No comma stands in the text, and no blank in front of it. -/
def IsEntry (text : String) : Prop := ',' ∉ text.toList ∧ ∃ c ∈ text.toList.head?, c ≠ ' '

section
variable {p name text : String} {parameters seen remaining names texts : List String}
  {gap : List Char}

/-! ## Names -/

/-- The first parameter gets its name, which the others then have to avoid. -/
theorem parameterNames_cons : parameterNames parameters seen (p :: remaining) =
    chosen parameters seen p ::
      parameterNames parameters (chosen parameters seen p :: seen) remaining := rfl

/-- A parameter is called by its own name with underscores at its end. -/
theorem called_chosen (parameters seen : List String) (p : String) :
    Called p (chosen parameters seen p) := by
  unfold chosen
  split
  · next hreserved =>
    obtain ⟨⟨count, hcount⟩, -, -⟩ := freeName_spec p (parameters ++ seen)
    rw [hcount]
    exact .marked hreserved count
  · next hfree => exact .own (Bool.eq_false_iff.2 hfree)

/-- A name that is chosen is not reserved, was not chosen before and is no other parameter's. -/
theorem chosen_free (parameters : List String) (hp : p ∉ seen) :
    isReservedWord (chosen parameters seen p) = false ∧ chosen parameters seen p ∉ seen ∧
      ∀ q ∈ parameters, q ≠ p → q ≠ chosen parameters seen p := by
  unfold chosen
  split
  · obtain ⟨-, hreserved, hused⟩ := freeName_spec p (parameters ++ seen)
    rw [List.mem_append, not_or] at hused
    refine ⟨hreserved, hused.2, ?_⟩
    rintro q hq - rfl
    exact hused.1 hq
  · next hfree => exact ⟨Bool.eq_false_iff.2 hfree, hp, fun _ _ hne => hne⟩

/-- There is one name for each parameter, in the order of the parameters. -/
theorem called_parameterNames (seen : List String) :
    List.Forall₂ Called remaining (parameterNames parameters seen remaining) := by
  induction remaining generalizing seen with
  | nil => exact .nil
  | cons p remaining ih => exact .cons (called_chosen parameters seen p) (ih _)

/-- The names for the parameters that remain differ from each other and from those chosen before. -/
theorem free_parameterNames (hall : ∀ p ∈ remaining, p ∈ parameters) (hnodup : remaining.Nodup)
    (hseen : ∀ p ∈ remaining, p ∉ seen) :
    (parameterNames parameters seen remaining).Nodup ∧
      ∀ name ∈ parameterNames parameters seen remaining,
        name ∉ seen ∧ isReservedWord name = false := by
  induction remaining generalizing seen with
  | nil => exact ⟨.nil, nofun⟩
  | cons p remaining ih =>
    obtain ⟨-, hall⟩ := List.forall_mem_cons.1 hall
    obtain ⟨hp, hnodup⟩ := List.nodup_cons.1 hnodup
    obtain ⟨hpseen, hseen⟩ := List.forall_mem_cons.1 hseen
    obtain ⟨hreserved, hnew, hothers⟩ := chosen_free parameters hpseen
    have hseen' : ∀ q ∈ remaining, q ∉ chosen parameters seen p :: seen := by
      intro q hq
      rw [List.mem_cons, not_or]
      exact ⟨hothers q (hall q hq) fun hqp => hp (hqp ▸ hq), hseen q hq⟩
    obtain ⟨hnames, hfree⟩ := ih hall hnodup hseen'
    rw [parameterNames_cons]
    refine ⟨List.nodup_cons.2 ⟨fun hmem => (hfree _ hmem).1 List.mem_cons_self, hnames⟩, ?_⟩
    refine List.forall_mem_cons.2 ⟨⟨hnew, hreserved⟩, fun name hname => ?_⟩
    exact ⟨fun hmem => (hfree name hname).1 (.tail _ hmem), (hfree name hname).2⟩

/-! ## Entries -/

/-- The blanks in front of an entry are dropped. -/
theorem dropWhile_gap (h : IsEntry text) (hgap : ∀ c ∈ gap, c = ' ') :
    String.ofList ((gap ++ text.toList).dropWhile (· = ' ')) = text := by
  obtain ⟨-, c, hc, hne⟩ := h
  obtain ⟨cs, hcs⟩ := List.head?_eq_some_iff.1 hc
  rw [List.dropWhile_append_of_pos fun d hd => decide_eq_true (hgap d hd), hcs,
    List.dropWhile_cons_of_neg (by simpa using hne), ← hcs, String.ofList_toList]

theorem comma_notMem (h : IsEntry text) (hgap : ∀ c ∈ gap, c = ' ') : ',' ∉ gap ++ text.toList := by
  rw [List.mem_append, not_or]
  exact ⟨fun hmem => absurd (hgap _ hmem) (by decide), h.1⟩

/-- A list is cut into its entries, also with blanks before the first one. -/
theorem splitOn_joinWith (h : ∀ t ∈ text :: texts, IsEntry t) (hgap : ∀ c ∈ gap, c = ' ') :
    ((gap ++ (Text.joinWith ", " (text :: texts)).toList).splitOn ',').map
        (fun cs => String.ofList (cs.dropWhile (· = ' '))) = text :: texts := by
  induction texts generalizing text gap with
  | nil =>
    have htext := List.forall_mem_singleton.1 h
    rw [Text.joinWith, List.splitOn_eq_singleton (comma_notMem htext hgap), List.map_singleton,
      dropWhile_gap htext hgap]
  | cons next texts ih =>
    obtain ⟨htext, h⟩ := List.forall_mem_cons.1 h
    have hjoin : gap ++ (Text.joinWith ", " (text :: next :: texts)).toList =
        (gap ++ text.toList) ++ ',' :: ([' '] ++ (Text.joinWith ", " (next :: texts)).toList) := by
      have hcomma : ", ".toList = [',', ' '] := rfl
      simp [Text.joinWith, hcomma]
    rw [hjoin, List.splitOn_eq_splitOnP, List.splitOnP_append_cons _ _ (by rfl),
      ← List.splitOn_eq_splitOnP, ← List.splitOn_eq_splitOnP,
      List.splitOn_eq_singleton (comma_notMem htext hgap), List.map_append, List.map_singleton,
      dropWhile_gap htext hgap, ih h (List.forall_mem_singleton.2 rfl)]
    rfl

/-- Entries are read back from between commas. -/
theorem entries_joinWith (h : ∀ t ∈ texts, IsEntry t) :
    entries (Text.joinWith ", " texts) = texts := by
  cases texts with
  | nil => rfl
  | cons text texts =>
    have hne : Text.joinWith ", " (text :: texts) ≠ "" := by
      obtain ⟨-, c, hc, -⟩ := h text List.mem_cons_self
      obtain ⟨cs, hcs⟩ := List.head?_eq_some_iff.1 hc
      rw [ne_eq, ← String.toList_inj]
      cases texts <;> simp [Text.joinWith, hcs]
    rw [entries, if_neg hne]
    have hgap : ∀ c ∈ [], c = ' ' := nofun
    exact splitOn_joinWith h hgap

/-- A name with its type is an entry. -/
theorem IsTail.isEntry (h : IsTail name) : IsEntry (name ++ ": any") := by
  have hcomma : isIdentifierTail ',' = false := (isIdentifierTail_of_ascii (by decide)).trans rfl
  have hblank : isIdentifierTail ' ' = false := (isIdentifierTail_of_ascii (by decide)).trans rfl
  obtain ⟨c, cs, hcs⟩ := List.exists_cons_of_ne_nil h.ne_nil
  have htail := h.all
  constructor
  · rw [String.toList_append, List.mem_append, not_or]
    refine ⟨fun hmem => ?_, by decide⟩
    cases hcomma.symm.trans (htail _ hmem)
  · rw [hcs] at htail
    refine ⟨c, by simp [hcs], ?_⟩
    rintro rfl
    cases hblank.symm.trans (htail _ List.mem_cons_self)

/-- **The parameters that are declared.** For different parameters, the list has one entry for each
in their order, a name with its type, and commas and blanks between the entries. The names differ
and none is reserved; a parameter keeps its name unless that is reserved, and otherwise gets
underscores after it and nothing else. Reference: `typed_parameters`. -/
theorem typedParameters_declares (h : ∀ p ∈ parameters, isIdentifier p = true)
    (hnodup : parameters.Nodup) :
    ∃ names, typedParameters parameters = Text.joinWith ", " (names.map (· ++ ": any")) ∧
      entries (typedParameters parameters) = names.map (· ++ ": any") ∧
      List.Forall₂ Called parameters names ∧ names.Nodup ∧
      ∀ name ∈ names, isReservedWord name = false := by
  have htext : typedParameters parameters =
      Text.joinWith ", " ((parameterNames parameters [] parameters).map (· ++ ": any")) := rfl
  have hunseen : ∀ p ∈ parameters, p ∉ [] := fun _ _ => List.not_mem_nil
  obtain ⟨hnames, hfree⟩ := free_parameterNames (fun _ hp => hp) hnodup hunseen
  obtain ⟨-, htail⟩ := parameterNames_spec h []
  refine ⟨_, htext, ?_, called_parameterNames [], hnames, fun name hname => (hfree name hname).2⟩
  rw [htext]
  refine entries_joinWith fun t ht => ?_
  obtain ⟨name, hname, rfl⟩ := List.mem_map.1 ht
  exact (htail name hname).isEntry

/-- Reserved words between their own variants. -/
theorem typedParameters_declares_variants :
    ∃ names, typedParameters ["new_", "new", "class", "new__"] =
        Text.joinWith ", " (names.map (· ++ ": any")) ∧
      List.Forall₂ Called ["new_", "new", "class", "new__"] names ∧
      names = ["new_", "new___", "class_", "new__"] := by
  have hnames : entries (typedParameters ["new_", "new", "class", "new__"]) =
      ["new_", "new___", "class_", "new__"].map (· ++ ": any") := by decide +kernel
  have haccepted : ∀ p ∈ ["new_", "new", "class", "new__"], isIdentifier p = true := by
    decide +kernel
  obtain ⟨names, htext, hentries, hcalled, -, -⟩ :=
    typedParameters_declares haccepted (by decide)
  have hinjective : Function.Injective (· ++ ": any") := fun s t hst => by
    simpa [← String.toList_inj] using hst
  exact ⟨names, htext, hcalled, hinjective.list_map (hentries.symm.trans hnames)⟩

end

end ModuleBridge.Generation
