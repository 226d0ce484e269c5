import Mathlib.Data.List.Induction
import Mathlib.Data.List.Nodup
import Mathlib.Data.List.Perm.Basic
import ModuleBridge.Source.Exports

/-!
# What a module exports

A statement binds the list of exports to a value, afresh or by adding to what is listed already
(`Binds`). The names listed are those of the last value bound afresh and of the values added after
it (`Listed`), and reading the statements in their order gathers just these
(`declaredExports_spec`). With the list known, the functions found after some statements are
described by the statements alone (`Interface`): which names they have, in which order they stand,
and whose parameters they carry. One more statement keeps the description true (`Interface.snoc`),
and only one list of functions fits it (`Interface.unique`).
-/

namespace ModuleBridge.Source

/-! ## The list of exports, said of the statements -/

/-- The text is one of the literals that an expression lists: an item of a list or a tuple, or a
literal that one side of a sum lists. -/
inductive Lists : Expr → String → Prop
  | list {items : List Expr} {s : String} (h : .text s ∈ items) : Lists (.list items) s
  | tuple {items : List Expr} {s : String} (h : .text s ∈ items) : Lists (.tuple items) s
  | left {left right : Expr} {s : String} (h : Lists left s) : Lists (.sum left right) s
  | right {left right : Expr} {s : String} (h : Lists right s) : Lists (.sum left right) s

/-- A way to bind the list of exports. -/
inductive Binding
  /-- The value is the list. -/
  | whole (value : Expr)
  /-- The value is added to the list. -/
  | added (value : Expr)

/-- The statement binds the list of exports. -/
inductive Binds : Statement → Binding → Prop
  | assign {targets : List Expr} {value : Expr} (h : .name exportList ∈ targets) :
    Binds (.assign targets value) (.whole value)
  | annotate {value : Expr} : Binds (.annotate (.name exportList) (some value)) (.whole value)
  | augment {value : Expr} : Binds (.augment (.name exportList) value) (.added value)

/-- The module binds the list of exports. -/
def HasExportList (statements : List Statement) : Prop :=
  ∃ s ∈ statements, ∃ b, Binds s b

/-- The last value that the statements bind as the whole list, if they bind one, and the statements
after that. Without such a value these are all statements. -/
inductive LastWhole : List Statement → Option Expr → List Statement → Prop
  | absent {statements : List Statement}
    (h : ∀ s ∈ statements, ∀ value, ¬ Binds s (.whole value)) :
    LastWhole statements none statements
  | bound {front after : List Statement} {s : Statement} {value : Expr}
    (hs : Binds s (.whole value)) (h : ∀ t ∈ after, ∀ value, ¬ Binds t (.whole value)) :
    LastWhole (front ++ s :: after) (some value) after

/-- The module lists the name: the last value bound as the whole list does, or a value added after
that. -/
def Listed (statements : List Statement) (name : String) : Prop :=
  ∃ value after, LastWhole statements value after ∧
    ((∃ v ∈ value, Lists v name) ∨ ∃ s ∈ after, ∃ v, Binds s (.added v) ∧ Lists v name)

/-! ## The functions, said of the statements -/

/-- The module defines a function with the name that is no coroutine. -/
def Defines (statements : List Statement) (name : String) : Prop :=
  ∃ parameters, .function name parameters ∈ statements

/-- The last function with the name has the parameters. -/
def LastDefinition (statements : List Statement) (name : String) (parameters : List String) :
    Prop :=
  ∃ front back, statements = front ++ .function name parameters :: back ∧ ¬ Defines back name

/-- Does the statement define a function with the name that is no coroutine? -/
def isDefinition (name : String) : Statement → Bool
  | .function name' _ => name' = name
  | _ => false

/-- How many statements stand in front of the first function with the name. -/
def firstDefinition (statements : List Statement) (name : String) : Nat :=
  statements.findIdx (isDefinition name)

/-- The functions are those among the statements whose names are exported. Each name stands once, in
the place of its first function and with the parameters of its last one. -/
structure Interface (exported : String → Prop) (statements : List Statement)
    (found : List FunctionSignature) : Prop where
  nodup : (found.map (·.name)).Nodup
  mem_iff : ∀ name, name ∈ found.map (·.name) ↔ Defines statements name ∧ exported name
  ordered : found.Pairwise fun f g =>
    firstDefinition statements f.name < firstDefinition statements g.name
  parameters : ∀ f ∈ found, LastDefinition statements f.name f.parameters

/-- The name is exported: it is listed or, in a module without a list of exports, it does not begin
with an underscore. -/
def Exported (statements : List Statement) (name : String) : Prop :=
  (HasExportList statements ∧ Listed statements name) ∨
    (¬ HasExportList statements ∧ name.toList.head? ≠ some '_')

section
variable {statements front back front' back' : List Statement} {s t : Statement} {name : String}
  {exports : Option (List String)} {found found' : List FunctionSignature}
  {exported : String → Prop}

/-! ## Which names are listed -/

/-- The list of exports is told by its name. -/
theorem isExportList_eq_true_iff {e : Expr} : isExportList e = true ↔ e = .name exportList := by
  cases e <;> simp [isExportList]

/-- The texts of a list are those of its items that are texts. -/
theorem mem_textsOf_iff {items : List Expr} : name ∈ textsOf items ↔ .text name ∈ items := by
  unfold textsOf
  rw [List.mem_filterMap]
  constructor
  · rintro ⟨e, he, ht⟩
    split at ht
    · cases ht
      exact he
    · cases ht
  · exact fun h => ⟨_, h, rfl⟩

/-- The names gathered from an expression are the literals that it lists. -/
theorem mem_literalNames_iff (e : Expr) : name ∈ literalNames e ↔ Lists e name := by
  induction e using literalNames.induct with
  | case1 items =>
    rw [literalNames, mem_textsOf_iff]
    exact ⟨.list, fun h => by cases h; assumption⟩
  | case2 items =>
    rw [literalNames, mem_textsOf_iff]
    exact ⟨.tuple, fun h => by cases h; assumption⟩
  | case3 left right ihl ihr =>
    rw [literalNames, List.mem_append, ihl, ihr]
    constructor
    · rintro (h | h)
      · exact .left h
      · exact .right h
    · rintro (_ | _ | h | h)
      · exact .inl h
      · exact .inr h
  | case4 e hlist htuple hsum =>
    rw [literalNames]
    · constructor
      · intro h
        cases h
      · rintro (h | h | h | h)
        · exact absurd rfl (hlist _)
        · exact absurd rfl (htuple _)
        · exact absurd rfl (hsum _ _)
        · exact absurd rfl (hsum _ _)
    · exact hlist
    · exact htuple
    · exact hsum

/-- What one statement does to the list of exports. -/
theorem afterStatement_cases (exports : Option (List String)) (s : Statement) :
    (∃ value, Binds s (.whole value) ∧ afterStatement exports s = some (literalNames value)) ∨
      (∃ value, Binds s (.added value) ∧
        afterStatement exports s = some (exports.getD [] ++ literalNames value)) ∨
      ((∀ b, ¬ Binds s b) ∧ afterStatement exports s = exports) := by
  match s with
  | .assign targets value =>
    by_cases h : .name exportList ∈ targets
    · refine .inl ⟨value, .assign h, ?_⟩
      rw [afterStatement, if_pos (List.any_eq_true.2 ⟨_, h, isExportList_eq_true_iff.2 rfl⟩)]
    · refine .inr (.inr ⟨fun b hb => by cases hb; exact h ‹_›, ?_⟩)
      rw [afterStatement, if_neg]
      intro ha
      obtain ⟨e, he, hx⟩ := List.any_eq_true.1 ha
      exact h (isExportList_eq_true_iff.1 hx ▸ he)
  | .annotate target (some value) =>
    by_cases h : target = .name exportList
    · subst h
      exact .inl ⟨value, .annotate, by rw [afterStatement, if_pos (isExportList_eq_true_iff.2 rfl)]⟩
    · refine .inr (.inr ⟨fun b hb => by cases hb; exact h rfl, ?_⟩)
      rw [afterStatement, if_neg (mt isExportList_eq_true_iff.1 h)]
  | .augment target value =>
    by_cases h : target = .name exportList
    · subst h
      exact .inr (.inl ⟨value, .augment,
        by rw [afterStatement, if_pos (isExportList_eq_true_iff.2 rfl)]⟩)
    · refine .inr (.inr ⟨fun b hb => by cases hb; exact h rfl, ?_⟩)
      rw [afterStatement, if_neg (mt isExportList_eq_true_iff.1 h)]
  | .annotate target none => exact .inr (.inr ⟨fun b hb => (nomatch hb), rfl⟩)
  | .function .. => exact .inr (.inr ⟨fun b hb => (nomatch hb), rfl⟩)
  | .coroutine .. => exact .inr (.inr ⟨fun b hb => (nomatch hb), rfl⟩)
  | .other => exact .inr (.inr ⟨fun b hb => (nomatch hb), rfl⟩)

/-- A statement binds the list of exports in one way at most. -/
theorem Binds.unique {b b' : Binding} (h : Binds s b) (h' : Binds s b') : b = b' := by
  cases h <;> cases h' <;> rfl

/-- Two ways to cut a list at its last element with a property are one. -/
theorem eq_of_last {α : Type} {p : α → Prop} {front back front' back' : List α} {x y : α}
    (h : front ++ x :: back = front' ++ y :: back') (hx : p x) (hy : p y)
    (hb : ∀ z ∈ back, ¬ p z) (hb' : ∀ z ∈ back', ¬ p z) : x = y ∧ back = back' := by
  rcases List.append_eq_append_iff.1 h with ⟨between, -, hc⟩ | ⟨between, -, hc⟩
  · cases between with
    | nil => exact List.cons.inj hc
    | cons z rest =>
      rw [List.cons_append] at hc
      exact absurd hy (hb y ((List.cons.inj hc).2 ▸ by simp))
  · cases between with
    | nil =>
      obtain ⟨rfl, rfl⟩ := List.cons.inj hc
      exact ⟨rfl, rfl⟩
    | cons z rest =>
      rw [List.cons_append] at hc
      exact absurd hx (hb' x ((List.cons.inj hc).2 ▸ by simp))

/-- There is one last statement that binds the list as a whole. -/
theorem LastWhole.unique {value value' : Option Expr} {after after' : List Statement}
    (h : LastWhole statements value after) (h' : LastWhole statements value' after') :
    value = value' ∧ after = after' := by
  generalize hs : statements = all at h'
  cases h with
  | absent h =>
    cases h' with
    | absent => exact ⟨rfl, hs⟩
    | bound hb' => exact absurd hb' (h _ (hs ▸ by simp) _)
  | bound hb h =>
    cases h' with
    | absent h' => exact absurd hb (h' _ (hs ▸ by simp) _)
    | bound hb' h' =>
      obtain ⟨rfl, rfl⟩ := eq_of_last (p := fun s => ∃ value, Binds s (.whole value)) hs
        ⟨_, hb⟩ ⟨_, hb'⟩ (fun t ht ⟨v, hv⟩ => h t ht v hv) (fun t ht ⟨v, hv⟩ => h' t ht v hv)
      cases hb.unique hb'
      exact ⟨rfl, rfl⟩

/-- A statement that binds no whole list comes after the last one that does. -/
theorem LastWhole.snoc {value : Option Expr} {after : List Statement}
    (h : LastWhole statements value after) (hs : ∀ value, ¬ Binds s (.whole value)) :
    LastWhole (statements ++ [s]) value (after ++ [s]) := by
  have hlast {rest : List Statement} (hr : ∀ t ∈ rest, ∀ value, ¬ Binds t (.whole value)) :
      ∀ t ∈ rest ++ [s], ∀ value, ¬ Binds t (.whole value) := by
    intro t ht
    rcases List.mem_append.1 ht with ht | ht
    · exact hr t ht
    · rwa [List.mem_singleton.1 ht]
  cases h with
  | absent h => exact .absent (hlast h)
  | bound hb h =>
    rw [List.append_assoc, List.cons_append]
    exact .bound hb (hlast h)

/-- Reading the statements in their order gathers the names of the last whole list and of what is
added after it, and gathers nothing only if no statement binds the list. -/
theorem declaredExports_spec (statements : List Statement) :
    (declaredExports statements = none ↔ ¬ HasExportList statements) ∧
      ∃ value after, LastWhole statements value after ∧
        ∀ name, name ∈ (declaredExports statements).getD [] ↔
          (∃ v ∈ value, Lists v name) ∨ ∃ s ∈ after, ∃ v, Binds s (.added v) ∧ Lists v name := by
  induction statements using List.reverseRecOn with
  | nil =>
    refine ⟨⟨fun _ ⟨_, hs, _⟩ => List.not_mem_nil hs, fun _ => rfl⟩, none, [], .absent nofun, ?_⟩
    simp [declaredExports]
  | append_singleton statements s ih =>
    obtain ⟨hnone, value, after, hlast, hmem⟩ := ih
    have hstep : declaredExports (statements ++ [s]) =
        afterStatement (declaredExports statements) s := by
      rw [declaredExports, List.foldl_append]
      rfl
    have hbound {b : Binding} (hb : Binds s b) : HasExportList (statements ++ [s]) :=
      ⟨s, by simp, b, hb⟩
    rw [hstep]
    rcases afterStatement_cases (declaredExports statements) s with
      ⟨v, hb, he⟩ | ⟨v, hb, he⟩ | ⟨hb, he⟩
    · -- a whole list puts aside all that was gathered
      rw [he]
      refine ⟨⟨nofun, fun h => absurd (hbound hb) h⟩, some v, [], .bound hb nofun, fun name => ?_⟩
      simp [mem_literalNames_iff]
    · -- a value that is added comes after the last whole list
      rw [he]
      refine ⟨⟨nofun, fun h => absurd (hbound hb) h⟩, value, after ++ [s],
        hlast.snoc fun v' hb' => (nomatch hb.unique hb'), fun name => ?_⟩
      have hs : (∃ v', Binds s (.added v') ∧ Lists v' name) ↔ Lists v name := by
        refine ⟨fun ⟨v', hb', hl⟩ => ?_, fun hl => ⟨v, hb, hl⟩⟩
        cases hb.unique hb'
        exact hl
      simp only [Option.getD_some, List.mem_append, mem_literalNames_iff, hmem, or_and_right,
        exists_or, List.mem_singleton, exists_eq_left, hs, or_assoc]
    · -- any other statement changes nothing
      rw [he, hnone]
      refine ⟨not_congr ⟨fun ⟨t, ht, b, h⟩ => ⟨t, by simp [ht], b, h⟩, fun ⟨t, ht, b, h⟩ => ?_⟩,
        value, after ++ [s], hlast.snoc fun v => hb _, fun name => ?_⟩
      · rcases List.mem_append.1 ht with ht | ht
        · exact ⟨t, ht, b, h⟩
        · rw [List.mem_singleton.1 ht] at h
          exact absurd h (hb b)
      · simp only [hmem, List.mem_append, or_and_right, exists_or, List.mem_singleton,
          exists_eq_left, hb, false_and, exists_false, or_false]

/-- The list that is read is the list that the statements describe. -/
theorem isExported_declaredExports_iff :
    isExported (declaredExports statements) name = true ↔ Exported statements name := by
  obtain ⟨hnone, value, after, hlast, hmem⟩ := declaredExports_spec statements
  have hlisted : Listed statements name ↔ name ∈ (declaredExports statements).getD [] := by
    rw [hmem]
    refine ⟨fun ⟨value', after', hlast', h⟩ => ?_, fun h => ⟨value, after, hlast, h⟩⟩
    obtain ⟨rfl, rfl⟩ := hlast.unique hlast'
    exact h
  unfold Exported
  cases he : declaredExports statements with
  | none =>
    have hno := hnone.1 he
    simp [isExported, hno]
  | some names =>
    have hyes : HasExportList statements := by
      by_contra h
      rw [hnone.2 h] at he
      cases he
    rw [he] at hlisted
    simp [isExported, hyes, hlisted]

/-! ## Which functions are found -/

/-- A definition of a name is a function statement with this name. -/
theorem isDefinition_eq_true_iff :
    isDefinition name s = true ↔ ∃ parameters, s = .function name parameters := by
  cases s <;> simp [isDefinition]

/-- A name is defined if one of the statements is its definition. -/
theorem defines_iff : Defines statements name ↔ ∃ s ∈ statements, isDefinition name s = true := by
  simp only [isDefinition_eq_true_iff]
  exact ⟨fun ⟨p, h⟩ => ⟨_, h, p, rfl⟩, fun ⟨_, h, p, he⟩ => ⟨p, he ▸ h⟩⟩

/-- A statement at the end defines its own name in addition. -/
theorem defines_snoc : Defines (statements ++ [s]) name ↔
    Defines statements name ∨ isDefinition name s = true := by
  simp only [defines_iff, List.mem_append, List.mem_singleton, or_and_right, exists_or,
    exists_eq_left]

/-- A later statement does not move the first function with a name. -/
theorem firstDefinition_snoc (h : Defines statements name) (s : Statement) :
    firstDefinition (statements ++ [s]) name = firstDefinition statements name := by
  rw [firstDefinition, List.findIdx_append, if_pos]
  · rfl
  · exact List.findIdx_lt_length.2 (defines_iff.1 h)

/-- The first definition of a defined name is one of the statements. -/
theorem firstDefinition_lt (h : Defines statements name) :
    firstDefinition statements name < statements.length :=
  List.findIdx_lt_length.2 (defines_iff.1 h)

/-- The first function with a name that stands in no statement before is the one defined last. -/
theorem firstDefinition_of_new (h : ¬ Defines statements name)
    (hs : isDefinition name s = true) :
    firstDefinition (statements ++ [s]) name = statements.length := by
  have hno : firstDefinition statements name = statements.length :=
    List.findIdx_eq_length.2 fun t ht => Bool.eq_false_iff.2 fun hd => h (defines_iff.2 ⟨t, ht, hd⟩)
  rw [firstDefinition, List.findIdx_append, if_neg]
  · simp [hs]
  · exact Nat.not_lt.2 (Nat.le_of_eq hno.symm)

/-- A statement that defines another name leaves the last definition as it was. -/
theorem LastDefinition.snoc {parameters : List String}
    (h : LastDefinition statements name parameters) (hs : isDefinition name s = false) :
    LastDefinition (statements ++ [s]) name parameters := by
  obtain ⟨front, back, rfl, hb⟩ := h
  refine ⟨front, back ++ [s], by simp, ?_⟩
  rw [defines_snoc, hs]
  simpa using hb

/-- There is one last definition of a name. -/
theorem LastDefinition.unique {parameters parameters' : List String}
    (h : LastDefinition statements name parameters)
    (h' : LastDefinition statements name parameters') : parameters = parameters' := by
  obtain ⟨front, back, rfl, hb⟩ := h
  obtain ⟨front', back', he, hb'⟩ := h'
  have hcut := eq_of_last (p := fun s => isDefinition name s = true) he
    (by simp [isDefinition]) (by simp [isDefinition])
    (fun t ht hd => hb (defines_iff.2 ⟨t, ht, hd⟩)) (fun t ht hd => hb' (defines_iff.2 ⟨t, ht, hd⟩))
  cases hcut.1
  rfl

/-- A function that is put in keeps the names and their order, or comes last under a new name. -/
theorem define_cases (f : FunctionSignature) (found : List FunctionSignature) :
    (∃ front g back, found = front ++ g :: back ∧ g.name = f.name ∧
        define f found = front ++ f :: back) ∨
      (f.name ∉ found.map (·.name) ∧ define f found = found ++ [f]) := by
  induction found with
  | nil => exact .inr ⟨List.not_mem_nil, rfl⟩
  | cons g rest ih =>
    by_cases hg : g.name = f.name
    · exact .inl ⟨[], g, rest, rfl, hg, by rw [define, if_pos hg]; rfl⟩
    · rw [define, if_neg hg]
      rcases ih with ⟨front, g', back, rfl, hg', he⟩ | ⟨hn, he⟩
      · exact .inl ⟨g :: front, g', back, rfl, hg', by rw [he]; rfl⟩
      · refine .inr ⟨?_, by rw [he]; rfl⟩
        rw [List.map_cons, List.mem_cons, not_or]
        exact ⟨Ne.symm hg, hn⟩

/-- The functions that are found in one more statement. -/
def findNext (exports : Option (List String)) (found : List FunctionSignature) :
    Statement → List FunctionSignature
  | .function name parameters =>
    if isExported exports name then define ⟨name, parameters⟩ found else found
  | _ => found

/-- The exported functions are found by one pass over the statements. -/
theorem exportedFunctions_eq (statements : List Statement) :
    exportedFunctions statements =
      statements.foldl (findNext (declaredExports statements)) [] := rfl

namespace Interface

/-- Each function that was found is defined. -/
theorem defines (h : Interface exported statements found) {f : FunctionSignature} (hf : f ∈ found) :
    Defines statements f.name :=
  ((h.mem_iff _).1 (List.mem_map_of_mem hf)).1

/-- A statement that defines none of the functions to be found leaves them as they are. -/
theorem skip (h : Interface exported statements found)
    (hs : ∀ name, exported name → isDefinition name s = false) :
    Interface exported (statements ++ [s]) found where
  nodup := h.nodup
  mem_iff name := by
    rw [h.mem_iff, defines_snoc]
    constructor
    · exact fun ⟨hd, he⟩ => ⟨.inl hd, he⟩
    · rintro ⟨hd | hd, he⟩
      · exact ⟨hd, he⟩
      · rw [hs name he] at hd
        cases hd
  ordered := h.ordered.imp_of_mem fun {f g} hf hg hlt => by
    rwa [firstDefinition_snoc (h.defines hf), firstDefinition_snoc (h.defines hg)]
  parameters f hf :=
    (h.parameters f hf).snoc (hs _ ((h.mem_iff _).1 (List.mem_map_of_mem hf)).2)

/-- A function under a name that was found already takes the place of the one that was found. -/
theorem replace {front back : List FunctionSignature} {f g : FunctionSignature}
    (h : Interface exported statements (front ++ g :: back)) (hg : g.name = f.name) :
    Interface exported (statements ++ [.function f.name f.parameters]) (front ++ f :: back) := by
  have hnames : (front ++ f :: back).map (·.name) = (front ++ g :: back).map (·.name) := by
    simp [hg]
  have hgd : Defines statements g.name := h.defines (by simp)
  refine ⟨hnames ▸ h.nodup, fun name => ?_, ?_, fun f' hf' => ?_⟩
  · rw [hnames, h.mem_iff, defines_snoc]
    refine and_congr_left fun _ => ⟨.inl, ?_⟩
    rintro (hd | hd)
    · exact hd
    · obtain ⟨_, he⟩ := isDefinition_eq_true_iff.1 hd
      cases he
      exact hg ▸ hgd
  · have hkeys : ((front ++ f :: back).map (·.name)).Pairwise fun m n =>
        firstDefinition statements m < firstDefinition statements n := by
      rw [hnames]
      exact List.pairwise_map.2 h.ordered
    refine (List.pairwise_map.1 hkeys).imp_of_mem fun {a b} ha hb hlt => ?_
    have hdef {c : FunctionSignature} (hc : c ∈ front ++ f :: back) : Defines statements c.name :=
      ((h.mem_iff _).1 (hnames ▸ List.mem_map_of_mem hc)).1
    rwa [firstDefinition_snoc (hdef ha), firstDefinition_snoc (hdef hb)]
  · have hnodup := h.nodup
    rw [← hnames, List.map_append, List.map_cons, List.nodup_middle, List.nodup_cons,
      ← List.map_append] at hnodup
    rcases List.mem_append.1 hf' with hf' | hf'
    · have hne : f'.name ≠ f.name := fun e =>
        hnodup.1 (e ▸ List.mem_map_of_mem (List.mem_append_left _ hf'))
      exact (h.parameters f' (by simp [hf'])).snoc (by simpa [isDefinition] using Ne.symm hne)
    · rcases List.mem_cons.1 hf' with rfl | hf'
      · exact ⟨statements, [], rfl, fun ⟨_, hn⟩ => List.not_mem_nil hn⟩
      · have hne : f'.name ≠ f.name := fun e =>
          hnodup.1 (e ▸ List.mem_map_of_mem (List.mem_append_right _ hf'))
        exact (h.parameters f' (by simp [hf'])).snoc (by simpa [isDefinition] using Ne.symm hne)

/-- A function under a new name comes after all that were found. -/
theorem append {f : FunctionSignature} (h : Interface exported statements found)
    (hf : f.name ∉ found.map (·.name)) (he : exported f.name) :
    Interface exported (statements ++ [.function f.name f.parameters]) (found ++ [f]) := by
  have hnew : ¬ Defines statements f.name := fun hd => hf ((h.mem_iff _).2 ⟨hd, he⟩)
  have hself : isDefinition f.name (.function f.name f.parameters) = true := by
    simp [isDefinition]
  have hold {g : FunctionSignature} (hg : g ∈ found) : g.name ≠ f.name := fun e =>
    hf (e ▸ List.mem_map_of_mem hg)
  refine ⟨?_, fun name => ?_, ?_, fun g hg => ?_⟩
  · rw [List.map_append, List.map_cons, List.nodup_append]
    refine ⟨h.nodup, by simp, fun a ha b hb => ?_⟩
    rw [List.mem_singleton.1 hb]
    exact fun e => hf (e ▸ ha)
  · rw [List.map_append, List.mem_append, h.mem_iff, defines_snoc]
    constructor
    · rintro (⟨hd, hx⟩ | hn)
      · exact ⟨.inl hd, hx⟩
      · rw [List.map_cons, List.map_nil, List.mem_singleton] at hn
        subst hn
        exact ⟨.inr hself, he⟩
    · rintro ⟨hd | hd, hx⟩
      · exact .inl ⟨hd, hx⟩
      · obtain ⟨_, hn⟩ := isDefinition_eq_true_iff.1 hd
        cases hn
        exact .inr (by simp)
  · rw [List.pairwise_append]
    refine ⟨h.ordered.imp_of_mem fun {a b} ha hb hlt => ?_, by simp, fun a ha b hb => ?_⟩
    · rwa [firstDefinition_snoc (h.defines ha), firstDefinition_snoc (h.defines hb)]
    · rw [List.mem_singleton.1 hb, firstDefinition_of_new hnew hself,
        firstDefinition_snoc (h.defines ha)]
      exact firstDefinition_lt (h.defines ha)
  · rcases List.mem_append.1 hg with hg | hg
    · exact (h.parameters g hg).snoc (by simpa [isDefinition] using Ne.symm (hold hg))
    · rw [List.mem_singleton.1 hg]
      exact ⟨statements, [], rfl, fun ⟨_, hn⟩ => List.not_mem_nil hn⟩

/-- One more statement keeps the description true. -/
theorem snoc (h : Interface (fun name => isExported exports name = true) statements found)
    (s : Statement) :
    Interface (fun name => isExported exports name = true) (statements ++ [s])
      (findNext exports found s) := by
  match s with
  | .function name parameters =>
    by_cases he : isExported exports name = true
    · rw [findNext, if_pos he]
      rcases define_cases ⟨name, parameters⟩ found with ⟨front, g, back, rfl, hg, hd⟩ | ⟨hn, hd⟩
      · rw [hd]
        exact h.replace hg
      · rw [hd]
        exact h.append hn he
    · rw [findNext, if_neg he]
      refine h.skip fun name' he' => ?_
      rw [isDefinition, decide_eq_false_iff_not]
      rintro rfl
      exact he he'
  | .assign .. | .annotate .. | .augment .. | .coroutine .. | .other => exact h.skip fun _ _ => rfl

/-- A function is found if its name is and no other function with the name comes after it. -/
theorem mem_of_lastDefinition (h : Interface exported statements found) {f : FunctionSignature}
    (hname : f.name ∈ found.map (·.name))
    (hlast : LastDefinition statements f.name f.parameters) : f ∈ found := by
  obtain ⟨g, hg, hgf⟩ := List.mem_map.1 hname
  have hparameters := h.parameters g hg
  rw [hgf] at hparameters
  have hsame : g = f := by
    cases f
    cases g
    cases hgf
    cases hparameters.unique hlast
    rfl
  exact hsame ▸ hg

/-- Only one list of functions fits the description. -/
theorem unique (h : Interface exported statements found)
    (h' : Interface exported statements found') : found = found' := by
  have hsub {found found' : List FunctionSignature} (h : Interface exported statements found)
      (h' : Interface exported statements found') {f : FunctionSignature} (hf : f ∈ found) :
      f ∈ found' := by
    have hname := (h'.mem_iff f.name).2 ((h.mem_iff f.name).1 (List.mem_map_of_mem hf))
    exact h'.mem_of_lastDefinition hname (h.parameters f hf)
  have hperm : found.Perm found' :=
    (List.perm_ext_iff_of_nodup (h.nodup.of_map _) (h'.nodup.of_map _)).2
      fun f => ⟨hsub h h', hsub h' h⟩
  exact hperm.eq_of_pairwise (fun f g _ _ hfg hgf => absurd hgf (Nat.lt_asymm hfg)) h.ordered
    h'.ordered

end Interface

/-- **What a module exports.** The functions found are the ones whose names are exported and no
others: each name once, in the order of the first functions with these names, with the parameters of
the last. Reference: `exported_functions`. -/
theorem found_iff_exportedFunctions (statements : List Statement)
    (found : List FunctionSignature) :
    Interface (Exported statements) statements found ↔ found = exportedFunctions statements := by
  have hread : ∀ exports read, Interface (fun name => isExported exports name = true) read
      (read.foldl (findNext exports) []) := by
    intro exports read
    induction read using List.reverseRecOn with
    | nil => exact ⟨.nil, fun name => by simp [Defines], .nil, nofun⟩
    | append_singleton read s ih =>
      rw [List.foldl_append]
      exact ih.snoc s
  have hfound : Interface (Exported statements) statements (exportedFunctions statements) := by
    have h := hread (declaredExports statements) statements
    simp only [isExported_declaredExports_iff] at h
    rwa [exportedFunctions_eq]
  exact ⟨fun h => h.unique hfound, fun h => h ▸ hfound⟩

/-- A name that is added to the list is exported, and the last of two functions with one name lends
its parameters to the place of the first. -/
example : exportedFunctions
    [.function "f" [], .function "_g" ["a"], .function "h" [],
      .assign [.name "__all__"] (.list [.text "f"]), .augment (.name "__all__") (.tuple [.text "_g"]),
      .function "f" ["b", "c"]] = [⟨"f", ["b", "c"]⟩, ⟨"_g", ["a"]⟩] := by
  decide

end

end ModuleBridge.Source
