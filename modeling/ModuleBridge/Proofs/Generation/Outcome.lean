import ModuleBridge.Proofs.Generation.Header

/-!
# When a module can be generated

Nothing is printed before every name is accepted, and the names are looked at in order, so what
fails is the check of the first function that does not pass it (`fault?_bindWrappers`). Once there
is a plan, each template finds a value for every tag (`exists_generate_of_plan`), and the
declarations are planned like the code, so neither can fail after it (`fault?_generate`). What the
checks look at is in the functions alone: no other argument has a part in whether a module is
generated.
-/

namespace ModuleBridge.Generation

/-- The name of the function and those of its parameters can be printed. -/
def Acceptable (f : FunctionSignature) : Prop :=
  isIdentifier f.name = true ∧ f.name ∉ ["client", "registration"] ∧
    ∀ p ∈ f.parameters, isIdentifier p = true

/-- What is wrong with a function: the field and the reason that are reported. Its name comes before
its parameters, and of these the first that is no identifier counts. -/
inductive Offends (f : FunctionSignature) : (field reason : String) → Prop
  | name (hname : isIdentifier f.name = false) :
    Offends f "function" s!"'{f.name}' is not a valid identifier"
  | member (hname : isIdentifier f.name = true) (hmember : f.name ∈ ["client", "registration"]) :
    Offends f "function" s!"'{f.name}' collides with a member of the generated module"
  | parameter {front back : List String} {p : String} (hname : isIdentifier f.name = true)
    (hmember : f.name ∉ ["client", "registration"]) (hsplit : f.parameters = front ++ p :: back)
    (hfront : ∀ q ∈ front, isIdentifier q = true) (hp : isIdentifier p = false) :
    Offends f "parameter" s!"'{p}' is not a valid identifier"

/-! ## Faults -/

/-- The error that a computation ends in, if it ends in one. -/
def fault? {α : Type} : Except Error α → Option Error
  | .ok _ => none
  | .error e => some e

section
variable {α β : Type}

theorem fault?_eq_some_iff {x : Except Error α} {e : Error} : fault? x = some e ↔ x = .error e := by
  cases x <;> simp [fault?]

theorem fault?_eq_none_iff {x : Except Error α} : fault? x = none ↔ ∃ a, x = .ok a := by
  cases x <;> simp [fault?]

/-- After a check that gives nothing, the fault is that of the check or else of what follows. -/
theorem fault?_check (check : Except Error Unit) (next : Except Error α) :
    fault? (check >>= fun _ => next) = (fault? check).or (fault? next) := by
  cases check <;> rfl

/-- What is made of a value adds no fault. -/
theorem fault?_map (x : Except Error α) (f : α → β) :
    fault? (x >>= fun a => pure (f a)) = fault? x := by
  cases x <;> rfl

/-- Of checks in order, the first that fails has the fault. -/
theorem fault?_forM (check : α → Except Error Unit) (xs : List α) :
    fault? (xs.forM check) = xs.findSome? fun x => fault? (check x) := by
  induction xs with
  | nil => rfl
  | cons x rest ih =>
    have hcons : (x :: rest).forM check = check x >>= fun _ => rest.forM check := rfl
    rw [hcons, fault?_check, ih, List.findSome?_cons]
    cases fault? (check x) <;> rfl

end

section
variable {f : FunctionSignature} {functions : List FunctionSignature} {e : Error}

/-! ## One function -/

/-- The check of a name faults with the field that it was given. -/
theorem fault?_requireIdentifier (field name : String) :
    fault? (requireIdentifier field name) = if isIdentifier name then none else
      some (.validation field s!"'{name}' is not a valid identifier") := by
  unfold requireIdentifier
  split <;> rfl

/-- The check of a signature looks at its name first, then at a collision, then at the parameters in
order. -/
theorem fault?_checkSignature (f : FunctionSignature) :
    fault? (checkSignature f) =
      if isIdentifier f.name then
        if clientMembers.contains f.name then
          some (.validation "function" s!"'{f.name}' collides with a member of the generated module")
        else f.parameters.findSome? fun p => fault? (requireIdentifier "parameter" p)
      else some (.validation "function" s!"'{f.name}' is not a valid identifier") := by
  unfold checkSignature
  rw [fault?_check, fault?_requireIdentifier]
  split
  · split
    · rfl
    · exact fault?_forM ..
  · rfl

/-- A check passes exactly if the function is acceptable. -/
theorem fault?_checkSignature_eq_none_iff : fault? (checkSignature f) = none ↔ Acceptable f := by
  rw [fault?_eq_none_iff]
  exact ⟨fun ⟨_, h⟩ => checkSignature_eq_ok_iff.1 h, fun h => ⟨(), checkSignature_eq_ok_iff.2 h⟩⟩

/-- A check reports what is wrong with the function. -/
theorem fault?_checkSignature_eq_some_iff :
    fault? (checkSignature f) = some e ↔
      ∃ field reason, Offends f field reason ∧ e = .validation field reason := by
  rw [fault?_checkSignature]
  constructor
  · intro h
    split at h
    · next hname =>
      split at h
      · next hmember =>
        cases h
        exact ⟨_, _, .member hname (List.contains_iff_mem.1 hmember), rfl⟩
      · next hmember =>
        obtain ⟨front, p, back, hsplit, hp, hfront⟩ := List.findSome?_eq_some_iff.1 h
        simp only [fault?_requireIdentifier, ite_eq_left_iff, reduceCtorEq, imp_false,
          Decidable.not_not] at hfront
        rw [fault?_requireIdentifier] at hp
        split at hp
        · cases hp
        · next hidentifier =>
          cases hp
          exact ⟨_, _, .parameter hname (fun hmem => hmember (List.contains_iff_mem.2 hmem)) hsplit
            hfront (Bool.eq_false_iff.2 hidentifier), rfl⟩
    · next hname =>
      cases h
      exact ⟨_, _, .name (Bool.eq_false_iff.2 hname), rfl⟩
  · rintro ⟨_, _, hoffends, rfl⟩
    cases hoffends with
    | name hname => rw [hname, if_neg Bool.false_ne_true]
    | member hname hmember =>
      have hcontains : clientMembers.contains f.name = true := List.contains_iff_mem.2 hmember
      rw [if_pos hname, if_pos hcontains]
    | parameter hname hmember hsplit hfront hp =>
      have hcontains : ¬clientMembers.contains f.name = true :=
        fun hmem => hmember (List.contains_iff_mem.1 hmem)
      rw [if_pos hname, if_neg hcontains, List.findSome?_eq_some_iff]
      refine ⟨_, _, _, hsplit, ?_, fun q hq => ?_⟩
      · rw [fault?_requireIdentifier, hp, if_neg Bool.false_ne_true]
      · rw [fault?_requireIdentifier, if_pos (hfront q hq)]

/-! ## All functions -/

/-- The first function that is not accepted has the fault, whatever names are taken or chosen. -/
theorem fault?_bindWrappers (taken chosen : List String) (functions : List FunctionSignature) :
    fault? (bindWrappers taken chosen functions) =
      functions.findSome? fun f => fault? (checkSignature f) := by
  induction functions generalizing chosen with
  | nil => rfl
  | cons f rest ih =>
    rw [bindWrappers, fault?_check, List.findSome?_cons]
    cases fault? (checkSignature f) with
    | some e => rfl
    | none =>
      rw [Option.none_or]
      split
      · exact (fault?_map ..).trans (ih _)
      · exact (fault?_map ..).trans (ih chosen)

/-- Generating fails exactly where planning does. -/
theorem fault?_generate (package : String) (moduleName : ModuleName) (source : String)
    (functions : List FunctionSignature) (withDeclarations : Bool) :
    fault? (generate package moduleName source functions withDeclarations) =
      functions.findSome? fun f => fault? (checkSignature f) := by
  have hplan : fault? (plan moduleName functions) =
      functions.findSome? fun f => fault? (checkSignature f) :=
    (fault?_map ..).trans (fault?_bindWrappers ..)
  rw [← hplan]
  cases hp : plan moduleName functions with
  | error e => simp only [generate, code, hp, bind, Except.bind, fault?]
  | ok p =>
    obtain ⟨text, types, -, -, hgenerate⟩ :=
      exists_generate_of_plan package source withDeclarations hp
    rw [hgenerate]
    rfl

/-- The code is generated for itself, and the declarations are put next to it. -/
theorem code_of_generate {package source : String} {moduleName : ModuleName}
    {withDeclarations : Bool} {generated : GeneratedModule}
    (h : generate package moduleName source functions withDeclarations = .ok generated) :
    code package moduleName source functions = .ok generated.code := by
  obtain ⟨text, htext, h⟩ := exists_of_bind_ok h
  rw [htext]
  split at h
  · obtain ⟨types, -, h⟩ := exists_of_bind_ok h
    cases h
    rfl
  · cases h
    rfl

/-- **When a module is generated.** A module is generated exactly if all functions are acceptable.
If not, the error is a validation error for what is wrong with the first function that is not
acceptable. So the package, the name of the module, its source and whether declarations are asked
for have no part in the outcome, and the code is the same with declarations as without. Reference:
`ModuleGenerator::generate`. -/
theorem generate_outcome (package : String) (moduleName : ModuleName) (source : String)
    (functions : List FunctionSignature) (withDeclarations : Bool) :
    ((∃ generated, generate package moduleName source functions withDeclarations = .ok generated) ↔
      ∀ f ∈ functions, Acceptable f) ∧
    (∀ e, generate package moduleName source functions withDeclarations = .error e ↔
      ∃ front f back field reason, functions = front ++ f :: back ∧
        (∀ g ∈ front, Acceptable g) ∧ Offends f field reason ∧ e = .validation field reason) ∧
    (∀ package' moduleName' source' withDeclarations',
      fault? (generate package' moduleName' source' functions withDeclarations') =
        fault? (generate package moduleName source functions withDeclarations)) ∧
    (generate package moduleName source functions true).map (·.code) =
      (generate package moduleName source functions false).map (·.code) := by
  refine ⟨?_, fun e => ?_, fun _ _ _ _ => ?_, ?_⟩
  · rw [← fault?_eq_none_iff, fault?_generate, List.findSome?_eq_none_iff]
    exact forall₂_congr fun _ _ => fault?_checkSignature_eq_none_iff
  · rw [← fault?_eq_some_iff, fault?_generate, List.findSome?_eq_some_iff]
    simp only [fault?_checkSignature_eq_some_iff, fault?_checkSignature_eq_none_iff]
    constructor
    · rintro ⟨front, f, back, hsplit, ⟨field, reason, hoffends, he⟩, hfront⟩
      exact ⟨front, f, back, field, reason, hsplit, hfront, hoffends, he⟩
    · rintro ⟨front, f, back, field, reason, hsplit, hfront, hoffends, he⟩
      exact ⟨front, f, back, hsplit, ⟨field, reason, hoffends, he⟩, hfront⟩
  · exact (fault?_generate ..).trans (fault?_generate ..).symm
  · have hsame : fault? (generate package moduleName source functions true) =
        fault? (generate package moduleName source functions false) :=
      (fault?_generate ..).trans (fault?_generate ..).symm
    cases htrue : generate package moduleName source functions true with
    | error e =>
      rw [htrue] at hsame
      rw [fault?_eq_some_iff.1 hsame.symm]
    | ok generated =>
      rw [htrue] at hsame
      obtain ⟨generated', hfalse⟩ := fault?_eq_none_iff.1 hsame.symm
      have hcode := (code_of_generate htrue).symm.trans (code_of_generate hfalse)
      rw [hfalse]
      exact hcode

end

end ModuleBridge.Generation
