import ModuleBridge.Error

/-!
# What a failure ends with

A failure is shown as a chain of texts. Each is that of a link (`Failure.chain_eq`): a context that
was wrapped around the failure, the error that was met, or what lies under that error, where there
may be other errors (`Failure.links`). Only the outermost error of the chain counts for the exit
code (`Failure.error?_eq_some_iff`), so neither the contexts around it nor the errors under it
change the code, and a failure never ends as if all went well (`Failure.exitCode_outermost`).
-/

namespace ModuleBridge

/-- The status that the kind of an error stands for. -/
def Error.status : Error → Int
  | .introspection _ | .interpreter .. => 4
  | .transport .. => 3
  | .arityMismatch .. | .unknownFunction .. | .validation .. | .config _ | .invalidArgument _ => 2
  | .template _ | .file .. | .serialization .. => 1

/-- What a text in the chain of a failure is the text of. -/
inductive Link
  /-- A context, or a cause that is no error of the library. -/
  | other (text : String)
  | error (e : Error)

namespace Link

/-- The text of a link, without those of what lies under it. -/
def message : Link → String
  | .other text => text
  | .error e => e.message

/-- The error that a link is, if it is one. -/
def error? : Link → Option Error
  | .other _ => none
  | .error e => some e

end Link

mutual

/-- What lies under an error, outermost first. -/
def Error.sources : Error → List Link
  | .interpreter _ (some source) => source.chain.map .other
  | .transport _ _ source => source.links
  | .file _ source => source.chain.map .other
  | .serialization _ (some source) => [.other source.message]
  | _ => []

/-- The links in the chain of a failure, outermost first. -/
def Failure.links : Failure → List Link
  | .plain texts => texts.map .other
  | .error e => .error e :: e.sources
  | .within context inner => .other context :: inner.links

end

/-- The failure with contexts wrapped around it, the first one innermost. -/
def Failure.withContexts (failure : Failure) (contexts : List String) : Failure :=
  contexts.foldl (fun inner context => .within context inner) failure

/-- No error stands outside of this one in the chain of the failure. -/
def Failure.Outermost (failure : Failure) (e : Error) : Prop :=
  ∃ outer inner, failure.links = outer ++ .error e :: inner ∧ ∀ d, .error d ∉ outer

section
variable {failure : Failure} {e : Error}

/-! ## Exit codes -/

/-- The exit code of an error is its status. -/
theorem Error.exitCode_value (e : Error) : e.exitCode.value = e.status := by
  cases e <;> rfl

/-- No error ends with success. -/
theorem Error.exitCode_ne_success (e : Error) : e.exitCode ≠ .success := by
  cases e <;> exact of_decide_eq_true rfl

/-- A failure that has an error ends with the error's code. -/
theorem Failure.exitCode_of_error? (h : failure.error? = some e) :
    failure.exitCode = e.exitCode := by
  rw [exitCode, h]

/-- A failure without an error ends with the code for failures. -/
theorem Failure.exitCode_of_none (h : failure.error? = none) : failure.exitCode = .failure := by
  rw [exitCode, h]

/-- A run that failed never ends as if all went well. -/
theorem Failure.exitCode_ne_success (failure : Failure) : failure.exitCode ≠ .success := by
  unfold Failure.exitCode
  split
  · exact Error.exitCode_ne_success _
  · decide

/-! ## Chains -/

/-- Links that are no errors show their own texts. -/
theorem map_message_other (texts : List String) :
    (texts.map Link.other).map Link.message = texts := by
  rw [List.map_map]
  exact List.map_id' texts

mutual

/-- The chain of an error is its message and then the messages of its sources. -/
theorem Error.chain_eq : (e : Error) → e.chain = e.message :: e.sources.map Link.message
  | .interpreter _ (some source) | .file _ source => by
    rw [Error.chain, Error.sources, map_message_other]
  | .transport _ _ source => by
    rw [Error.chain, Error.sources, Failure.chain_eq source]
    rfl
  | .interpreter _ none | .serialization _ none | .serialization _ (some _) | .introspection _
  | .arityMismatch .. | .unknownFunction .. | .template _ | .validation .. | .config _
  | .invalidArgument _ => rfl

/-- The chain that is shown has one text for each link. -/
theorem Failure.chain_eq : (failure : Failure) →
    failure.chain = failure.links.map Link.message
  | .plain texts => (map_message_other texts).symm
  | .error e => Error.chain_eq e
  | .within context inner => congrArg (context :: ·) (Failure.chain_eq inner)

end

/-! ## The outermost error -/

/-- The first error of a failure is the first one that a search through its links finds. -/
theorem Failure.error?_eq : (failure : Failure) →
    failure.error? = failure.links.findSome? Link.error?
  | .plain texts => by
    rw [Failure.links, List.findSome?_eq_none_iff.2]
    · rfl
    · intro link hlink
      obtain ⟨text, -, rfl⟩ := List.mem_map.1 hlink
      rfl
  | .error _ => rfl
  | .within _ inner => Failure.error?_eq inner

/-- The error of a failure is the outermost of its links that is one. -/
theorem Failure.error?_eq_some_iff : failure.error? = some e ↔ failure.Outermost e := by
  rw [Failure.error?_eq, List.findSome?_eq_some_iff]
  constructor
  · rintro ⟨outer, link, inner, hlinks, hlink, houter⟩
    cases link with
    | other text => cases hlink
    | error d =>
      cases hlink
      refine ⟨outer, inner, hlinks, fun d hd => ?_⟩
      cases houter _ hd
  · rintro ⟨outer, inner, hlinks, houter⟩
    refine ⟨outer, .error e, inner, hlinks, rfl, fun link hlink => ?_⟩
    cases link with
    | other text => rfl
    | error d => exact absurd hlink (houter d)

/-- A failure has no error exactly if none of its links is one. -/
theorem Failure.error?_eq_none_iff :
    failure.error? = none ↔ ∀ e, .error e ∉ failure.links := by
  rw [Failure.error?_eq, List.findSome?_eq_none_iff]
  constructor
  · intro h e he
    cases h _ he
  · intro h link hlink
    cases link with
    | other text => rfl
    | error e => exact absurd hlink (h e)

/-! ## Contexts -/

/-- The contexts stand in front of the links, the last one first. -/
theorem Failure.links_withContexts (failure : Failure) (contexts : List String) :
    (failure.withContexts contexts).links =
      contexts.reverse.map .other ++ failure.links := by
  induction contexts generalizing failure with
  | nil => rfl
  | cons context contexts ih =>
    have hstep : failure.withContexts (context :: contexts) =
        (Failure.within context failure).withContexts contexts := rfl
    rw [hstep, ih, Failure.links, List.reverse_cons, List.map_append, List.append_assoc]
    rfl

/-- Contexts around a failure leave its error as it is. -/
theorem Failure.error?_withContexts (failure : Failure) (contexts : List String) :
    (failure.withContexts contexts).error? = failure.error? := by
  induction contexts generalizing failure with
  | nil => rfl
  | cons context contexts ih => exact ih (.within context failure)

/-- **The exit code of a failure.** A failure's chain is that of its links, and contexts wrapped
around it stand in front of these and leave the code as it is. The code is that of the outermost
error in the chain, which is the one that its kind stands for, whatever lies under that error;
it is the general one if no link is an error; and it is never that of success. Reference:
`exit_code_for`. -/
theorem Failure.exitCode_outermost (failure : Failure) :
    failure.chain = failure.links.map Link.message ∧
      (∀ contexts,
        (failure.withContexts contexts).links = contexts.reverse.map .other ++ failure.links ∧
          (failure.withContexts contexts).exitCode = failure.exitCode) ∧
      (∀ code, failure.exitCode = code ↔
        (∃ e, failure.Outermost e ∧ code = e.exitCode ∧ code.value = e.status) ∨
          (∀ e, .error e ∉ failure.links) ∧ code = .failure) ∧
      failure.exitCode ≠ .success := by
  refine ⟨failure.chain_eq, fun contexts => ⟨failure.links_withContexts contexts, ?_⟩,
    fun code => ⟨?_, ?_⟩, failure.exitCode_ne_success⟩
  · rw [exitCode, exitCode, error?_withContexts]
  · rintro rfl
    cases herror : failure.error? with
    | some e =>
      have hcode := exitCode_of_error? herror
      exact .inl ⟨e, error?_eq_some_iff.1 herror, hcode, hcode ▸ e.exitCode_value⟩
    | none => exact .inr ⟨error?_eq_none_iff.1 herror, exitCode_of_none herror⟩
  · rintro (⟨e, houtermost, rfl, -⟩ | ⟨hnone, rfl⟩)
    · exact exitCode_of_error? (error?_eq_some_iff.2 houtermost)
    · exact exitCode_of_none (error?_eq_none_iff.2 hnone)

/-- Under the request that failed there is another error, which does not count. -/
example : (Failure.withContexts (.error (.transport "execute" "director:80"
    (.within "no address" (.error (.config "no host"))))) ["calling f", "main"]).exitCode =
      .serverFailure := rfl

end

end ModuleBridge
