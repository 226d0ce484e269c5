import ModuleBridge.Proofs.Session.Exchange
import ModuleBridge.Proofs.Wire.Types

/-!
# Statuses of replies

An operation is documented to return the value in the body of a reply whose status is between 200
and 299, and to report a failed request in every other case. What the client checks is that the
status is not between 400 and 599 (`Outcome.accepted?`). The two differ for the replies in between
and beyond, of which the client takes the value if there is one (`answer?_eq_accepted?_iff`), and
for no other outcome of a request (`Client.answers_operations`).
-/

namespace ModuleBridge.Session

open Wire (Shape)

/-- Is the status one of those that report a success? -/
def isSuccessStatus (status : Nat) : Bool :=
  200 ≤ status && status < 300

/-- The body of a reply, as far as replies with its status have one. -/
def Reply.content (reply : Reply) : List UInt8 :=
  if bodiless.contains reply.status then [] else reply.body

namespace Outcome

/-- What an operation is documented to take from an outcome: the value in the body of a reply that
reports a success. -/
def answer? (shape : Shape α) : Outcome → Option α
  | .unanswered _ => none
  | .replied reply =>
    if isSuccessStatus reply.status then (shape.parse reply.content).toOption else none

/-- Is the outcome a reply that reports neither a success nor an error, with a value in its body? -/
def IsStray (shape : Shape α) (outcome : Outcome) : Prop :=
  ∃ reply x, outcome = .replied reply ∧ isSuccessStatus reply.status = false ∧
    isErrorStatus reply.status = false ∧ shape.parse reply.content = .ok x

end Outcome

section
variable {shape : Shape α} {outcome : Outcome}

/-- A status does not report both a success and an error. -/
theorem isErrorStatus_of_isSuccessStatus {status : Nat} (h : isSuccessStatus status = true) :
    isErrorStatus status = false := by
  simp only [isSuccessStatus, isErrorStatus, Bool.and_eq_true, decide_eq_true_eq,
    Bool.and_eq_false_iff, decide_eq_false_iff_not] at h ⊢
  omega

/-- A reply is stray if its status is neither a success nor an error and its body is read. -/
theorem isStray_replied {reply : Reply} :
    (Outcome.replied reply).IsStray shape ↔ isSuccessStatus reply.status = false ∧
      isErrorStatus reply.status = false ∧ ∃ x, shape.parse reply.content = .ok x := by
  simp [Outcome.IsStray]

/-- The client takes what it should from every outcome but a stray one. -/
theorem answer?_eq_accepted?_iff :
    outcome.answer? shape = outcome.accepted? shape ↔ ¬ outcome.IsStray shape := by
  cases outcome with
  | unanswered reasons => exact iff_of_true rfl fun ⟨_, _, hreply, _⟩ => nomatch hreply
  | replied reply =>
    have haccepted : (Outcome.replied reply).accepted? shape =
        if isErrorStatus reply.status then none else (shape.parse reply.content).toOption := rfl
    rw [isStray_replied, haccepted, Outcome.answer?]
    cases hsuccess : isSuccessStatus reply.status with
    | true => simp [isErrorStatus_of_isSuccessStatus hsuccess]
    | false =>
      cases isErrorStatus reply.status with
      | true => simp
      | false => cases shape.parse reply.content <;> simp [Except.toOption]

end

namespace Client

/-- What becomes of the request that an operation posts. There is none without an address. -/
def outcome (client : Client) (operation : Operation) (body : Json) (network : Network) : Outcome :=
  match requestUrl client.endpoint operation.name with
  | .error fault => .unanswered fault.reasons
  | .ok url => network.outcome (network.posted ++ [⟨url, "application/json", body.compact⟩])

/-- The result of an operation that takes a value, or none, from the outcome of its request. -/
inductive IsResult (client : Client) (operation : Operation) : Option α → Except Error α → Prop
  | value (x : α) : IsResult client operation (some x) (.ok x)
  | failure (reasons : List String) :
      IsResult client operation none (.error (client.transportError operation reasons))

/-- How the result of an operation comes from what becomes of its request: the client takes the
value of any reply that reports no error, which is what it should take unless the reply is a stray
one. -/
structure Answers (client : Client) (operation : Operation) (shape : Shape α) (outcome : Outcome)
    (result : Except Error α) : Prop where
  isResult : client.IsResult operation (outcome.accepted? shape) result
  isDocumented : client.IsResult operation (outcome.answer? shape) result ↔ ¬ outcome.IsStray shape

section
variable {shape : Shape α} {operation : Operation} {taken other : Option α} {result : Except Error α}

/-- A result shows what was taken. -/
theorem IsResult.inj {client : Client} (h : client.IsResult operation taken result)
    (h' : client.IsResult operation other result) : taken = other := by
  cases h <;> cases h' <;> rfl

/-- The value that is taken, or else a failure of the request, is a result. -/
theorem isResult_elim (client : Client) (operation : Operation) (reasons : List String)
    (taken : Option α) :
    client.IsResult operation taken
      (taken.elim (.error (client.transportError operation reasons)) .ok) := by
  cases taken with
  | none => exact .failure reasons
  | some x => exact .value x

/-- An operation gives the result that the outcome of its request stands for. -/
theorem isResult_post (client : Client) (operation : Operation) (body : Json) (shape : Shape α)
    (network : Network) :
    client.IsResult operation ((client.outcome operation body network).accepted? shape)
      (client.post operation body shape network).1 := by
  cases hurl : requestUrl client.endpoint operation.name with
  | error fault =>
    rw [post_of_fault hurl, outcome, hurl]
    exact .failure fault.reasons
  | ok url =>
    obtain ⟨reasons, hpost⟩ : ∃ reasons, client.post operation body shape network = _ :=
      post_of_url hurl
    rw [hpost, outcome, hurl]
    exact isResult_elim ..

/-- What a request gives is the answer to its outcome. -/
theorem answers_post (client : Client) (operation : Operation) (body : Json) (shape : Shape α)
    (network : Network) :
    client.Answers operation shape (client.outcome operation body network)
      (client.post operation body shape network).1 := by
  have hresult := isResult_post client operation body shape network
  refine ⟨hresult, ?_⟩
  rw [← answer?_eq_accepted?_iff]
  constructor
  · exact fun h => h.inj hresult
  · intro h
    rw [h]
    exact hresult

end

/-- **What an operation returns.** Whatever becomes of the requests, registering a module and
running a script return the value of a reply or report the operation and the endpoint, and they do
so as documented unless the reply is a stray one. Reference: `PythonApiClient::post`. -/
theorem answers_operations (client : Client) (script : String) (network : Network) :
    client.Answers .register RegisterResponse.shape
        (client.outcome .register (registerBody client.contract client.moduleName client.source)
          network)
        (client.register network).1 ∧
      client.Answers .execute ExecuteResponse.shape
        (client.outcome .execute (executeBody client.moduleName script) network)
        (client.execute script network).1 :=
  ⟨answers_post .., answers_post ..⟩

/-- A reply with the status 300 reports no success, but its value is returned. -/
theorem register_of_multipleChoices :
    let body := "\x7b\"status\":\x7b\"code\":0,\"message\":\"\",\"details\":[]\x7d\x7d"
    let reply : Reply := ⟨300, "Multiple Choices", Text.Utf8.bytes body⟩
    let client : Client := ⟨⟨"[::1]"⟩, ⟨"m"⟩, "", {}⟩
    (client.register { outcome := fun _ => .replied reply }).1 = .ok ⟨{}⟩ := by
  intro body reply client
  have hprint : OutputFormat.text.print false (RegisterResponse.shape.toJson ⟨{}⟩) = body := by
    rfl
  have hback : RegisterResponse.shape.PrintsBack ⟨{}⟩ :=
    .of_keeps (RegisterResponse.keeps ⟨rfl, nofun⟩) (by decide)
  have hparse : RegisterResponse.shape.parse reply.content = .ok ⟨{}⟩ := by
    have hformat := hback .text List.mem_cons_self false
    rwa [hprint] at hformat
  have hurl : requestUrl client.endpoint Operation.register.name = .ok _ :=
    requestUrl_loopback .register
  obtain ⟨request, reasons, -, -, hregister⟩ :=
    register_of_url hurl { outcome := fun _ => .replied reply }
  rw [hregister]
  change (RegisterResponse.shape.parse reply.content).toOption.elim _ _ = _
  rw [hparse]
  rfl

end Client

end ModuleBridge.Session
