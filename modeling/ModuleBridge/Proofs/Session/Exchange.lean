import ModuleBridge.Proofs.Session.Bodies
import ModuleBridge.Proofs.Session.Url
import ModuleBridge.Session.RemoteModule

/-!
# Exchanges with a session

An operation of a client posts nothing (`post_of_fault`), or one request and gives what it takes
from the reply (`post_of_url`). What a request is goes by its address and by what its body carries
(`Registers`, `Executes`), not by the text of the body. A module that was connected registers once
when it is waited for, and what it checks of a call does not change with that
(`waitRegistered_connect`). So what is posted for a call is one of three exchanges, each step of
which needs the one before it (`exchange_of_connect`).
-/

namespace ModuleBridge.Session

open Wire (Shape)

/-! ## Requests and replies -/

/-- The request goes to the path of an endpoint that ends with the given name, and its body is JSON
that carries the given texts and nothing else. -/
structure Client.Requests (client : Client) (name : String) (texts : List (String × String))
    (request : Request) : Prop where
  url : requestUrl client.endpoint name = .ok request.url
  contentType : request.contentType = "application/json"
  body : Carries request.body texts

/-- The request registers the module of a client with its source. Reference: `register`. -/
def Client.Registers (client : Client) (request : Request) : Prop :=
  client.Requests "registermodule"
    (registrationTexts client.contract client.moduleName client.source) request

/-- The request runs a script in the module of a client. Reference: `execute_script`. -/
def Client.Executes (client : Client) (script : String) (request : Request) : Prop :=
  client.Requests "execute" (executionTexts client.moduleName script) request

/-- What an operation takes from an outcome: the value in the body of a reply that reports no
error. -/
def Outcome.accepted? (shape : Shape α) : Outcome → Option α
  | .unanswered _ => none
  | .replied reply =>
    if isErrorStatus reply.status then none
    else (shape.parse (if bodiless.contains reply.status then [] else reply.body)).toOption

namespace Network

/-- A network after more requests were posted. -/
def after (network : Network) (requests : List Request) : Network :=
  { network with posted := network.posted ++ requests }

/-- What an operation takes from the outcome of the last of some requests. -/
def accepted? (network : Network) (shape : Shape α) (requests : List Request) : Option α :=
  (network.outcome (network.posted ++ requests)).accepted? shape

@[simp] theorem after_nil (network : Network) : network.after [] = network := by
  rw [after, List.append_nil]

@[simp] theorem after_after (network : Network) (first second : List Request) :
    (network.after first).after second = network.after (first ++ second) := by
  simp only [after, List.append_assoc]

@[simp] theorem accepted?_after (network : Network) (shape : Shape α)
    (first second : List Request) :
    (network.after first).accepted? shape second = network.accepted? shape (first ++ second) := by
  simp only [accepted?, after, List.append_assoc]

end Network

section
variable {shape : Shape α} {url : String} {x : α}

/-- A reply is read exactly if it is accepted. -/
theorem readOutcome_eq_ok_iff {outcome : Outcome} :
    readOutcome shape url outcome = .ok x ↔ outcome.accepted? shape = some x := by
  cases outcome with
  | unanswered reasons => simp [readOutcome, Outcome.accepted?]
  | replied reply =>
    rw [readOutcome, readReply, Outcome.accepted?]
    split
    · simp
    · cases shape.parse (if bodiless.contains reply.status then [] else reply.body) with
      | error e => simp [Except.toOption]
      | ok y => simp [Except.toOption]

end

/-! ## Operations -/

namespace Client

section
variable {client : Client} {operation : Operation} {body : Json} {shape : Shape α}
  {network : Network} {url script : String} {fault : UrlFault}

/-- An endpoint that makes an address for registrations makes one for scripts. -/
theorem exists_requestUrl_execute
    (h : requestUrl client.endpoint Operation.register.name = .ok url) :
    ∃ url, requestUrl client.endpoint Operation.execute.name = .ok url :=
  requestUrl_of_shorter (isPlain_operation .register) (isPlain_operation .execute) (by decide) h

/-- Without an address nothing is posted. -/
theorem post_of_fault (hurl : requestUrl client.endpoint operation.name = .error fault) :
    client.post operation body shape network =
      (.error (client.transportError operation fault.reasons), network) := by
  rw [post, hurl]

/-- An operation with an address posts one request and gives what it takes from the outcome. -/
theorem post_of_url (hurl : requestUrl client.endpoint operation.name = .ok url) :
    ∃ reasons, client.post operation body shape network =
      ((network.accepted? shape [⟨url, "application/json", body.compact⟩]).elim
          (.error (client.transportError operation reasons)) .ok,
        network.after [⟨url, "application/json", body.compact⟩]) := by
  simp only [post, hurl, Network.post]
  cases hread : readOutcome shape url
      (network.outcome (network.posted ++ [⟨url, "application/json", body.compact⟩])) with
  | ok x =>
    refine ⟨[], ?_⟩
    rw [Network.accepted?, readOutcome_eq_ok_iff.1 hread]
    rfl
  | error reasons =>
    have hnone : network.accepted? shape [⟨url, "application/json", body.compact⟩] = none := by
      refine Option.eq_none_iff_forall_ne_some.2 fun x hx => ?_
      rw [readOutcome_eq_ok_iff.2 hx] at hread
      cases hread
    refine ⟨reasons, ?_⟩
    rw [hnone]
    rfl

/-- Without an address a module is not registered. -/
theorem register_of_fault (hurl : requestUrl client.endpoint Operation.register.name = .error fault)
    (network : Network) :
    client.register network =
      (.error (client.transportError .register fault.reasons), network) :=
  post_of_fault hurl

/-- With an address a module is registered by one request. -/
theorem register_of_url (hurl : requestUrl client.endpoint Operation.register.name = .ok url)
    (network : Network) :
    ∃ request reasons, client.Registers request ∧ request.url = url ∧
      client.register network =
        ((network.accepted? RegisterResponse.shape [request]).elim
          (.error (client.transportError .register reasons)) .ok,
        network.after [request]) := by
  let request : Request := ⟨url, "application/json",
    (registerBody client.contract client.moduleName client.source).compact⟩
  have hrequest : client.Registers request :=
    { url := hurl, contentType := rfl, body := carries_registerBody .. }
  obtain ⟨reasons, hregister⟩ : ∃ reasons, client.register network =
      ((network.accepted? RegisterResponse.shape [request]).elim
        (.error (client.transportError .register reasons)) .ok, network.after [request]) :=
    post_of_url hurl
  exact ⟨request, reasons, hrequest, rfl, hregister⟩

/-- With an address a script is run by one request. -/
theorem execute_of_url (hurl : requestUrl client.endpoint Operation.execute.name = .ok url)
    (script : String) (network : Network) :
    ∃ request reasons, client.Executes script request ∧ request.url = url ∧
      client.execute script network =
        ((network.accepted? ExecuteResponse.shape [request]).elim
          (.error (client.transportError .execute reasons)) .ok,
        network.after [request]) := by
  let request : Request := ⟨url, "application/json", (executeBody client.moduleName script).compact⟩
  have hrequest : client.Executes script request :=
    { url := hurl, contentType := rfl, body := carries_executeBody .. }
  obtain ⟨reasons, hexecute⟩ : ∃ reasons, client.execute script network =
      ((network.accepted? ExecuteResponse.shape [request]).elim
        (.error (client.transportError .execute reasons)) .ok, network.after [request]) :=
    post_of_url hurl
  exact ⟨request, reasons, hrequest, rfl, hexecute⟩

end

/-- `network'` is `network` after the one request of an operation, which carries the given texts. If
the endpoint makes no address for the operation, there is no request. -/
def Sends (client : Client) (operation : Operation) (texts : List (String × String))
    (network network' : Network) : Prop :=
  match requestUrl client.endpoint operation.name with
  | .error _ => network' = network
  | .ok url => ∃ request : Request, network' = network.after [request] ∧ request.url = url ∧
      Carries request.body texts

/-- An operation sends what its body carries. -/
theorem sends_post {client : Client} {operation : Operation} {body : Json} {shape : Shape α}
    {texts : List (String × String)} (h : Carries body.compact texts) (network : Network) :
    client.Sends operation texts network (client.post operation body shape network).2 := by
  unfold Sends
  cases hurl : requestUrl client.endpoint operation.name with
  | error fault => rw [post_of_fault hurl]
  | ok url =>
    obtain ⟨reasons, hpost⟩ : ∃ reasons, client.post operation body shape network =
        ((network.accepted? shape [⟨url, "application/json", body.compact⟩]).elim
            (.error (client.transportError operation reasons)) .ok,
          network.after [⟨url, "application/json", body.compact⟩]) := post_of_url hurl
    rw [hpost]
    exact ⟨⟨url, "application/json", body.compact⟩, rfl, rfl, h⟩

/-- **What the requests of a client carry.** Registering sends the name of the module and its source
under the field of the contract, running a script the name of the module and the script, and nothing
else. All arrive as they are, whatever characters they have. Reference: `register`,
`execute_script`. -/
theorem sends_operations (client : Client) (script : String) (network : Network) :
    client.Sends .register
        (registrationTexts client.contract client.moduleName client.source) network
        (client.register network).2 ∧
      client.Sends .execute (executionTexts client.moduleName script) network
        (client.execute script network).2 :=
  ⟨sends_post (carries_registerBody ..) network, sends_post (carries_executeBody ..) network⟩

end Client

/-! ## Arguments -/

section
variable {number : Nat} {texts : List String} {values : List Json} {e : Error}

/-- Arguments are accepted if the first one is JSON and the others are accepted. -/
theorem argumentsFrom_cons_eq_ok_iff {text : String} :
    argumentsFrom number (text :: texts) = .ok values ↔
      ∃ v vs, Json.parse (Text.Utf8.bytes text) = .ok v ∧
        argumentsFrom (number + 1) texts = .ok vs ∧ values = v :: vs := by
  rw [argumentsFrom]
  cases Json.parse (Text.Utf8.bytes text) with
  | error e => simp
  | ok v =>
    cases argumentsFrom (number + 1) texts with
    | error e => simp [Functor.map, Except.map]
    | ok vs => simp [Functor.map, Except.map, eq_comm]

/-- Arguments are accepted if each is JSON. -/
theorem of_argumentsFrom_ok (h : argumentsFrom number texts = .ok values) :
    values.length = texts.length ∧
      ∀ text ∈ texts, ∃ v, Json.parse (Text.Utf8.bytes text) = .ok v := by
  induction texts generalizing number values with
  | nil =>
    cases h
    exact ⟨rfl, nofun⟩
  | cons text rest ih =>
    obtain ⟨v, vs, hv, hvs, rfl⟩ := argumentsFrom_cons_eq_ok_iff.1 h
    obtain ⟨hlength, hrest⟩ := ih hvs
    exact ⟨congrArg (· + 1) hlength, List.forall_mem_cons.2 ⟨⟨v, hv⟩, hrest⟩⟩

/-- Arguments are refused because of one that is not. -/
theorem exists_of_argumentsFrom_error (h : argumentsFrom number texts = .error e) :
    ∃ text ∈ texts, ∃ e, Json.parse (Text.Utf8.bytes text) = .error e := by
  induction texts generalizing number e with
  | nil => cases h
  | cons text rest ih =>
    cases hv : Json.parse (Text.Utf8.bytes text) with
    | error e => exact ⟨text, List.mem_cons_self, e, hv⟩
    | ok v =>
      cases hvs : argumentsFrom (number + 1) rest with
      | error e =>
        obtain ⟨text, hmem, hfault⟩ := ih hvs
        exact ⟨text, List.mem_cons_of_mem _ hmem, hfault⟩
      | ok vs => cases h.symm.trans (argumentsFrom_cons_eq_ok_iff.2 ⟨v, vs, hv, hvs, rfl⟩)

end

/-! ## Calls of a module -/

/-- What is posted for a call, and the value that is returned if all of it is accepted. The module
is registered first, and the script is posted when the registration was accepted. -/
inductive Exchange (client : Client) (script : String) (network : Network) :
    List Request → Option ExecuteResponse → Prop
  /-- The endpoint makes no address. -/
  | unaddressed {fault : UrlFault}
      (hurl : requestUrl client.endpoint Operation.register.name = .error fault) :
      Exchange client script network [] none
  /-- The registration is not accepted. -/
  | refused {first : Request} (hfirst : client.Registers first)
      (hrefused : network.accepted? RegisterResponse.shape [first] = none) :
      Exchange client script network [first] none
  /-- The registration is accepted, and the script is posted. -/
  | executed {first second : Request} {response : RegisterResponse}
      (hfirst : client.Registers first) (hsecond : client.Executes script second)
      (haccepted : network.accepted? RegisterResponse.shape [first] = some response) :
      Exchange client script network [first, second]
        (network.accepted? ExecuteResponse.shape [first, second])

/-- An exchange takes a value exactly if both requests are posted and accepted. -/
theorem Exchange.isSome_iff {client : Client} {script : String} {network : Network}
    {requests : List Request} {taken : Option ExecuteResponse}
    (h : Exchange client script network requests taken) :
    taken.isSome ↔ ∃ first second, requests = [first, second] ∧
      (network.accepted? RegisterResponse.shape [first]).isSome ∧
      (network.accepted? ExecuteResponse.shape [first, second]).isSome := by
  cases h with
  | unaddressed hurl => simp
  | refused hfirst hrefused => simp
  | executed hfirst hsecond haccepted =>
    refine ⟨fun h => ⟨_, _, rfl, Option.isSome_of_eq_some haccepted, h⟩, ?_⟩
    rintro ⟨first, second, hrequests, -, h⟩
    cases hrequests
    exact h

namespace RemoteModule

section
variable {client : Client} {functions : List FunctionSignature} {m : RemoteModule}
  {network : Network} {name script : String} {arguments : List Json}

/-- A module that was connected registers when it is waited for, and calls have the same scripts
after that. -/
theorem waitRegistered_connect (hm : connect true client functions = .ok m) (network : Network) :
    ∃ m', m.waitRegistered network =
        ((client.register network).1, m', (client.register network).2) ∧
      m'.client = client ∧
      ∀ name arguments, m'.scriptFor name arguments = m.scriptFor name arguments := by
  cases hm
  refine ⟨⟨client, functions, .ended (client.register network).1, false⟩, ?_, rfl,
    fun _ _ => rfl⟩
  simp only [waitRegistered, takeRegistration, settle, result?, if_true]

/-- If a call has a script, then waiting for a module that was connected, and calling it once it is
registered, posts an exchange, and the last of the two gives what that takes. -/
theorem exchange_of_connect (hm : connect true client functions = .ok m)
    (hscript : m.scriptFor name arguments = .ok script) (network : Network) :
    ∃ requests taken e m', Exchange client script network requests taken ∧
      (m.waitRegistered network = (.error e, m', network.after requests) ∧ taken = none ∨
        ∃ response posted, m.waitRegistered network = (.ok response, m', network.after posted) ∧
          m'.call name arguments (network.after posted) =
            (taken.elim (.error e) .ok, network.after requests)) := by
  obtain ⟨m', hwait, hclient, hscript'⟩ := waitRegistered_connect hm network
  cases hfirst : requestUrl client.endpoint Operation.register.name with
  | error fault =>
    rw [Client.register_of_fault hfirst] at hwait
    have hnothing : m.waitRegistered network =
        (.error (client.transportError .register fault.reasons), m', network.after []) := by
      rw [Network.after_nil]
      exact hwait
    exact ⟨[], none, _, m', .unaddressed hfirst, .inl ⟨hnothing, rfl⟩⟩
  | ok first =>
    obtain ⟨request, reasons, hrequest, -, hregister⟩ := Client.register_of_url hfirst network
    rw [hregister] at hwait
    cases hresponse : network.accepted? RegisterResponse.shape [request] with
    | none =>
      rw [hresponse] at hwait
      exact ⟨_, none, _, m', .refused hrequest hresponse, .inl ⟨hwait, rfl⟩⟩
    | some response =>
      rw [hresponse] at hwait
      obtain ⟨second, hsecond⟩ := Client.exists_requestUrl_execute hfirst
      obtain ⟨request', reasons, hrequest', -, hexecute⟩ :=
        Client.execute_of_url hsecond script (network.after [request])
      have hcall : m'.call name arguments (network.after [request]) =
          client.execute script (network.after [request]) := by
        rw [call, hscript', hscript, hclient]
      rw [hexecute, Network.accepted?_after, Network.after_after] at hcall
      exact ⟨_, _, _, m', .executed hrequest hrequest' hresponse, .inr ⟨response, _, hwait, hcall⟩⟩

end

end RemoteModule

end ModuleBridge.Session
