import ModuleBridge.Proofs.Session.Status

/-!
# Registration in the background

A connected module and the task that registers it take turns in any order: the task begins, which
posts the registration, and ends when there is a reply, or is stopped before that; meanwhile the
registration is taken or waited for, and functions are called. What becomes of a request is known to
the network when the request is posted, whenever its reply comes in, so a turn that posts a request
also fixes the result.

`Step.accounted` says what each step posts and returns. A registration is posted only while it is
pending (`Step.begun`), and handed out only while it is held (`Step.asked`); so in a whole run it is
posted at most once, and of all that ask for it only the first gets it (`Run.orderly`). An operation
that waits for the task to end is a run of such steps (`exists_run_takeRegistration`,
`exists_run_waitRegistered`).
-/

namespace ModuleBridge.Session

/-! ## Steps -/

/-- A connected module at work. -/
structure Live where
  remote : RemoteModule
  network : Network
  /-- Has the task that registers the module ended? -/
  hasEnded : Bool := false
  /-- Is an operation waiting for that? -/
  isAwaited : Bool := false

/-- What happens in a step. -/
inductive Event
  /-- The task begins to register the module. -/
  | begins
  /-- The task ends with its result. -/
  | ends
  /-- The task is stopped, for the reasons given. -/
  | stopped (reasons : List String)
  /-- The registration is taken, if it is still there. -/
  | takes (isHandedOut : Bool)
  /-- An operation obtains the registration and begins to wait for it. -/
  | waits
  /-- That operation returns. -/
  | returns (result : Except Error RegisterResponse)
  /-- That operation is given up. -/
  | leaves
  /-- An operation that would wait for the registration returns because it is not there any more. -/
  | refused (result : Except Error RegisterResponse)
  /-- A function is called. -/
  | calls (name : String) (arguments : List Json) (result : Except Error ExecuteResponse)

/-- Does the task begin? -/
def Event.isBegun : Event → Bool
  | .begins => true
  | _ => false

/-- Whether the registration is handed out, if an operation asks for it. -/
def Event.asked? : Event → Option Bool
  | .takes isHandedOut => some isHandedOut
  | .waits => some true
  | .refused _ => some false
  | _ => none

namespace RemoteModule

/-- A module whose registration has been handed out. -/
def release (m : RemoteModule) : RemoteModule :=
  { m with isHeld := false }

/-- A module whose registration is stopped. -/
def stop (m : RemoteModule) (reasons : List String) : RemoteModule :=
  { m with registration := .ended (.error (m.client.transportError .register reasons)) }

end RemoteModule

/-- The steps of a connected module. -/
inductive Step : Live → Event → Live → Prop
  | begins {s : Live} (hpending : s.remote.result? = none) :
      Step s .begins
        { s with
          remote := (s.remote.settle s.network).1
          network := (s.remote.settle s.network).2 }
  | ends {s : Live} (hbegun : s.remote.result?.isSome) (hended : s.hasEnded = false) :
      Step s .ends { s with hasEnded := true }
  | stopped {s : Live} (hended : s.hasEnded = false) (reasons : List String) :
      Step s (.stopped reasons) { s with remote := s.remote.stop reasons, hasEnded := true }
  | takes (s : Live) :
      Step s (.takes s.remote.isHeld) { s with remote := s.remote.release }
  | waits {s : Live} (hheld : s.remote.isHeld = true) :
      Step s .waits { s with remote := s.remote.release, isAwaited := true }
  | returns {s : Live} {result : Except Error RegisterResponse} (hawaited : s.isAwaited = true)
      (hended : s.hasEnded = true) (hresult : s.remote.result? = some result) :
      Step s (.returns result) { s with isAwaited := false }
  | leaves {s : Live} (hawaited : s.isAwaited = true) :
      Step s .leaves { s with isAwaited := false }
  | refused {s : Live} (hheld : s.remote.isHeld = false) :
      Step s (.refused (s.remote.waitRegistered s.network).1)
        { s with
          remote := (s.remote.waitRegistered s.network).2.1
          network := (s.remote.waitRegistered s.network).2.2 }
  | calls (s : Live) (name : String) (arguments : List Json) :
      Step s (.calls name arguments (s.remote.call name arguments s.network).1)
        { s with network := (s.remote.call name arguments s.network).2 }

/-- The requests that were posted since an earlier state. -/
def Live.postedSince (s earlier : Live) : List Request :=
  s.network.posted.drop earlier.network.posted.length

/-- What happened in a step, with the requests that were posted in it. -/
structure Turn where
  event : Event
  requests : List Request

/-- Steps one after the other. -/
inductive Run (s : Live) : List Turn → Live → Prop
  | start : Run s [] s
  | next {trace : List Turn} {t u : Live} {event : Event} (h : Run s trace t)
      (hstep : Step t event u) : Run s (trace ++ [⟨event, u.postedSince t⟩]) u

/-! ## What a step posts and returns -/

/-- What a turn may be, given the network before it: the requests that are posted in it, and what is
returned if an operation ends in it. -/
inductive Accounted (client : Client) (functions : List FunctionSignature) (network : Network) :
    Turn → Prop
  /-- The registration is posted. -/
  | begins {request : Request} (hrequest : client.Registers request) :
      Accounted client functions network ⟨.begins, [request]⟩
  /-- The endpoint makes no address for the registration. -/
  | unaddressed {fault : UrlFault}
      (hurl : requestUrl client.endpoint Operation.register.name = .error fault) :
      Accounted client functions network ⟨.begins, []⟩
  | ends : Accounted client functions network ⟨.ends, []⟩
  | stopped (reasons : List String) : Accounted client functions network ⟨.stopped reasons, []⟩
  | takes (isHandedOut : Bool) : Accounted client functions network ⟨.takes isHandedOut, []⟩
  | waits : Accounted client functions network ⟨.waits, []⟩
  | returns (result : Except Error RegisterResponse) :
      Accounted client functions network ⟨.returns result, []⟩
  | leaves : Accounted client functions network ⟨.leaves, []⟩
  | refused : Accounted client functions network ⟨.refused (.error (.invalidArgument
      s!"registration of '{client.moduleName.text}' was already awaited")), []⟩
  /-- No function has the name. -/
  | unknown {name : String} {arguments : List Json}
      (hfind : functions.find? (·.name = name) = none) :
      Accounted client functions network
        ⟨.calls name arguments (.error (.unknownFunction client.moduleName.text name)), []⟩
  /-- The first function with the name takes another number of arguments. -/
  | mismatch {name : String} {arguments : List Json} {f : FunctionSignature}
      (hfind : functions.find? (·.name = name) = some f)
      (hlength : arguments.length ≠ f.parameters.length) :
      Accounted client functions network ⟨.calls name arguments
        (.error (.arityMismatch name f.parameters.length arguments.length)), []⟩
  /-- The script is posted. -/
  | executed {name script : String} {arguments : List Json} {f : FunctionSignature}
      {request : Request} {result : Except Error ExecuteResponse}
      (hfind : functions.find? (·.name = name) = some f)
      (hlength : arguments.length = f.parameters.length)
      (hscript : callScript name f.parameters arguments = .ok script)
      (hrequest : client.Executes script request)
      (hresult : client.IsResult .execute
        (network.accepted? ExecuteResponse.shape [request]) result) :
      Accounted client functions network ⟨.calls name arguments result, [request]⟩
  /-- The endpoint makes no address for the script. -/
  | unsent {name : String} {arguments : List Json} {f : FunctionSignature} {fault : UrlFault}
      (hfind : functions.find? (·.name = name) = some f)
      (hlength : arguments.length = f.parameters.length)
      (hurl : requestUrl client.endpoint Operation.execute.name = .error fault) :
      Accounted client functions network ⟨.calls name arguments
        (.error (client.transportError .execute fault.reasons)), []⟩

section
variable {s t u : Live} {event : Event} {trace : List Turn} {client : Client}
  {functions : List FunctionSignature} {network : Network} {requests : List Request}

/-- What was posted since is what the network got in addition. -/
theorem postedSince_eq (h : t.network = s.network.after requests) : t.postedSince s = requests := by
  rw [Live.postedSince, h]
  exact List.drop_left

/-- Settling a registration that is pending posts it. -/
theorem RemoteModule.settle_of_pending {m : RemoteModule} (h : m.result? = none)
    (network : Network) :
    m.settle network =
      ({ m with registration := .ended (m.client.register network).1 },
        (m.client.register network).2) := by
  rw [result?] at h
  split at h
  · next hpending => simp only [settle, hpending]
  · cases h

/-- Waiting for a registration that was taken fails and posts nothing. -/
theorem RemoteModule.waitRegistered_of_not_held {m : RemoteModule} (h : m.isHeld = false)
    (network : Network) :
    m.waitRegistered network = (.error (.invalidArgument
      s!"registration of '{m.client.moduleName.text}' was already awaited"), m, network) := by
  simp [waitRegistered, takeRegistration, h]

/-- The task posts the registration if the endpoint makes an address for it. -/
theorem accounted_register (client : Client) (functions : List FunctionSignature)
    (network : Network) :
    ∃ requests, (client.register network).2 = network.after requests ∧
      Accounted client functions network ⟨.begins, requests⟩ := by
  cases hurl : requestUrl client.endpoint Operation.register.name with
  | error fault =>
    refine ⟨[], ?_, .unaddressed hurl⟩
    rw [Client.register_of_fault hurl, Network.after_nil]
  | ok url =>
    obtain ⟨request, reasons, hrequest, -, hregister⟩ := Client.register_of_url hurl network
    exact ⟨[request], by rw [hregister], .begins hrequest⟩

/-- A call checks the name and the number of arguments and then posts its script. -/
theorem accounted_call (m : RemoteModule) (name : String) (arguments : List Json)
    (network : Network) :
    ∃ requests, (m.call name arguments network).2 = network.after requests ∧
      Accounted m.client m.functions network
        ⟨.calls name arguments (m.call name arguments network).1, requests⟩ := by
  rw [RemoteModule.call, RemoteModule.scriptFor]
  cases hfind : m.find? name with
  | none => exact ⟨[], (network.after_nil).symm, .unknown hfind⟩
  | some f =>
    have hname : f.name = name := by simpa using List.find?_some hfind
    simp only [hname]
    by_cases hlength : arguments.length = f.parameters.length
    · obtain ⟨script, hscript⟩ : ∃ script, callScript name f.parameters arguments = .ok script :=
        ⟨_, if_neg fun hne => hne hlength⟩
      simp only [hscript]
      cases hurl : requestUrl m.client.endpoint Operation.execute.name with
      | error fault =>
        have hexecute : m.client.execute script network = _ := Client.post_of_fault hurl
        rw [hexecute]
        exact ⟨[], (network.after_nil).symm, .unsent hfind hlength hurl⟩
      | ok url =>
        obtain ⟨request, reasons, hrequest, -, hexecute⟩ :=
          Client.execute_of_url hurl script network
        have hresult := Client.isResult_elim m.client .execute reasons
          (network.accepted? ExecuteResponse.shape [request])
        rw [hexecute]
        exact ⟨[request], rfl, .executed hfind hlength hscript hrequest hresult⟩
    · have hscript : callScript name f.parameters arguments = _ := if_pos hlength
      simp only [hscript]
      exact ⟨[], (network.after_nil).symm, .mismatch hfind hlength⟩

/-- A step posts and returns what it may, and the module stays the same. -/
theorem Step.accounted (h : Step s event t) :
    t.remote.client = s.remote.client ∧ t.remote.functions = s.remote.functions ∧
      ∃ requests, t.network = s.network.after requests ∧
        Accounted s.remote.client s.remote.functions s.network ⟨event, requests⟩ := by
  have hnothing : s.network = s.network.after [] := s.network.after_nil.symm
  cases h with
  | begins hpending =>
    rw [RemoteModule.settle_of_pending hpending]
    exact ⟨rfl, rfl, accounted_register _ _ _⟩
  | ends => exact ⟨rfl, rfl, [], hnothing, .ends⟩
  | stopped hended reasons => exact ⟨rfl, rfl, [], hnothing, .stopped reasons⟩
  | takes => exact ⟨rfl, rfl, [], hnothing, .takes _⟩
  | waits => exact ⟨rfl, rfl, [], hnothing, .waits⟩
  | returns => exact ⟨rfl, rfl, [], hnothing, .returns _⟩
  | leaves => exact ⟨rfl, rfl, [], hnothing, .leaves⟩
  | refused hheld =>
    rw [RemoteModule.waitRegistered_of_not_held hheld]
    exact ⟨rfl, rfl, [], hnothing, .refused⟩
  | calls name arguments => exact ⟨rfl, rfl, accounted_call _ _ _ _⟩

/-- The task begins only while the registration is pending, which it is not after that. -/
theorem Step.begun (h : Step s event t) :
    (event.isBegun = true ∧ s.remote.result? = none ∧ t.remote.result? ≠ none) ∨
      (event.isBegun = false ∧ (t.remote.result? = none → s.remote.result? = none)) := by
  cases h with
  | begins hpending =>
    refine .inl ⟨rfl, hpending, ?_⟩
    rw [RemoteModule.settle_of_pending hpending]
    exact Option.some_ne_none _
  | stopped => exact .inr ⟨rfl, nofun⟩
  | refused hheld =>
    rw [RemoteModule.waitRegistered_of_not_held hheld]
    exact .inr ⟨rfl, id⟩
  | _ => exact .inr ⟨rfl, id⟩

/-- Whoever asks for the registration gets it if it is held, and it is not held after that. -/
theorem Step.asked (h : Step s event t) :
    (event.asked? = none ∧ t.remote.isHeld = s.remote.isHeld) ∨
      (event.asked? = some s.remote.isHeld ∧ t.remote.isHeld = false) := by
  cases h with
  | begins hpending =>
    rw [RemoteModule.settle_of_pending hpending]
    exact .inl ⟨rfl, rfl⟩
  | takes => exact .inr ⟨rfl, rfl⟩
  | waits hheld => exact .inr ⟨congrArg some hheld.symm, rfl⟩
  | refused hheld =>
    rw [RemoteModule.waitRegistered_of_not_held hheld]
    exact .inr ⟨congrArg some hheld.symm, hheld⟩
  | _ => exact .inl ⟨rfl, rfl⟩

/-! ## Runs -/

/-- Whether the registration was handed out, for each operation that asked for it. -/
def askings (trace : List Turn) : List Bool :=
  trace.filterMap (·.event.asked?)

/-- What holds of a run of a module that was connected: the ledger of its turns is complete, and the
registration was posted or handed out before only if that shows in the module. -/
structure Kept (client : Client) (functions : List FunctionSignature) (network : Network)
    (trace : List Turn) (s : Live) : Prop where
  client_eq : s.remote.client = client
  functions_eq : s.remote.functions = functions
  posted : s.network = network.after (trace.flatMap (·.requests))
  turns : ∀ before turn after, trace = before ++ turn :: after →
    Accounted client functions (network.after (before.flatMap (·.requests))) turn
  begun : trace.countP (·.event.isBegun) ≤ 1
  pending : s.remote.result? = none → trace.countP (·.event.isBegun) = 0
  asked : askings trace = [] ∨ ∃ n, askings trace = true :: List.replicate n false
  held : s.remote.isHeld = decide (askings trace = [])

/-- The askings of a trace go on with that of the next turn. -/
theorem askings_next (trace : List Turn) (turn : Turn) :
    askings (trace ++ [turn]) = askings trace ++ turn.event.asked?.toList := by
  rw [askings, List.filterMap_append]
  cases hasked : turn.event.asked? <;> simp [askings, hasked]

/-- The registrations that began in a trace are counted on with the next turn. -/
theorem countP_next (trace : List Turn) (turn : Turn) :
    (trace ++ [turn]).countP (·.event.isBegun) =
      trace.countP (·.event.isBegun) + turn.event.isBegun.toNat := by
  cases hbegun : turn.event.isBegun <;> simp [hbegun]

/-- A step keeps the ledger. -/
theorem Kept.step (h : Kept client functions network trace s) (hstep : Step s event t) :
    Kept client functions network (trace ++ [⟨event, t.postedSince s⟩]) t := by
  obtain ⟨hclient, hfunctions, requests, hnetwork, haccounted⟩ := hstep.accounted
  rw [postedSince_eq hnetwork]
  rw [h.client_eq, h.functions_eq, h.posted] at haccounted
  constructor
  case client_eq => exact hclient.trans h.client_eq
  case functions_eq => exact hfunctions.trans h.functions_eq
  case posted =>
    rw [hnetwork, h.posted, Network.after_after, List.flatMap_append, List.flatMap_singleton]
  case turns =>
    intro before turn after htrace
    -- only the last turn is new, every other one was accounted for before
    rcases after.eq_nil_or_concat with rfl | ⟨after, last, rfl⟩
    · obtain ⟨rfl, hturn⟩ := List.append_inj' htrace rfl
      cases hturn
      exact haccounted
    · rw [List.concat_eq_append, ← List.cons_append, ← List.append_assoc] at htrace
      exact h.turns before turn after (List.append_inj' htrace rfl).1
  case begun =>
    rw [countP_next]
    rcases hstep.begun with ⟨hbegun, hpending, -⟩ | ⟨hbegun, -⟩
    · rw [hbegun, h.pending hpending]
      exact Nat.le_refl 1
    · rw [hbegun]
      exact h.begun
  case pending =>
    intro ht
    rw [countP_next]
    rcases hstep.begun with ⟨-, -, hno⟩ | ⟨hbegun, hpending⟩
    · exact absurd ht hno
    · rw [hbegun, h.pending (hpending ht)]
      rfl
  case asked =>
    rw [askings_next]
    rcases hstep.asked with ⟨hasked, -⟩ | ⟨hasked, -⟩
    · rw [hasked, Option.toList_none, List.append_nil]
      exact h.asked
    · rw [hasked, h.held]
      rcases h.asked with hnone | ⟨n, hsome⟩
      · exact .inr ⟨0, by simp [hnone]⟩
      · exact .inr ⟨n + 1, by simp [hsome, List.replicate_succ']⟩
  case held =>
    rw [askings_next]
    rcases hstep.asked with ⟨hasked, hheld⟩ | ⟨hasked, hheld⟩
    · rw [hheld, h.held, hasked, Option.toList_none, List.append_nil]
    · rw [hheld, hasked]
      simp

/-- The task posts the only requests that go to the address for registrations. -/
theorem countP_registrations {url : String}
    (hurl : requestUrl client.endpoint Operation.register.name = .ok url)
    (h : ∀ turn ∈ trace, ∃ network, Accounted client functions network turn) :
    (trace.flatMap (·.requests)).countP (·.url = url) = trace.countP (·.event.isBegun) := by
  have hturn (turn : Turn) (network : Network) (hturn : Accounted client functions network turn) :
      turn.requests.countP (·.url = url) = turn.event.isBegun.toNat := by
    cases hturn with
    | begins hrequest =>
      simp [Except.ok.inj (hrequest.url.symm.trans hurl), Event.isBegun]
    | unaddressed hfault => cases hurl.symm.trans hfault
    | @executed _ _ _ _ request _ _ _ _ hrequest =>
      have hne : request.url ≠ url := by
        rintro rfl
        have hexecute : requestUrl client.endpoint Operation.execute.name = .ok request.url :=
          hrequest.url
        cases eq_of_requestUrl hexecute hurl
      simp [Event.isBegun, hne]
    | _ => rfl
  induction trace with
  | nil => rfl
  | cons turn trace ih =>
    obtain ⟨⟨network, hfirst⟩, hrest⟩ := List.forall_mem_cons.1 h
    rw [List.flatMap_cons, List.countP_append, hturn turn network hfirst, ih hrest]
    cases hbegun : turn.event.isBegun <;> simp [hbegun, Nat.add_comm]

/-- In a run of a module that was connected, the requests are those of its turns, and each turn
posts and returns what it may after the turns before it; the task begins at most once, and it alone
posts to the address for registrations; and of the operations that ask for the registration the
first gets it and no other one does. Reference: `connect_with_contract`, `take_registration`,
`wait_registered`, `RemoteModule::call`. -/
theorem Run.orderly {m : RemoteModule} (hm : RemoteModule.connect true client functions = .ok m)
    (h : Run { remote := m, network } trace s) :
    s.network = network.after (trace.flatMap (·.requests)) ∧
      (∀ before turn after, trace = before ++ turn :: after →
        Accounted client functions (network.after (before.flatMap (·.requests))) turn) ∧
      trace.countP (·.event.isBegun) ≤ 1 ∧
      (∀ url, requestUrl client.endpoint Operation.register.name = .ok url →
        (trace.flatMap (·.requests)).countP (·.url = url) = trace.countP (·.event.isBegun)) ∧
      (askings trace = [] ∨ ∃ n, askings trace = true :: List.replicate n false) := by
  have hkept : Kept client functions network trace s := by
    cases hm
    induction h with
    | start =>
      refine ⟨rfl, rfl, (Network.after_nil _).symm, fun _ _ _ htrace => ?_, Nat.zero_le 1,
        fun _ => rfl, .inl rfl, rfl⟩
      cases (List.append_eq_nil_iff.1 htrace.symm).2
    | next h hstep ih => exact ih.step hstep
  have haccounted : ∀ turn ∈ trace, ∃ network, Accounted client functions network turn := by
    intro turn hturn
    obtain ⟨before, after, htrace⟩ := List.append_of_mem hturn
    exact ⟨_, hkept.turns before turn after htrace⟩
  exact ⟨hkept.posted, hkept.turns, hkept.begun, fun _ hurl => countP_registrations hurl haccounted,
    hkept.asked⟩

/-- A module with one function that was connected to an endpoint. -/
def oneFunction (endpoint : SessionEndpoint) : RemoteModule where
  client := ⟨endpoint, ⟨"m"⟩, "", {}⟩
  functions := [⟨"f", []⟩]

/-- A call may come before the task begins, and a registration that was taken is not there to wait
for. -/
theorem Run.orderly_call_first :
    ∃ trace s,
      Run { remote := oneFunction ⟨"[::1]"⟩, network := { outcome := fun _ => .dropped } } trace s ∧
      askings trace = [true, false] ∧
      (trace.flatMap (·.requests)).countP
        (·.url = s!"http://[::1]/{apiPath}{Operation.register.name}") = 1 := by
  have hconnect : RemoteModule.connect true ⟨⟨"[::1]"⟩, ⟨"m"⟩, "", {}⟩ [⟨"f", []⟩] =
      .ok (oneFunction ⟨"[::1]"⟩) := rfl
  have hcall : Run ⟨oneFunction ⟨"[::1]"⟩, { outcome := fun _ => .dropped }, false, false⟩ _ _ :=
    Run.start.next (.calls _ "f" [])
  have hwait := ((hcall.next (.takes _)).next (.begins rfl)).next (.refused rfl)
  obtain ⟨-, -, -, hregistered, -⟩ := Run.orderly hconnect hwait
  exact ⟨_, _, hwait, rfl, hregistered _ (requestUrl_loopback .register)⟩

/-- An endpoint without a host is accepted, and then nothing is posted for a call of a function with
as many arguments as it takes. -/
theorem Run.unsent_without_host :
    SessionEndpoint.ofText ":80" = .ok ⟨":80"⟩ ∧
      RemoteModule.connect true ⟨⟨":80"⟩, ⟨"m"⟩, "", {}⟩ [⟨"f", []⟩] = .ok (oneFunction ⟨":80"⟩) ∧
      ∀ network, ((oneFunction ⟨":80"⟩).call "f" [] network).2.posted = network.posted :=
  ⟨rfl, rfl, fun _ => rfl⟩

/-! ## Operations as runs -/

/-- A run goes on with another one. -/
theorem Run.append {rest : List Turn} (h : Run s trace t) (h' : Run t rest u) :
    Run s (trace ++ rest) u := by
  induction h' with
  | start => rwa [List.append_nil]
  | next _ hstep ih =>
    rw [← List.append_assoc]
    exact ih.next hstep

/-- One step is a run. -/
theorem Run.single (h : Step s event t) : Run s [⟨event, t.postedSince s⟩] t :=
  Run.start.next h

namespace RemoteModule

/-- Settling a registration that has ended does nothing. -/
theorem settle_of_ended {m : RemoteModule} {result : Except Error RegisterResponse}
    (h : m.result? = some result) (network : Network) : m.settle network = (m, network) := by
  rw [result?] at h
  split at h
  · cases h
  · next hended => simp only [settle, hended]

/-- A registration that was settled has a result. -/
theorem exists_result_settle (m : RemoteModule) (network : Network) :
    ∃ result, (m.settle network).1.result? = some result := by
  cases h : m.result? with
  | none => exact ⟨_, by rw [settle_of_pending h]; rfl⟩
  | some result => exact ⟨result, by rw [settle_of_ended h, h]⟩

/-- Whether the registration is held does not matter for how it is settled. -/
theorem settle_release (m : RemoteModule) (network : Network) :
    m.release.settle network = ((m.settle network).1.release, (m.settle network).2) := by
  cases h : m.result? with
  | none => rw [settle_of_pending h, settle_of_pending (m := m.release) h]; rfl
  | some result => rw [settle_of_ended h, settle_of_ended (m := m.release) h]

/-- Taking a registration that is held gives its result, and it is held no longer. -/
theorem takeRegistration_of_held {m : RemoteModule} (h : m.isHeld = true) (network : Network) :
    m.takeRegistration network =
      ((m.settle network).1.result?, (m.settle network).1.release, (m.settle network).2) := by
  simp only [takeRegistration, h, if_true]
  rfl

/-- A registration that is not held cannot be released again. -/
theorem release_of_not_held {m : RemoteModule} (h : m.isHeld = false) : m.release = m := by
  cases m
  cases h
  rfl

end RemoteModule

/-- The task can begin, if it has not done so, and end. -/
theorem exists_run_settle (hended : s.hasEnded = false) :
    ∃ trace, Run s trace
      { s with
        remote := (s.remote.settle s.network).1
        network := (s.remote.settle s.network).2
        hasEnded := true } := by
  cases hresult : s.remote.result? with
  | none =>
    refine ⟨_, (Run.single (.begins hresult)).next (.ends ?_ hended)⟩
    rw [RemoteModule.settle_of_pending hresult]
    rfl
  | some result =>
    rw [RemoteModule.settle_of_ended hresult]
    exact ⟨_, Run.single (.ends (Option.isSome_of_eq_some hresult) hended)⟩

/-- Taking a registration and waiting for its end is a run that begins with the taking. -/
theorem exists_run_takeRegistration (hended : s.hasEnded = false) :
    ∃ requests trace t, Run s (⟨.takes s.remote.isHeld, requests⟩ :: trace) t ∧
      t.remote = (s.remote.takeRegistration s.network).2.1 ∧
      t.network = (s.remote.takeRegistration s.network).2.2 ∧
      (s.remote.takeRegistration s.network).1 =
        if s.remote.isHeld then t.remote.result? else none := by
  have htake := Run.single (Step.takes s)
  cases hheld : s.remote.isHeld with
  | false =>
    rw [hheld] at htake
    refine ⟨_, [], _, htake, ?_, ?_, ?_⟩ <;>
      simp [RemoteModule.takeRegistration, hheld, RemoteModule.release_of_not_held]
  | true =>
    rw [hheld] at htake
    obtain ⟨trace, hrun⟩ := exists_run_settle (s := { s with remote := s.remote.release }) hended
    refine ⟨_, trace, _, htake.append hrun, ?_⟩
    rw [RemoteModule.settle_release, RemoteModule.takeRegistration_of_held hheld]
    exact ⟨rfl, rfl, rfl⟩

/-- Waiting for a registration is a run that ends with its result. -/
theorem exists_run_waitRegistered (hended : s.hasEnded = false) :
    ∃ trace event requests t, Run s (trace ++ [⟨event, requests⟩]) t ∧
      t.remote = (s.remote.waitRegistered s.network).2.1 ∧
      t.network = (s.remote.waitRegistered s.network).2.2 ∧
      (event = .returns (s.remote.waitRegistered s.network).1 ∨
        event = .refused (s.remote.waitRegistered s.network).1) := by
  cases hheld : s.remote.isHeld with
  | false => exact ⟨[], _, _, _, Run.single (.refused hheld), rfl, rfl, .inr rfl⟩
  | true =>
    obtain ⟨trace, hrun⟩ :=
      exists_run_settle (s := { s with remote := s.remote.release, isAwaited := true }) hended
    obtain ⟨result, hresult⟩ := s.remote.exists_result_settle s.network
    have hwait : s.remote.waitRegistered s.network =
        (result, (s.remote.settle s.network).1.release, (s.remote.settle s.network).2) := by
      rw [RemoteModule.waitRegistered, RemoteModule.takeRegistration_of_held hheld, hresult]
    rw [RemoteModule.settle_release] at hrun
    have hreturn := ((Run.single (.waits hheld)).append hrun).next (.returns rfl rfl hresult)
    rw [hwait]
    exact ⟨_, _, _, _, hreturn, rfl, rfl, .inl rfl⟩

end

end ModuleBridge.Session
