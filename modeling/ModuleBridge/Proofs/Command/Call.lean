import ModuleBridge.Command.Run
import ModuleBridge.Proofs.Failure
import ModuleBridge.Proofs.Session.Exchange

/-!
# What a call posts

A call first finds out by itself whether anything keeps it from being posted (`Obstacle`), and has
all it needs if nothing does (`PreparedCall`). Each step up to there changes neither files nor
network and goes on or meets an obstacle (`settled_runCall`), and what follows is an exchange with
the session (`settled_of_prepared`). The posted requests and the exit code are read off that
(`call_posts`).
-/

namespace ModuleBridge

open Files (GivenPath)
open Session (Network Client RemoteModule Exchange Operation RegisterResponse ExecuteResponse)

namespace Command

/-! ## Runs -/

namespace Run

section
variable {first : Run α} {second : α → Run β} {x : α} {e : Error} {failure : Failure} {w w' : World}
  {config python : Option String} {options : LoaderOptions} {interpreter : Interpreter}
  {file : GivenPath} {source : String}

/-- What follows a run that succeeds goes on with its value. -/
theorem andThen_of_ok (h : first w = (.ok x, w')) : first.andThen second w = second x w' := by
  rw [andThen, h]

/-- Nothing follows a run that fails. -/
theorem andThen_of_error (h : first w = (.error failure, w')) :
    first.andThen second w = (.error failure, w') := by
  rw [andThen, h]

theorem ofExcept_ok (x : α) (w : World) : ofExcept (.ok x) w = (.ok x, w) := rfl

theorem ofExcept_error (e : Error) (w : World) :
    ofExcept (α := α) (.error e) w = (.error (.error e), w) := rfl

/-- Options that can be loaded are there. -/
theorem options_of_ok (h : LoaderOptions.loadFrom w.files config = .ok options) :
    Run.options config w = (.ok options, w) := by
  rw [Run.options, h]

/-- Without its options a command fails as loading them does. -/
theorem options_of_error (h : LoaderOptions.loadFrom w.files config = .error failure) :
    Run.options config w = (.error failure, w) := by
  rw [Run.options, h]

/-- An interpreter that can be chosen is there. -/
theorem interpreter_of_ok (h : Interpreter.choose w.which python = .ok interpreter) :
    Run.interpreter python w = (.ok interpreter, w) := by
  rw [Run.interpreter, h]
  rfl

/-- Without an interpreter a command fails as choosing it does. -/
theorem interpreter_of_error (h : Interpreter.choose w.which python = .error e) :
    Run.interpreter python w = (.error (.error e), w) := by
  rw [Run.interpreter, h]
  rfl

/-- A source that can be read is there. -/
theorem readSource_of_ok (h : w.files.readPath file = .ok source) :
    onFiles (readSource file) w = (.ok source, w) := by
  simp only [onFiles, readSource, h]
  rfl

/-- A source that cannot be read is a failure that names the file. -/
theorem readSource_of_error {failure : SystemFailure}
    (h : w.files.readPath file = .error failure) :
    onFiles (readSource file) w = (.error (.error (.file file.shown failure)), w) := by
  simp only [onFiles, readSource, h]
  rfl

end

end Run

/-! ## Before anything is posted -/

/-- What a call has before anything is posted, if it comes to that. -/
structure PreparedCall (file : GivenPath) (function : String) (arguments : List String)
    (config python : Option String) (w : World) where
  options : LoaderOptions
  values : List Json
  source : String
  module : ParsedModule
  script : String
  options_eq : LoaderOptions.loadFrom w.files config = .ok options
  /-- The arguments are JSON. -/
  values_eq : Session.parseArguments arguments = .ok values
  source_eq : w.files.readPath file = .ok source
  module_eq : (runIntrospect file config python w).1 = .ok module
  /-- The module has the function, which takes as many arguments. -/
  script_eq : checkCall (.ofId file.shown) module function values = .ok script

/-- What keeps a call from being posted. -/
inductive Obstacle (file : GivenPath) (function : String) (arguments : List String)
    (config python : Option String) (w : World) : Prop
  | notJson {text : String} {e : Json.Error} (hmem : text ∈ arguments)
      (h : Json.parse (Text.Utf8.bytes text) = .error e)
  | unreadable {failure : SystemFailure} (h : w.files.readPath file = .error failure)
  /-- The file is not introspected, which takes options, an interpreter and its answer. -/
  | unintrospected {failure : Failure}
      (h : (runIntrospect file config python w).1 = .error failure)
  | notExported {m : ParsedModule} (hm : (runIntrospect file config python w).1 = .ok m)
      (h : m.find? function = none)
  | wrongCount {m : ParsedModule} {f : FunctionSignature}
      (hm : (runIntrospect file config python w).1 = .ok m) (hf : m.find? function = some f)
      (h : arguments.length ≠ f.arity)

section
variable {endpoint : SessionEndpoint} {file : GivenPath} {function script : String}
  {arguments : List String} {config python : Option String} {w : World} {moduleName : ModuleName}
  {m : ParsedModule}
  {values : List Json} {e : Error}

/-- The client that posts a call. -/
def PreparedCall.client (c : PreparedCall file function arguments config python w)
    (endpoint : SessionEndpoint) : Client :=
  ⟨endpoint, .ofId file.shown, c.source, c.options.wire⟩

/-- A call that is accepted is one of an exported function, with as many values as it takes. -/
theorem exists_of_checkCall_ok (h : checkCall moduleName m function values = .ok script) :
    ∃ f, m.find? function = some f ∧ values.length = f.arity := by
  unfold checkCall at h
  split at h
  · cases h
  · next f hf =>
    refine ⟨f, hf, Decidable.not_not.1 fun hlength => ?_⟩
    have hrefused : Session.callScript f.name f.parameters values =
        .error (.arityMismatch f.name f.parameters.length values.length) := if_pos hlength
    rw [hrefused] at h
    cases h

/-- A call is refused for the name or for the number of values, and for nothing else. -/
theorem of_checkCall_error (h : checkCall moduleName m function values = .error e) :
    m.find? function = none ∨ ∃ f, m.find? function = some f ∧ values.length ≠ f.arity := by
  unfold checkCall at h
  split at h
  · next hnone => exact .inl hnone
  · next f hf =>
    refine .inr ⟨f, hf, fun hlength => ?_⟩
    have hlength' : ¬values.length ≠ f.parameters.length := fun hne => hne hlength
    rw [Session.callScript, if_neg hlength'] at h
    cases h

/-- A call that has all it needs met no obstacle. -/
theorem PreparedCall.not_obstacle (c : PreparedCall file function arguments config python w) :
    ¬Obstacle file function arguments config python w := by
  obtain ⟨hcount, hjson⟩ := Session.of_argumentsFrom_ok c.values_eq
  obtain ⟨f, hf, hlength⟩ := exists_of_checkCall_ok c.script_eq
  intro hobstacle
  cases hobstacle with
  | notJson hmem h =>
    obtain ⟨v, hv⟩ := hjson _ hmem
    cases h.symm.trans hv
  | unreadable h => cases h.symm.trans c.source_eq
  | unintrospected h => cases h.symm.trans c.module_eq
  | notExported hm h =>
    cases hm.symm.trans c.module_eq
    cases h.symm.trans hf
  | wrongCount hm hf' h =>
    cases hm.symm.trans c.module_eq
    cases hf'.symm.trans hf
    exact h (hcount.symm.trans hlength)

/-! ## What is posted -/

/-- An accepted registration goes on with the module. -/
theorem awaitRegistration_of_ok {m m' : RemoteModule} {response : RegisterResponse}
    {network : Network} (h : m.waitRegistered w.network = (.ok response, m', network)) :
    awaitRegistration m w = (.ok m', { w with network := network }) := by
  rw [awaitRegistration, h]

/-- A registration that is not accepted fails as such. -/
theorem awaitRegistration_of_error {m m' : RemoteModule} {network : Network}
    (h : m.waitRegistered w.network = (.error e, m', network)) :
    awaitRegistration m w = (.error (.within "module registration failed" (.error e)),
      { w with network := network }) := by
  rw [awaitRegistration, h]

/-- How a call ends in a world: at an obstacle, or after an exchange. -/
inductive Settled (endpoint : SessionEndpoint) (file : GivenPath) (function : String)
    (arguments : List String) (config python : Option String) (w : World) :
    Except Failure ExecuteResponse × World → Prop
  | hindered (h : Obstacle file function arguments config python w) (failure : Failure)
      (launched : List Launch) :
      Settled endpoint file function arguments config python w
        (.error failure, { w with launched := launched })
  | posted (c : PreparedCall file function arguments config python w)
      {requests : List Session.Request} {taken : Option ExecuteResponse}
      (h : Exchange (c.client endpoint) c.script w.network requests taken) (failure : Failure)
      (launched : List Launch) :
      Settled endpoint file function arguments config python w
        (taken.elim (.error failure) .ok,
          { w with launched := launched, network := w.network.after requests })

/-- A call that has all it needs is posted. -/
theorem settled_of_prepared (c : PreparedCall file function arguments config python w)
    (endpoint : SessionEndpoint) (launched : List Launch) :
    Settled endpoint file function arguments config python w
      (((Run.ofExcept (RemoteModule.connect true (c.client endpoint) c.module.functions)).andThen
        fun m => (awaitRegistration m).andThen fun m => .onNetwork (m.call function c.values))
          { w with launched := launched }) := by
  have hconnect : RemoteModule.connect true (c.client endpoint) c.module.functions =
      .ok ⟨c.client endpoint, c.module.functions, .pending, true⟩ := rfl
  rw [hconnect, Run.andThen_of_ok (Run.ofExcept_ok _ _)]
  obtain ⟨requests, taken, e, m, hexchange, ⟨hwait, rfl⟩ | ⟨response, posted, hwait, hcall⟩⟩ :=
    RemoteModule.exchange_of_connect hconnect c.script_eq w.network
  · have hregister := awaitRegistration_of_error (w := { w with launched := launched }) hwait
    rw [Run.andThen_of_error hregister]
    exact .posted c hexchange _ launched
  · have hregister := awaitRegistration_of_ok (w := { w with launched := launched }) hwait
    have hrun : Run.onNetwork (m.call function c.values)
        { w with launched := launched, network := w.network.after posted } =
        (taken.elim (.error (.error e)) .ok,
          { w with launched := launched, network := w.network.after requests }) := by
      simp only [Run.onNetwork, hcall]
      cases taken <;> rfl
    rw [Run.andThen_of_ok hregister, hrun]
    exact .posted c hexchange _ launched

/-- A call of a module that was introspected is posted if the module has the function and takes the
arguments. -/
theorem settled_of_introspected {options : LoaderOptions} {source : String}
    (hoptions : LoaderOptions.loadFrom w.files config = .ok options)
    (hvalues : Session.parseArguments arguments = .ok values)
    (hsource : w.files.readPath file = .ok source)
    (hm : (runIntrospect file config python w).1 = .ok m) (launched : List Launch) :
    Settled endpoint file function arguments config python w
      (((Run.ofExcept (checkCall (.ofId file.shown) m function values)).andThen fun _ =>
        (Run.ofExcept (RemoteModule.connect true
          ⟨endpoint, .ofId file.shown, source, options.wire⟩ m.functions)).andThen fun remote =>
          (awaitRegistration remote).andThen fun remote =>
            .onNetwork (remote.call function values)) { w with launched := launched }) := by
  rcases hcheck : checkCall (.ofId file.shown) m function values with e | script
  · rw [Run.andThen_of_error (Run.ofExcept_error e _)]
    rcases of_checkCall_error hcheck with hnone | ⟨f, hf, hlength⟩
    · exact .hindered (.notExported hm hnone) _ launched
    · have hcount := (Session.of_argumentsFrom_ok hvalues).1
      exact .hindered (.wrongCount hm hf fun h => hlength (hcount.trans h)) _ launched
  rw [Run.andThen_of_ok (Run.ofExcept_ok script _)]
  exact settled_of_prepared
    ⟨options, values, source, m, script, hoptions, hvalues, hsource, hm, hcheck⟩ endpoint launched

/-- What comes before the registration meets an obstacle or leaves files and network alone. -/
theorem settled_runCall (endpoint : SessionEndpoint) (file : GivenPath) (function : String)
    (arguments : List String) (config python : Option String) (w : World) :
    Settled endpoint file function arguments config python w
      (runCall endpoint file function arguments config python w) := by
  rw [runCall]
  rcases hoptions : LoaderOptions.loadFrom w.files config with failure | options
  · have hfailed : (runIntrospect file config python w).1 = .error failure := by
      rw [runIntrospect, Run.andThen_of_error (Run.options_of_error hoptions)]
    rw [Run.andThen_of_error (Run.options_of_error hoptions)]
    exact .hindered (.unintrospected hfailed) failure w.launched
  rw [Run.andThen_of_ok (Run.options_of_ok hoptions)]
  rcases hvalues : Session.parseArguments arguments with e | values
  · obtain ⟨text, hmem, e', hfault⟩ := Session.exists_of_argumentsFrom_error hvalues
    exact .hindered (.notJson hmem hfault) (.error e) w.launched
  rw [Run.andThen_of_ok (Run.ofExcept_ok values w)]
  rcases hsource : w.files.readPath file with failure | source
  · rw [Run.andThen_of_error (Run.readSource_of_error hsource)]
    exact .hindered (.unreadable hsource) _ w.launched
  rw [Run.andThen_of_ok (Run.readSource_of_ok hsource)]
  rcases hchosen : Interpreter.choose w.which (python <|> options.python) with e | interpreter
  · have hfailed : (runIntrospect file config python w).1 = .error (.error e) := by
      rw [runIntrospect, Run.andThen_of_ok (Run.options_of_ok hoptions),
        Run.andThen_of_error (Run.interpreter_of_error hchosen)]
    rw [Run.andThen_of_error (Run.interpreter_of_error hchosen)]
    exact .hindered (.unintrospected hfailed) _ w.launched
  rw [Run.andThen_of_ok (Run.interpreter_of_ok hchosen)]
  have hintrospect : runIntrospect file config python w = Run.introspect interpreter source w := by
    rw [runIntrospect, Run.andThen_of_ok (Run.options_of_ok hoptions),
      Run.andThen_of_ok (Run.interpreter_of_ok hchosen),
      Run.andThen_of_ok (Run.readSource_of_ok hsource)]
  have hchange : (Run.introspect interpreter source w).2 =
      { w with launched := w.launched ++ [interpreter.launchFor source] } := rfl
  rcases hmodule : Run.introspect interpreter source w with ⟨failure | m, w'⟩
  · rw [hmodule] at hintrospect hchange
    rw [Run.andThen_of_error hmodule, show w' = _ from hchange]
    exact .hindered (.unintrospected (congrArg Prod.fst hintrospect)) failure _
  rw [hmodule] at hintrospect hchange
  rw [Run.andThen_of_ok hmodule, show w' = _ from hchange]
  exact settled_of_introspected hoptions hvalues hsource (congrArg Prod.fst hintrospect) _

/-- What a run leaves behind that gives a value or fails. -/
theorem finish_of_eq (display : Display) (toJson : α → Json) {run : Run α} (taken : Option α)
    {failure : Failure} {w' : World} (h : run w = (taken.elim (.error failure) .ok, w')) :
    (display.finish toJson run w).world = w' ∧
      ((display.finish toJson run w).exit = .success ↔ taken.isSome) := by
  rw [Display.finish, h]
  cases taken with
  | none => exact ⟨rfl, fun h => absurd h failure.exitCode_ne_success, nofun⟩
  | some x => exact ⟨rfl, fun _ => rfl, fun _ => rfl⟩

/-- A call posts nothing, a registration, or a registration and the script of the call, and it
leaves the files alone. Nothing is posted if an argument is no JSON, the file is not read or
introspected, or its module has no such function or one that takes another number of arguments. If
nothing keeps the call from being posted, the script is the one that was made before, and the checks
that are made again before it is posted do not fail. The call ends well exactly if both requests are
posted and accepted. A request that is sent on to another address is one request here: what the
outcome of a request is, is decided behind the network. Reference: `call::run`. -/
theorem call_posts (endpoint : SessionEndpoint) (file : GivenPath) (function : String)
    (arguments : List String) (config python : Option String) (display : Display) (w : World) :
    ∃ requests,
      let ending := (Command.call endpoint file function arguments config python).run display w
      ending.world.files = w.files ∧ ending.world.network = w.network.after requests ∧
        (Obstacle file function arguments config python w → requests = []) ∧
        (¬Obstacle file function arguments config python w →
          ∃ (c : PreparedCall file function arguments config python w)
            (taken : Option ExecuteResponse),
            Exchange (c.client endpoint) c.script w.network requests taken ∧
            ∀ m, RemoteModule.connect true (c.client endpoint) c.module.functions = .ok m →
              (m.waitRegistered w.network).2.1.scriptFor function c.values = .ok c.script) ∧
        (ending.exit = .success ↔ ∃ first second, requests = [first, second] ∧
          (w.network.accepted? RegisterResponse.shape [first]).isSome ∧
          (w.network.accepted? ExecuteResponse.shape [first, second]).isSome) := by
  generalize hresult : runCall endpoint file function arguments config python w = result
  have hsettled := settled_runCall endpoint file function arguments config python w
  rw [hresult] at hsettled
  cases hsettled with
  | hindered hobstacle failure launched =>
    obtain ⟨hworld, hexit⟩ := finish_of_eq display ExecuteResponse.shape.toJson none hresult
    have hfiles := congrArg World.files hworld
    have hnetwork := congrArg World.network hworld
    refine ⟨[], hfiles, ?_, fun _ => rfl, fun h => absurd hobstacle h, hexit.trans ?_⟩
    · rw [Network.after_nil]
      exact hnetwork
    · simp
  | posted c hexchange failure launched =>
    obtain ⟨hworld, hexit⟩ := finish_of_eq display ExecuteResponse.shape.toJson _ hresult
    have hfiles := congrArg World.files hworld
    have hnetwork := congrArg World.network hworld
    refine ⟨_, hfiles, hnetwork, fun h => absurd h c.not_obstacle,
      fun _ => ⟨c, _, hexchange, fun m hm => ?_⟩, hexit.trans hexchange.isSome_iff⟩
    obtain ⟨m', hwait, -, hscript⟩ := RemoteModule.waitRegistered_connect hm w.network
    rw [hwait, hscript]
    cases hm
    exact c.script_eq

end

end Command

end ModuleBridge
