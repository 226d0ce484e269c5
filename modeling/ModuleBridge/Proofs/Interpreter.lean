import ModuleBridge.Interpreter

/-!
# How an introspection ends

A process can fail to start, to take its input, to be waited for, to end well and to answer with a
document, and the document can carry an error. The first of these that happens is what the
introspection ends with (`Ends`): only after all of the others is the document looked at. So a
module is returned exactly if a process that ran well reports it without an error
(`introspect_outcome`).
-/

namespace ModuleBridge.Interpreter

/-- The process has read its input, or as much of it as it wanted. -/
def InputTaken (completed : Completed) : Prop :=
  completed.written = .ok () ∨ completed.written = .error .brokenPipe

/-- The process took its input and ended well. -/
structure RanWell (completed : Completed) : Prop where
  taken : InputTaken completed
  status : completed.status = .code 0

/-- The process was started and ran well, and what it wrote is a document for the module. -/
def Reports (launched : Except SystemFailure Completed) (m : ParsedModule) : Prop :=
  ∃ completed, launched = .ok completed ∧ RanWell completed ∧
    ParsedModule.shape.parse completed.output = .ok m

/-- What the process wrote of errors, without blanks around it. -/
def errorText (completed : Completed) : String :=
  String.ofList (Text.trimBlanks (Text.Utf8.decodeLossy completed.errors))

/-- How an introspection ends after what became of the process. -/
inductive Ends (interpreter : Interpreter) :
    Except SystemFailure Completed → Except Error ParsedModule → Prop
  | notStarted (failure : SystemFailure) :
    Ends interpreter (.error failure)
      (.error (interpreter.processError "failed to start interpreter" (some failure)))
  | notWritten {completed : Completed} {failure : SystemFailure}
    (written : completed.written = .error failure) (harmful : failure ≠ .brokenPipe) :
    Ends interpreter (.ok completed)
      (.error (interpreter.processError "failed to write source" (some failure)))
  | lost {completed : Completed} {failure : SystemFailure} (taken : InputTaken completed)
    (status : completed.status = .lost failure) :
    Ends interpreter (.ok completed)
      (.error (interpreter.processError "failed to wait for interpreter" (some failure)))
  | unsuccessful {completed : Completed} (taken : InputTaken completed)
    (known : ∀ failure, completed.status ≠ .lost failure) (status : completed.status ≠ .code 0) :
    Ends interpreter (.ok completed)
      (.error (interpreter.processError
        s!"exited with {completed.status.describe}: {errorText completed}" none))
  | unreadable {completed : Completed} {e : Json.Error} (ran : RanWell completed)
    (output : ParsedModule.shape.parse completed.output = .error e) :
    Ends interpreter (.ok completed)
      (.error (interpreter.processError s!"unreadable parser output: {e.message}" none))
  | refused {completed : Completed} {functions : List FunctionSignature} {message : String}
    (ran : RanWell completed)
    (output : ParsedModule.shape.parse completed.output = .ok ⟨functions, some message⟩) :
    Ends interpreter (.ok completed) (.error (.introspection message))
  | answered {completed : Completed} {functions : List FunctionSignature} (ran : RanWell completed)
    (output : ParsedModule.shape.parse completed.output = .ok ⟨functions, none⟩) :
    Ends interpreter (.ok completed) (.ok ⟨functions, none⟩)

section
variable {interpreter : Interpreter} {launch : Launcher} {source : String} {completed : Completed}
  {m : ParsedModule}

/-- Just a broken pipe is harmless. -/
theorem isHarmless_iff {failure : SystemFailure} :
    isHarmless failure = true ↔ failure = .brokenPipe := by
  cases failure <;> simp [isHarmless]

/-- Once the input is taken, what completed is read. -/
theorem introspect_of_taken (h : launch (interpreter.launchFor source) = .ok completed)
    (htaken : InputTaken completed) :
    interpreter.introspect launch source = interpreter.readCompleted completed := by
  rw [introspect, h]
  rcases htaken with hwritten | hwritten
  · simp only [hwritten]
  · simp only [hwritten, isHarmless, if_true]

/-- Of a process that ended well only the output is read. -/
theorem readCompleted_of_success (h : completed.status = .code 0) :
    interpreter.readCompleted completed =
      match ParsedModule.shape.parse completed.output with
      | .error e =>
        .error (interpreter.processError s!"unreadable parser output: {e.message}" none)
      | .ok m => m.toExcept := by
  rw [readCompleted, h]
  exact if_neg (by decide)

/-- What is read of a process that took its input is how the introspection ends. -/
theorem ends_readCompleted (htaken : InputTaken completed) :
    Ends interpreter (.ok completed) (interpreter.readCompleted completed) := by
  by_cases hsuccess : completed.status = .code 0
  · have hran : RanWell completed := ⟨htaken, hsuccess⟩
    rw [readCompleted_of_success hsuccess]
    cases houtput : ParsedModule.shape.parse completed.output with
    | error e => exact .unreadable hran houtput
    | ok m =>
      obtain ⟨functions, error⟩ := m
      cases error with
      | some message => exact .refused hran houtput
      | none => exact .answered hran houtput
  · unfold readCompleted
    split
    · next failure hlost => exact .lost htaken hlost
    · next hknown =>
      have hfailed : (!completed.status.isSuccess) = true := by
        rw [ExitStatus.isSuccess, decide_eq_false hsuccess]
        rfl
      rw [if_pos hfailed]
      exact .unsuccessful htaken hknown hsuccess

/-- The first thing that goes wrong is what an introspection ends with. -/
theorem ends_introspect (interpreter : Interpreter) (launch : Launcher) (source : String) :
    Ends interpreter (launch (interpreter.launchFor source))
      (interpreter.introspect launch source) := by
  cases hlaunch : launch (interpreter.launchFor source) with
  | error failure =>
    rw [introspect, hlaunch]
    exact .notStarted failure
  | ok completed =>
    by_cases htaken : InputTaken completed
    · rw [introspect_of_taken hlaunch htaken]
      exact ends_readCompleted htaken
    · obtain ⟨failure, hwritten, hharmful⟩ :
          ∃ failure, completed.written = .error failure ∧ failure ≠ .brokenPipe := by
        cases hwritten : completed.written with
        | ok => exact absurd (.inl hwritten) htaken
        | error failure => exact ⟨failure, rfl, fun h => htaken (.inr (h ▸ hwritten))⟩
      rw [introspect, hlaunch]
      simp only [hwritten, isHarmless_iff, hharmful, if_false]
      exact .notWritten hwritten hharmful

/-- What is reported is the answer, or the error that it carries. -/
theorem introspect_of_reports (h : Reports (launch (interpreter.launchFor source)) m) :
    interpreter.introspect launch source = m.toExcept := by
  obtain ⟨completed, hlaunch, hran, houtput⟩ := h
  rw [introspect_of_taken hlaunch hran.taken, readCompleted_of_success hran.status, houtput]

/-- **How an introspection ends.** A module is returned exactly if the process was started, took its
input, ended well and wrote one document for that module, without an error. An error of
introspection is returned exactly if the document carries its words, whatever functions stand beside
them. In every other case the process is at fault, with the words for the first thing that went
wrong. Reference: `SubprocessParser::parse`. -/
theorem introspect_outcome (interpreter : Interpreter) (launch : Launcher) (source : String) :
    (∀ m, interpreter.introspect launch source = .ok m ↔
      Reports (launch (interpreter.launchFor source)) m ∧ m.error = none) ∧
    (∀ message, interpreter.introspect launch source = .error (.introspection message) ↔
      ∃ functions, Reports (launch (interpreter.launchFor source)) ⟨functions, some message⟩) ∧
    ((∃ message cause,
        interpreter.introspect launch source = .error (.interpreter message cause)) ↔
      ∀ m, ¬Reports (launch (interpreter.launchFor source)) m) ∧
    Ends interpreter (launch (interpreter.launchFor source))
      (interpreter.introspect launch source) := by
  have hends := ends_introspect interpreter launch source
  refine ⟨fun m => ⟨fun h => ?_, ?_⟩, fun message => ⟨fun h => ?_, ?_⟩, ⟨?_, fun h => ?_⟩, hends⟩
  · rw [h] at hends
    generalize hlaunch : launch (interpreter.launchFor source) = launched at hends
    cases hends with
    | answered ran output => exact ⟨⟨_, rfl, ran, output⟩, rfl⟩
  · rintro ⟨hreports, herror⟩
    rw [introspect_of_reports hreports, ParsedModule.toExcept, herror]
  · rw [h] at hends
    generalize hlaunch : launch (interpreter.launchFor source) = launched at hends
    cases hends with
    | refused ran output => exact ⟨_, _, rfl, ran, output⟩
  · rintro ⟨functions, hreports⟩
    exact introspect_of_reports hreports
  · rintro ⟨message, cause, h⟩ m hreports
    rw [introspect_of_reports hreports, ParsedModule.toExcept] at h
    split at h <;> cases h
  · generalize launch (interpreter.launchFor source) = launched at hends h
    generalize interpreter.introspect launch source = result at hends
    cases hends with
    | notStarted | notWritten | lost | unsuccessful | unreadable => exact ⟨_, _, rfl⟩
    | refused ran output => exact absurd ⟨_, rfl, ran, output⟩ (h _)
    | answered ran output => exact absurd ⟨_, rfl, ran, output⟩ (h _)

end

end ModuleBridge.Interpreter
