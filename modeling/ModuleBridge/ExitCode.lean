/-!
# Exit codes

How the program tells the shell what became of a run.
-/

namespace ModuleBridge

/-- The number a run of the program ends with. Reference: `ExitCode`. -/
structure ExitCode where
  value : Int
  deriving DecidableEq, Repr

namespace ExitCode

/-- All went well. Reference: `SUCCESS`. -/
def success : ExitCode := ⟨0⟩

/-- Something failed that has no code of its own. Reference: `ERROR`. -/
def failure : ExitCode := ⟨1⟩

/-- The user asked for something that cannot be done. Reference: `INVALID_INPUT`. -/
def invalidInput : ExitCode := ⟨2⟩

/-- The session server did not answer as it should. Reference: `SERVER_ERROR`. -/
def serverFailure : ExitCode := ⟨3⟩

/-- The source could not be introspected. Reference: `INTROSPECTION_ERROR`. -/
def introspectionFailure : ExitCode := ⟨4⟩

/-- Did all go well? Reference: `is_success`. -/
def isSuccess (code : ExitCode) : Bool :=
  code.value = 0

end ExitCode

end ModuleBridge
