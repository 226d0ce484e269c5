import ModuleBridge.Command.Run
import ModuleBridge.Source.Answer
import ModuleBridge.Source.Exports

/-!
# The program

The program loads the files that a command line speaks of, runs the command on them, and writes back
what has changed. It introspects sources itself instead of starting an interpreter, and it has no
way to a network, so that every request remains without a connection.
-/

namespace ModuleBridge.Main

open Files (FileSystem FileName Path Place Node)

/-- The place to which a path leads if the names in it are those of directories. -/
def placeOf (working : Place) (path : Path) : Place :=
  path.steps.foldl (fun place step => match step with
    | .stay => place
    | .up => place.tail
    | .down name => .named name :: place) (if path.isAbsolute then [] else working)

/-- The files with directories on the way to a place. -/
def withDirectories (files : FileSystem) : Place → FileSystem
  | [] => files
  | name :: place =>
    let files := withDirectories files place
    if (files.get? (name :: place)).isSome then files else files.put (name :: place) .directory

/-- The paths that a command line may lead to: its words, what is written next to them, and the
default configuration. -/
def pathsOf (words : List String) : List String :=
  LoaderOptions.defaultFile ::
    words.flatMap fun word => [word, Files.siblingPath word ".js", Files.siblingPath word ".d.ts"]

/-- The answer of the helper for a source. -/
def answerOf (source : String) : Source.Answer :=
  match Source.exportsOf? source with
  | some functions => .ok functions
  | none => .error "invalid syntax"

/-- Answers in place of an interpreter. -/
def launcher : Launcher := fun launch =>
  let answer :=
    match Text.Utf8.text? launch.input with
    | some source => answerOf source
    | none => .error "invalid source"
  .ok {
    status := .code 0
    output := Text.Utf8.bytes (Source.Answer.line answer)
    errors := [] }

/-- A network in which nothing can be reached. -/
def network : Session.Network where
  outcome _ := .unconnected (.other "Network is unreachable (os error 101)")

/-- What is at a path. -/
def nodeAt (path : String) : IO (Option Node) := do
  let file := (← IO.currentDir) / path
  if ← file.isDir then return some .directory
  else if ← file.pathExists then return some (.file (← IO.FS.readBinFile file).toList)
  else return none

/-- Loads what is at a path. -/
def load (files : FileSystem) (path : String) : IO FileSystem := do
  match ← nodeAt path with
  | none => return files
  | some node =>
    let place := placeOf files.working (Path.ofText path)
    return (withDirectories files place.tail).put place node

/-- Writes what a command has changed. -/
def store (before after : FileSystem) : IO Unit := do
  for (place, node) in after.entries do
    if before.get? place ≠ some node then
      match node with
      | .file contents =>
        IO.FS.writeBinFile (FileSystem.placeText place) ⟨contents.toArray⟩
      | .directory => pure ()

/-- The variables that a command looks at. -/
def environment : IO Environment := do
  let names := [Command.pythonVariable, Command.endpointVariable, "CLICOLOR_FORCE"]
  let values ← names.mapM fun name => IO.getEnv name
  return (names.zip values).filterMap fun (name, value) => value.map (name, ·)

/-- Runs a command line and gives its exit code. -/
def run (words : List String) : IO UInt32 := do
  let working := placeOf [] (Path.ofText (toString (← IO.currentDir)))
  let files ← (pathsOf words).foldlM load (withDirectories { working } working)
  let ending := Command.runLine (← environment) words
    { files, network, launch := launcher, which := some }
  store files ending.world.files
  IO.print ending.output
  IO.eprint ending.errors
  return ending.exit.value.toNat.toUInt32

end ModuleBridge.Main

/-- Runs the command line that the program was started with. -/
def main (words : List String) : IO UInt32 := ModuleBridge.Main.run words
