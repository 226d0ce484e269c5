import ModuleBridge.Files.FileSystem

/-!
# Writing files in one step

A file is first written under a drawn name in the directory of its target and then given the
target's name, so that nobody sees it half written. `writeFiles` stages a whole list before it
commits the first of them, and takes away what it has committed if a later commit fails. Each
operation takes the faults that the disk has for it: a file may not be made, or stop half way while
it is filled, and a rename may fail. Files that are taken away are taken away without faults.
-/

namespace ModuleBridge.Files

/-- A file that has been written under a drawn name and waits for the name of its target.
Reference: `StagedFile`. -/
structure Staged where
  /-- The path of the target. -/
  path : String
  /-- Where the file is. -/
  place : Place
  deriving Repr

/-- What an operation on a file system gives, and the system after it. -/
abbrev Effect (α : Type) := FileSystem → Except Error α × FileSystem

namespace Effect

/-- An operation that fails and changes nothing. -/
def fail (e : Error) : Effect α := fun fs => (.error e, fs)

/-- An operation that gives a value and changes nothing. -/
def pure (x : α) : Effect α := fun fs => (.ok x, fs)

/-- One operation after another one. -/
def andThen (first : Effect α) (second : α → Effect β) : Effect β := fun fs =>
  match first fs with
  | (.ok x, fs) => second x fs
  | (.error e, fs) => (.error e, fs)

end Effect

namespace Staged

/-- The path from the root by which a new file with a name is made in the directory of a path. -/
def fullPath (fs : FileSystem) (text : String) (name : FileName) : String :=
  let front := Path.parentText text
  let front :=
    if (Path.ofText front).isAbsolute then front
    else Path.below (FileSystem.placeText fs.working) front
  Path.below front name.text

/-- The name under which a new file is made for a path. -/
def newName (fs : FileSystem) (text : String) : FileName :=
  .temporary (Path.ofText text).fileName? fs.unusedDraw

/-- The place of a new file in the directory of a path, under a drawn name. The file is made by its
path from the root, which may be too long where the path itself is not. Reference: `tempfile_in`. -/
def draw (fs : FileSystem) (text : String) : Except SystemFailure Place :=
  let name := newName fs text
  let fullPath := fullPath fs text name
  if text.toList.contains '\x00' then .error (.met .nulInPath fullPath)
  else if pathLimit < fullPath.utf8ByteSize then .error (.met .nameTooLong fullPath)
  else
    match fs.directoryAt (Path.ofText (Path.parentText text)) with
    | .error failure => .error (.met failure fullPath)
    | .ok directory =>
      if FileSystem.isTooLong name.text then .error (.met .nameTooLong fullPath)
      else .ok (name :: directory)

/-- Takes a staged file away. Reference: dropping a `StagedFile`. -/
def discard (staged : Staged) (fs : FileSystem) : FileSystem :=
  fs.erase staged.place

/-- Writes a text to a temporary file next to a path. A file that cannot be filled is taken away,
and the error names it. Reference: `stage`. -/
def stage (path contents : String) : Effect Staged := fun fs =>
  if fs.isDirectory path then (.error (.file path .targetIsDirectory), fs)
  else
    match draw fs path with
    | .error failure => (.error (.file path failure), fs)
    | .ok place =>
      let staged : Staged := ⟨path, place⟩
      let bytes := Text.Utf8.bytes contents
      match fs.fillFault? bytes with
      | none => (.ok staged, (fs.put place (.file bytes)).afterFills 1)
      | some fault =>
        (.error (fault.error path (fullPath fs path (newName fs path))),
          staged.discard ((fs.stopped place bytes fault).afterFills 1))

/-- Gives the file at a place the name that a path leads to. -/
def move (fs : FileSystem) (place : Place) (text : String) : Except SystemFailure FileSystem := do
  let path ← Path.ofText? text
  match ← fs.target path with
  | .unnamed _ => throw .busy
  | .named parent name =>
    if path.endsInSlash then throw .notADirectory
    let goal : Place := .named name :: parent
    match fs.get? goal, fs.get? place with
    | some .directory, _ => throw .isADirectory
    | _, some node => return (fs.erase place).put goal node
    | _, none => throw .notFound

/-- Gives the file at a place the name that a path leads to, if the disk lets it. -/
def rename (fs : FileSystem) (place : Place) (text : String) : Except SystemFailure FileSystem :=
  match fs.renameFault? with
  | none => move fs place text
  | some failure => .error failure

/-- Gives a staged file the name of its target, in place of the file that has it. If that fails, the
staged file is gone. Reference: `StagedFile::commit`. -/
def commit (staged : Staged) : Effect String := fun fs =>
  match rename fs staged.place staged.path with
  | .ok renamed => (.ok staged.path, renamed.afterRenames 1)
  | .error failure => (.error (.file staged.path failure), staged.discard (fs.afterRenames 1))

end Staged

/-- Writes a text to a file in one step. Reference: `write_atomic`. -/
def writeAtomic (path contents : String) : Effect Unit :=
  (Staged.stage path contents).andThen fun staged =>
    staged.commit.andThen fun _ => .pure ()

/-- Takes staged files away. -/
def discardAll (staged : List Staged) (fs : FileSystem) : FileSystem :=
  staged.foldl (fun fs s => s.discard fs) fs

/-- Removes files. One that cannot be removed stays. -/
def removeAll (paths : List String) (fs : FileSystem) : FileSystem :=
  paths.foldl (fun fs path => (fs.removeFile path).toOption.getD fs) fs

/-- Stages files in their order. If one cannot be staged, those before it are taken away. -/
def stageAll (files : List (String × String)) : Effect (List Staged) := fun fs =>
  go [] files fs
where
  /-- Stages files after others, which are given in reverse. -/
  go (done : List Staged) : List (String × String) → Effect (List Staged)
    | [], fs => (.ok done.reverse, fs)
    | (path, contents) :: rest, fs =>
      match Staged.stage path contents fs with
      | (.ok staged, fs) => go (staged :: done) rest fs
      | (.error e, fs) => (.error e, discardAll done fs)

/-- Commits staged files in their order. If a commit fails, the targets committed before it are
removed and the staged files after it are taken away. -/
def commitAll (staged : List Staged) : Effect Unit := fun fs =>
  go [] staged fs
where
  /-- Commits staged files after others, whose targets are given. -/
  go (committed : List String) : List Staged → Effect Unit
    | [], fs => (.ok (), fs)
    | s :: rest, fs =>
      match s.commit fs with
      | (.ok path, fs) => go (committed ++ [path]) rest fs
      | (.error e, fs) => (.error e, discardAll rest (removeAll committed fs))

/-- Writes each text to its path. All are staged before the first is committed. Reference:
`write_files`. -/
def writeFiles (files : List (String × String)) : Effect Unit :=
  (stageAll files).andThen commitAll

end ModuleBridge.Files
