import ModuleBridge.Files.Path

/-!
# File systems

A file system maps places to files and directories. A place is the list of the names on the way to
it, the innermost first. `get?` is the view through which everything else is stated. The name of a
temporary file is drawn, so that no file that is there has it.

The disk under a system may fail where the system finds nothing wrong. Which faults it will have is
part of the system: each file that is filled takes the next entry of a list, and each file that is
renamed the next one of another list. Past the end of a list there are no faults.
-/

namespace ModuleBridge.Files

/-- The name of a file in its directory. -/
inductive FileName
  | named (text : String)
  /-- A drawn name, for a file that will be given the name of a target. -/
  | temporary (target : Option String) (draw : Nat)
  deriving DecidableEq, Repr

/-- What a temporary file for a target is called in front of what is drawn. -/
def temporaryPrefix (target : Option String) : String :=
  match target with
  | some name => s!".{name}."
  | none => ".pyloader."

/-- The text of a name. What is drawn shows as six crosses. -/
def FileName.text : FileName → String
  | .named text => text
  | .temporary target _ => temporaryPrefix target ++ "XXXXXX.tmp"

/-- Where a file is: the names on the way to it, the innermost first. The root is the empty list. -/
abbrev Place := List FileName

/-- What can be at a place. -/
inductive Node
  | file (contents : List UInt8)
  | directory
  deriving DecidableEq, Repr

/-- What goes wrong when a new file is made and filled. -/
inductive Fault
  /-- The file cannot be made. -/
  | make (failure : SystemFailure)
  /-- Only so many bytes can be written. -/
  | write (count : Nat) (failure : SystemFailure)
  /-- All bytes are written, but they cannot be brought to the disk. -/
  | sync (failure : SystemFailure)
  deriving DecidableEq, Repr

namespace Fault

/-- Does the fault stop a file with some contents? Writing stops only if bytes are left to write. -/
def stops (contents : List UInt8) : Fault → Bool
  | .write count _ => count < contents.length
  | .make _ | .sync _ => true

/-- The error that is seen of a fault: that of a file that is not made names the target, and the
others name the file. -/
def error (path fullPath : String) : Fault → Error
  | .make failure => .file path (.met failure fullPath)
  | .write _ failure => .file fullPath (.met failure fullPath)
  | .sync failure => .file fullPath failure

end Fault

/-- The faults that a disk will have, if any, for each file that is made and filled and for each
file that is renamed from now on. -/
structure Disk where
  fills : List (Option Fault) := []
  renames : List (Option SystemFailure) := []
  deriving DecidableEq, Repr

/-- The files and directories of a system, without the root. -/
structure FileSystem where
  entries : List (Place × Node) := []
  /-- The working directory. -/
  working : Place := []
  /-- The paths that are no texts and lead to something, with the bytes that are read there or the
  reason why nothing is. Every path that is written to is a text, so these stay as they are. -/
  foreign : List (List UInt8 × Except SystemFailure (List UInt8)) := []
  /-- The faults that are still to come. -/
  disk : Disk := {}
  deriving Repr

namespace FileSystem

/-- What is at a place. The root is a directory. -/
def get? (fs : FileSystem) (place : Place) : Option Node :=
  match place with
  | [] => some .directory
  | _ :: _ => (fs.entries.find? (·.1 = place)).map (·.2)

/-- The system after a node was put at a place. -/
def put (fs : FileSystem) (place : Place) (node : Node) : FileSystem :=
  { fs with entries := (place, node) :: fs.entries.filter (·.1 ≠ place) }

/-- The system after what was at a place has been taken away. -/
def erase (fs : FileSystem) (place : Place) : FileSystem :=
  { fs with entries := fs.entries.filter (·.1 ≠ place) }

/-- The system after some more files were filled, as far as the disk is concerned. -/
def afterFills (fs : FileSystem) (count : Nat) : FileSystem :=
  { fs with disk := { fs.disk with fills := fs.disk.fills.drop count } }

/-- The system after some more files were renamed, as far as the disk is concerned. -/
def afterRenames (fs : FileSystem) (count : Nat) : FileSystem :=
  { fs with disk := { fs.disk with renames := fs.disk.renames.drop count } }

/-- The fault that stops the next file from being filled with some contents. -/
def fillFault? (fs : FileSystem) (contents : List UInt8) : Option Fault :=
  fs.disk.fills.head?.join.filter (·.stops contents)

/-- The system when a fault has stopped a file with some contents, with what has been written of the
file. -/
def stopped (fs : FileSystem) (place : Place) (contents : List UInt8) : Fault → FileSystem
  | .make _ => fs
  | .write count _ => fs.put place (.file (contents.take count))
  | .sync _ => fs.put place (.file contents)

/-- The failure that keeps the next file from being renamed. -/
def renameFault? (fs : FileSystem) : Option SystemFailure :=
  fs.disk.renames.head?.join

/-- One more than the number that was drawn for the name of a place, if it has such a name. -/
def drawBound : Place → Nat
  | .temporary _ draw :: _ => draw + 1
  | _ => 0

/-- A number that was drawn for no file that is there. -/
def unusedDraw (fs : FileSystem) : Nat :=
  (fs.entries.map fun e => drawBound e.1).foldr max 0

/-- Is nothing in the directory at a place? -/
def isEmptyAt (fs : FileSystem) (place : Place) : Bool :=
  fs.entries.all (·.1.tail ≠ place)

/-- Is the name longer than any file's? -/
def isTooLong (name : String) : Bool :=
  nameLimit < name.utf8ByteSize

/-- Takes a step from a directory to another one. -/
def step (fs : FileSystem) (place : Place) : Step → Except SystemFailure Place
  | .stay => .ok place
  | .up => .ok place.tail
  | .down name =>
    if isTooLong name then .error .nameTooLong
    else
      match fs.get? (.named name :: place) with
      | none => .error .notFound
      | some .directory => .ok (.named name :: place)
      | some (.file _) => .error .notADirectory

/-- Where a path begins. -/
def start (fs : FileSystem) (path : Path) : Place :=
  if path.isAbsolute then [] else fs.working

/-- The directory at the end of some steps. -/
def directory (fs : FileSystem) (place : Place) (steps : List Step) : Except SystemFailure Place :=
  steps.foldlM fs.step place

/-- The directory at the end of a path. -/
def directoryAt (fs : FileSystem) (path : Path) : Except SystemFailure Place :=
  fs.directory (fs.start path) path.steps

/-- Where the last step of a path leads. -/
inductive Target
  /-- To a directory that it does not name. -/
  | unnamed (place : Place)
  /-- To a name in a directory. -/
  | named (parent : Place) (name : String)

/-- The directory and the name to which a path leads, whether or not anything is there. -/
def target (fs : FileSystem) (path : Path) : Except SystemFailure Target :=
  match path.steps.getLast? with
  | some (.down name) => do
    let parent ← fs.directory (fs.start path) path.steps.dropLast
    if isTooLong name then .error .nameTooLong else .ok (.named parent name)
  | _ => do return .unnamed (← fs.directoryAt path)

/-- What a path leads to, and where that is. -/
def find (fs : FileSystem) (text : String) : Except SystemFailure (Place × Node) := do
  let path ← Path.ofText? text
  match ← fs.target path with
  | .unnamed place => return (place, .directory)
  | .named parent name =>
    match fs.get? (.named name :: parent) with
    | none => throw .notFound
    | some (.file contents) =>
      if path.endsInSlash then throw .notADirectory
      else return (.named name :: parent, .file contents)
    | some .directory => return (.named name :: parent, .directory)

/-- Does a path lead to a directory? -/
def isDirectory (fs : FileSystem) (text : String) : Bool :=
  match fs.find text with
  | .ok (_, .directory) => true
  | _ => false

/-- Does a path lead to a file? -/
def isFile (fs : FileSystem) (text : String) : Bool :=
  match fs.find text with
  | .ok (_, .file _) => true
  | _ => false

/-- The bytes of the file at a path. -/
def read (fs : FileSystem) (text : String) : Except SystemFailure (List UInt8) := do
  match ← fs.find text with
  | (_, .file contents) => return contents
  | (_, .directory) => throw .isADirectory

/-- The text that some bytes of a file are. -/
def textOf (contents : List UInt8) : Except SystemFailure String :=
  match Text.Utf8.text? contents with
  | some text => .ok text
  | none => .error .notText

/-- The text of the file at a path. -/
def readText (fs : FileSystem) (text : String) : Except SystemFailure String := do
  textOf (← fs.read text)

/-- The text of the file at a path that is a text or none. Reference: `read_source`. -/
def readPath (fs : FileSystem) : GivenPath → Except SystemFailure String
  | .text path => fs.readText path
  | .raw bytes _ =>
    match fs.foreign.find? (·.1 = bytes) with
    | some (_, contents) => contents >>= textOf
    | none => .error .notFound

@[simp] theorem readPath_text (fs : FileSystem) (path : String) :
    fs.readPath (.text path) = fs.readText path := rfl

/-- Makes an empty directory. -/
def makeDirectory (fs : FileSystem) (text : String) : Except SystemFailure FileSystem := do
  match ← fs.target (← Path.ofText? text) with
  | .unnamed _ => throw .alreadyExists
  | .named parent name =>
    let place : Place := .named name :: parent
    if (fs.get? place).isSome then throw .alreadyExists
    return fs.put place .directory

/-- Writes a file in place, over the one that is there. -/
def write (fs : FileSystem) (text : String) (contents : List UInt8) :
    Except SystemFailure FileSystem := do
  let path ← Path.ofText? text
  match ← fs.target path with
  | .unnamed _ => throw .isADirectory
  | .named parent name =>
    let place : Place := .named name :: parent
    if path.endsInSlash || fs.get? place = some .directory then throw .isADirectory
    return fs.put place (.file contents)

/-- Removes a file. -/
def removeFile (fs : FileSystem) (text : String) : Except SystemFailure FileSystem := do
  match ← fs.find text with
  | (place, .file _) => return fs.erase place
  | (_, .directory) => throw .isADirectory

/-- Removes a file, or an empty directory that is given by its name. -/
def remove (fs : FileSystem) (text : String) : Except SystemFailure FileSystem := do
  match ← fs.find text with
  | (place, .file _) => return fs.erase place
  | (place, .directory) =>
    match (Path.ofText text).steps.getLast? with
    | some (.down _) =>
      if fs.isEmptyAt place then return fs.erase place else throw .directoryNotEmpty
    | some .up => throw .directoryNotEmpty
    | some .stay => throw .invalid
    | none => throw .busy

/-- The path of a place, from the root down. -/
def placeText (place : Place) : String :=
  "/" ++ Text.joinWith "/" (place.reverse.map FileName.text)

/-- What lies below the working directory, each with its path from there. -/
def listing (fs : FileSystem) : List (String × Node) :=
  fs.entries.filterMap fun (place, node) =>
    if fs.working.isSuffixOf place && place ≠ fs.working then
      let inner := place.take (place.length - fs.working.length)
      some (Text.joinWith "/" (inner.reverse.map FileName.text), node)
    else none

end FileSystem

end ModuleBridge.Files
