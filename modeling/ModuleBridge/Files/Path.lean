import ModuleBridge.Error
import ModuleBridge.Text.Utf8

/-!
# Paths

A path is a list of steps, from the root or from the working directory: a step stays where it is,
goes up, or goes down to a name. Two paths with the same steps differ only in whether they end in a
slash, which asks for a directory.
-/

namespace ModuleBridge.Files

/-- One step of a path. -/
inductive Step
  | stay
  | up
  | down (name : String)
  deriving DecidableEq, Repr

/-- A path. -/
structure Path where
  isAbsolute : Bool
  steps : List Step
  /-- Does the path end in a slash? -/
  endsInSlash : Bool
  deriving DecidableEq, Repr

/-- The parts of some characters between slashes. -/
def splitAtSlashes : List Char → List (List Char)
  | [] => [[]]
  | c :: cs =>
    if c = '/' then [] :: splitAtSlashes cs
    else
      match splitAtSlashes cs with
      | [] => [[c]]
      | part :: parts => (c :: part) :: parts

/-- The step that a part stands for. An empty part is no step. -/
def Step.ofPart (part : List Char) : Option Step :=
  if part.isEmpty then none
  else if part = ['.'] then some .stay
  else if part = ['.', '.'] then some .up
  else some (.down (String.ofList part))

/-- The most bytes that a path may have. -/
def pathLimit : Nat := 4095

/-- The most bytes that a name may have. -/
def nameLimit : Nat := 255

namespace Path

/-- The path that a text stands for, whether or not a file could be there. -/
def ofText (text : String) : Path where
  isAbsolute := text.toList.head? = some '/'
  steps := (splitAtSlashes text.toList).filterMap Step.ofPart
  endsInSlash := text.toList.getLast? = some '/'

/-- The path that a text stands for, if the system takes the text at all. -/
def ofText? (text : String) : Except SystemFailure Path :=
  if text.toList.contains '\x00' then .error .nulInPath
  else if text.isEmpty then .error .notFound
  else if pathLimit < text.utf8ByteSize then .error .nameTooLong
  else .ok (ofText text)

/-- The steps without those that stay, apart from one at the front of a relative path. -/
def properSteps (path : Path) : List Step :=
  match path.steps with
  | [] => []
  | first :: rest =>
    let rest := rest.filter (· ≠ .stay)
    if first = .stay && path.isAbsolute then rest else first :: rest

/-- The name of the file, if the last step goes down. -/
def fileName? (path : Path) : Option String :=
  match path.properSteps.getLast? with
  | some (.down name) => some name
  | _ => none

/-- The characters of a path in reverse, without slashes and staying steps at its end. -/
def trimEnd : List Char → List Char
  | '/' :: cs => trimEnd cs
  | ['.'] => []
  | '.' :: '/' :: cs => trimEnd cs
  | cs => cs

/-- What a path begins with that is no part of a step to trim: the root, or the place where it
stays. -/
def front : List Char → List Char
  | '/' :: _ => ['/']
  | ['.'] | '.' :: '/' :: _ => ['.']
  | _ => []

/-- The directory in which a file lies, as its path writes it: all steps but the last. -/
def parentText (text : String) : String :=
  let front := front text.toList
  let steps := trimEnd (text.toList.drop front.length).reverse
  let parent := front ++ (trimEnd ((steps.dropWhile (· ≠ '/')).drop 1)).reverse
  if steps.isEmpty || parent.isEmpty then "." else String.ofList parent

/-- A path followed by a step down to a name. -/
def below (text name : String) : String :=
  if text.toList.getLast? = some '/' then text ++ name else s!"{text}/{name}"

end Path

/-- A path as it is given: a text, or bytes that are none. -/
inductive GivenPath
  | text (path : String)
  | raw (bytes : List UInt8) (isNoText : Text.Utf8.text? bytes = none)
  deriving DecidableEq, Repr

instance : Coe String GivenPath := ⟨.text⟩

namespace GivenPath

/-- The path if it is a text. -/
def text? : GivenPath → Option String
  | .text path => some path
  | .raw .. => none

/-- The path as it is shown and as the module in its file is known, with U+FFFD for what is no
character. -/
def shown : GivenPath → String
  | .text path => path
  | .raw bytes _ => String.ofList (Text.Utf8.decodeLossy bytes)

@[simp] theorem shown_text (path : String) : (text path).shown = path := rfl

end GivenPath

/-- The path of the file that lies next to a module and has a suffix after the module's whole
name. Reference: `sibling_path`. -/
def siblingPath (id suffix : String) : String :=
  id ++ suffix

end ModuleBridge.Files
