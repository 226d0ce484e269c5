import ModuleBridge.Wire.Shape

/-!
# Module names

A module is named after the file it comes from: the last part of the path without the extension.
-/

namespace ModuleBridge

/-- The characters of the extension of a Python file. Reference: `PYTHON_EXTENSION`. -/
def pythonExtension : List Char := ['.', 'p', 'y']

/-- Does the name of a file end in the extension of a Python file? Reference:
`PythonLoader::handles`. -/
def isPythonFile (id : String) : Bool :=
  pythonExtension.isSuffixOf id.toList

/-- The name of a module. Reference: `ModuleName`. -/
structure ModuleName where
  text : String
  deriving DecidableEq, Repr

namespace ModuleName

/-- How a name is written. -/
def shape : Wire.Shape ModuleName :=
  .checked .text (fun text => .ok ⟨text⟩) (·.text)

/-- Does the character separate the parts of a path? -/
def isSeparator (c : Char) : Bool :=
  c = '/' || c = '\\'

/-- The characters without the extension of a Python file at their end. -/
def withoutExtension (cs : List Char) : List Char :=
  if pythonExtension.isSuffixOf cs then cs.take (cs.length - pythonExtension.length) else cs

/-- The characters after the last separator. -/
def lastPart (cs : List Char) : List Char :=
  (cs.reverse.takeWhile fun c => !isSeparator c).reverse

/-- The name of a module whose file has no name of its own. Reference: `DEFAULT_MODULE_NAME`. -/
def unnamed : ModuleName := ⟨"module"⟩

/-- The name of the module in a file. Reference: `ModuleName::from_id`. -/
def ofId (id : String) : ModuleName :=
  match lastPart (withoutExtension id.toList) with
  | [] => unnamed
  | c :: cs => ⟨String.ofList (c :: cs)⟩

end ModuleName

end ModuleBridge
