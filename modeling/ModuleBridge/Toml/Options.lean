import ModuleBridge.Files.FileSystem
import ModuleBridge.Options
import ModuleBridge.Toml.Document

/-!
# Options in a configuration file

Options are read from a file that was named, or from one with a name of its own if there is such a
file, and are the defaults otherwise.
-/

namespace ModuleBridge

/-- What a configuration says about records and choices: nothing is said by an empty table or array,
and an array for a record may go on after its fields. -/
def Toml.dialect : Wire.Dialect where
  isUnit v := match v with
    | .object [] | .array [] => true
    | _ => false
  spareItems := true
  choiceName := "string or table"

namespace LoaderOptions

/-- The part of the value of a key that is looked at: an array for a record no further than the
record has fields. -/
def partLookedAt (key : String) : Toml.Value → Toml.Value
  | .array ofTables items =>
    match shape.width? key with
    | some width => .array ofTables (items.take width)
    | none => .array ofTables items
  | v => v

/-- The options that a text gives, if they can be used. Reference: `parse_options`. -/
def ofToml (text : String) : Except Error LoaderOptions := do
  let refused := Error.config "TOML parse error"
  match Toml.document text with
  | .error .refused => throw refused
  | .error .tooDeep => throw (.config "recursion limit\n")
  | .ok members =>
    if members.any fun (key, v) => (partLookedAt key v).isFaulty then throw refused
    match shape.ofJson Toml.dialect (Toml.Value.table .defined members).toJson with
    | .error _ => throw refused
    | .ok options =>
      options.validate
      return options

/-- The file from which options are read unless another is named. Reference: `CONFIG_FILE`. -/
def defaultFile : String := "pyloader.toml"

/-- The options in a file. -/
def load (fs : Files.FileSystem) (path : String) : Except Failure LoaderOptions :=
  match fs.readText path with
  | .error failure =>
    .error (.within s!"failed to read config file {path}" (.plain failure.chain))
  | .ok text =>
    match ofToml text with
    | .error e => .error (.within s!"invalid config file {path}" (.error e))
    | .ok options => .ok options

/-- The options in the file that is named, or in the default one. Reference: `load_options`. -/
def loadFrom (fs : Files.FileSystem) : Option String → Except Failure LoaderOptions
  | some path => load fs path
  | none => if fs.isFile defaultFile then load fs defaultFile else .ok {}

end LoaderOptions

end ModuleBridge
