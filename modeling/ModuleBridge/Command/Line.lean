import ModuleBridge.Json.Value

/-!
# Command lines

The words of a command line are options, values of options and positional arguments. Options may
come before, between and after the positional arguments, until two dashes end them. Where a
positional argument may begin with a dash, a word that is no known option is one; once such an
argument has begun, all words that follow belong to it.
-/

namespace ModuleBridge.Command

/-- An option. -/
structure OptionSpec where
  long : String
  short : Option Char := none
  takesValue : Bool := true
  deriving DecidableEq, Repr

/-- A positional argument. -/
structure PositionalSpec where
  /-- Does it take all words that are left? -/
  repeats : Bool := false
  /-- May it begin with a dash? -/
  acceptsDashes : Bool := false
  deriving DecidableEq, Repr

/-- What may stand on a command line. -/
structure LineSpec where
  options : List OptionSpec
  positionals : List PositionalSpec
  deriving DecidableEq, Repr

/-- What was read of a command line. -/
structure Line where
  /-- The options with their values, which are empty for those that take none. -/
  options : List (String × String) := []
  positionals : List String := []
  /-- The option whose value comes next. -/
  pending : Option String := none
  /-- Have two dashes ended the options? -/
  isTrailing : Bool := false
  /-- Do all words that follow belong to a positional argument? -/
  isOpen : Bool := false
  deriving DecidableEq, Repr

/-- Why reading a command line ended early. -/
inductive Stop
  /-- The command line is none that the program takes. -/
  | usage
  | help
  | version
  deriving DecidableEq, Repr

/-- The option that asks for help. -/
def helpOption : OptionSpec := ⟨"help", some 'h', false⟩

/-- The option that asks for the version. -/
def versionOption : OptionSpec := ⟨"version", some 'V', false⟩

namespace Line

/-- The value of an option. -/
def value? (line : Line) (name : String) : Option String :=
  Json.find? name line.options

/-- Was the option given? -/
def has (line : Line) (name : String) : Bool :=
  (line.value? name).isSome

/-- The positional argument that comes next. One that repeats comes again and again. -/
def next? (spec : LineSpec) (line : Line) : Option PositionalSpec :=
  match spec.positionals[line.positionals.length]? with
  | some p => some p
  | none => spec.positionals.getLast?.filter (·.repeats)

/-- Does the positional argument that comes next accept dashes? -/
def nextAcceptsDashes (spec : LineSpec) (line : Line) : Bool :=
  ((line.next? spec).map (·.acceptsDashes)).getD false

/-- Adds an option, which must not be there yet. -/
def addOption (line : Line) (name value : String) : Except Stop Line :=
  if line.has name then .error .usage
  else .ok { line with options := line.options ++ [(name, value)], pending := none }

/-- Adds a word as a value: that of the pending option, or else a positional argument. -/
def addValue (spec : LineSpec) (line : Line) (word : String) : Except Stop Line :=
  match line.pending, line.isTrailing with
  | some name, false => line.addOption name word
  | some _, true => .error .usage
  | none, _ =>
    match line.next? spec with
    | none => .error .usage
    | some p =>
      .ok { line with
        positionals := line.positionals ++ [word], isOpen := line.isOpen || p.acceptsDashes }

/-- Takes an option that has no value. -/
def takeFlag (line : Line) (option : OptionSpec) : Except Stop Line :=
  if line.pending.isSome then .error .usage
  else if option = helpOption then .error .help
  else if option = versionOption then .error .version
  else line.addOption option.long ""

/-- Takes an option by its long name, with the value attached to it by an equals sign. -/
def takeLong (line : Line) (option : OptionSpec) (attached : Option String) : Except Stop Line :=
  if line.pending.isSome then .error .usage
  else
    match option.takesValue, attached with
    | true, some value => line.addOption option.long value
    | true, none => .ok { line with pending := some option.long }
    | false, some _ => .error .usage
    | false, none => line.takeFlag option

/-- Takes options by their short names. -/
def takeShorts (spec : LineSpec) : Line → List Char → Except Stop Line
  | line, [] => .ok line
  | line, c :: cs =>
    match spec.options.find? (·.short = some c) with
    | none => .error .usage
    | some option => do takeShorts spec (← line.takeFlag option) cs

/-- Is every character the short name of an option? -/
def areShorts (spec : LineSpec) (cs : List Char) : Bool :=
  cs.all fun c => spec.options.any (·.short = some c)

/-- Takes the next word. -/
def take (spec : LineSpec) (line : Line) (word : String) : Except Stop Line :=
  if line.isTrailing || line.isOpen then line.addValue spec word
  else
    match word.toList with
    | ['-', '-'] => .ok { line with isTrailing := true }
    | '-' :: '-' :: cs =>
      let name := cs.takeWhile (· ≠ '=')
      let attached := match cs.drop name.length with
        | [] => none
        | _ :: value => some (String.ofList value)
      match spec.options.find? (·.long = String.ofList name) with
      | some option => line.takeLong option attached
      | none => if line.nextAcceptsDashes spec then line.addValue spec word else .error .usage
    | '-' :: c :: cs =>
      if line.nextAcceptsDashes spec && !areShorts spec (c :: cs) then line.addValue spec word
      else takeShorts spec line (c :: cs)
    | _ => line.addValue spec word

/-- Takes all words. -/
def takeAll (spec : LineSpec) : Line → List String → Except Stop Line
  | line, [] => if line.pending.isSome then .error .usage else .ok line
  | line, word :: words => do takeAll spec (← line.take spec word) words

end Line

end ModuleBridge.Command
