import ModuleBridge.Source.Reading
import ModuleBridge.Signature

/-!
# The functions that a module exports

A module exports the functions defined at its top level whose names do not begin with an underscore,
or, if it binds `__all__`, those whose names are listed there. Of two functions with one name the
later counts, in the place of the earlier.
-/

namespace ModuleBridge.Source

/-- The name under which a module lists what it exports. -/
def exportList : String := "__all__"

/-- Is the expression the name of the list of exports? Reference: `is_all`. -/
def isExportList : Expr → Bool
  | .name id => id = exportList
  | _ => false

/-- The texts among some expressions. -/
def textsOf (items : List Expr) : List String :=
  items.filterMap fun e => match e with
    | .text value => some value
    | _ => none

/-- The texts that an expression lists. Reference: `literal_names`. -/
def literalNames : Expr → List String
  | .list items | .tuple items => textsOf items
  | .sum left right => literalNames left ++ literalNames right
  | _ => []

/-- The list of exports after a statement, given the one before it. -/
def afterStatement (exports : Option (List String)) : Statement → Option (List String)
  | .assign targets value =>
    if targets.any isExportList then some (literalNames value) else exports
  | .annotate target (some value) =>
    if isExportList target then some (literalNames value) else exports
  | .augment target value =>
    if isExportList target then some (exports.getD [] ++ literalNames value) else exports
  | _ => exports

/-- The list of exports that a module binds last, if it binds one. Entries that are no literals
cannot be known and export nothing. Reference: `declared_exports`. -/
def declaredExports (statements : List Statement) : Option (List String) :=
  statements.foldl afterStatement none

/-- Is a function with the name exported, under the given list of exports? -/
def isExported (exports : Option (List String)) (name : String) : Bool :=
  match exports with
  | none => name.toList.head? ≠ some '_'
  | some names => names.contains name

/-- Puts a function in the place of the one with its name, or after all others. -/
def define (f : FunctionSignature) : List FunctionSignature → List FunctionSignature
  | [] => [f]
  | g :: rest => if g.name = f.name then f :: rest else g :: define f rest

/-- The functions that a module exports. Reference: `exported_functions`. -/
def exportedFunctions (statements : List Statement) : List FunctionSignature :=
  let exports := declaredExports statements
  statements.foldl (fun found s => match s with
    | .function name parameters =>
      if isExported exports name then define ⟨name, parameters⟩ found else found
    | _ => found) []

/-! ## Sources -/

/-- The value that a statement binds to the list of exports. -/
def exportValue? : Statement → Option Expr
  | .assign targets value => if targets.any isExportList then some value else none
  | .annotate target value => if isExportList target then value else none
  | .augment target value => if isExportList target then some value else none
  | _ => none

/-- How deep in sums the texts of an expression are looked for. -/
def searchDepth : Expr → Nat
  | .sum left right => max (searchDepth left) (searchDepth right) + 1
  | .list items | .tuple items => if items.isEmpty then 0 else 1
  | _ => 0

/-- The greatest depth in which texts are looked for. -/
def searchLimit : Nat := 993

/-- Does a statement bind a value to the list of exports that is too deep to be searched? -/
def bindsTooDeep (s : Statement) : Bool :=
  (exportValue? s).any fun value => searchLimit < searchDepth value

/-- The functions that a source exports, if it is a module at all and its list of exports can be
searched. -/
def exportsOf? (text : String) : Option (List FunctionSignature) := do
  let statements ← statements? text
  if statements.any bindsTooDeep then none else some (exportedFunctions statements)

end ModuleBridge.Source
