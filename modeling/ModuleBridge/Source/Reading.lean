import ModuleBridge.Source.Descent
import ModuleBridge.Source.Scan
import ModuleBridge.Source.Syntax
import ModuleBridge.Text.Compatibility

/-!
# From a source to its statements

The characters of a source become tokens, the tokens leaves, the leaves a tree, and the tree the
statements at the top level. The trees inside formatted literals have to be there before the tree
around them, since its height depends on theirs.
-/

namespace ModuleBridge.Source

open Grammar

/-- The height that a part of a formatted literal has in the tree of the literal, given the height
of its own tree. Every format around it adds two. -/
def partHeight (depth height : Nat) : Nat :=
  2 * depth + height

/-- Do string literals that stand one after the other go together? Bytes do not go with texts. -/
def goTogether : List Token → Bool
  | .string a :: .string b :: tokens =>
    (a = .bytes) = (b = .bytes) && goTogether (.string b :: tokens)
  | _ :: tokens => goTogether tokens
  | [] => true

/-- The leaves of a source, by the leaf of each token. -/
def leavesBy (leafOf : Token → Option Leaf) (source : List Char) : Option (List Leaf) := do
  let tokens ← tokens? source
  if goTogether tokens then tokens.mapM leafOf else none

/-- The leaf of a token, if formatted literals nest less than `fuel` deep in it. -/
def leafOf : Nat → Token → Option Leaf
  | 0, _ => none
  | fuel + 1, .string (.format parts) => do
    let heights ← parts.mapM fun part => match part with
      | .text depth => some (partHeight depth 1)
      | .expression depth cs => do
        let leaves ← leavesBy (leafOf fuel) ('(' :: cs ++ [')'])
        let tree ← treeOf (.expression .formatted) leaves
        return partHeight depth (tree.height + 1)
    return ⟨.string (.format parts), heights.foldl max 0⟩
  | _ + 1, .string (.text value) => some ⟨.string (.text value), if value = some "" then 0 else 1⟩
  | _ + 1, token => some ⟨token, 0⟩

/-- The text that string literals give together, if it is one that a name can be equal to. -/
def joinLiterals (literals : List Node) : Expr :=
  let texts := literals.mapM fun literal => match literal with
    | .literal (.text value) _ => value
    | _ => none
  match texts with
  | some texts => .text (String.join texts)
  | none => if literals.any Node.isFormatted then .other else .constant

mutual

/-- The expression that a tree is. -/
def Node.expr : Node → Expr
  | .node .name _ (.word text :: _) => .name (Text.compatibilityForm text)
  | .node .text _ literals => joinLiterals literals
  | .node .constant _ _ => .constant
  | .node .list _ items => .list (exprsOf items)
  | .node .tuple _ items => .tuple (exprsOf items)
  | .node .starred _ (e :: _) => .starred e.expr
  | .node .sum _ (left :: right :: _) => .sum left.expr right.expr
  | .node .member _ _ => .attribute
  | .node .subscript _ _ => .subscript
  | _ => .other

/-- The expressions that trees are. -/
def exprsOf : List Node → List Expr
  | [] => []
  | e :: rest => e.expr :: exprsOf rest

end

/-- The names of the parameters in front of a star. -/
def parameterNames (parts : List Node) : List String :=
  parts.filterMap fun part => match part with
    | .node .parameter _ (.word text :: _) => some (Text.compatibilityForm text)
    | _ => none

/-- The names of the parameters of a function, given what stands behind its name. -/
def positionalNames : List Node → List String
  | .node .parameters _ parts :: _ => parameterNames parts
  | _ => []

/-- The statement that a tree is. -/
def Node.statement : Node → Statement
  | .node .decorated _ [_, definition] => definition.statement
  | .node .function _ (.word text :: rest) =>
    .function (Text.compatibilityForm text) (positionalNames rest)
  | .node .coroutine _ (.word text :: rest) =>
    .coroutine (Text.compatibilityForm text) (positionalNames rest)
  | .node .assign _ parts =>
    let exprs := parts.map Node.expr
    .assign exprs.dropLast (exprs.getLast?.getD .other)
  | .node .annotate _ (target :: _ :: value) => .annotate target.expr (value.head?.map Node.expr)
  | .node .augment _ [target, value] => .augment target.expr value.expr
  | _ => .other

/-- The statements that the tree of a module holds. -/
def Node.statements : Node → List Statement
  | .node .module _ parts => parts.map Node.statement
  | _ => []

/-- The greatest height of the tree of a module. -/
def heightLimit : Nat := 2988

/-- The statements at the top level of a source. A source that is no module has none, and neither
has one whose tree would be too high. -/
def statements? (text : String) : Option (List Statement) := do
  let cs := text.toList
  let leaves ← leavesBy (leafOf (cs.length + 1)) cs
  let tree ← treeOf (.statement .file) leaves
  if heightLimit < tree.height then none else some tree.statements

end ModuleBridge.Source
