import ModuleBridge.Source.Grammar
import ModuleBridge.Source.Token

/-!
# Descending through a grammar

A descent looks for a form from a token on and builds the tree of what it finds. It goes one level
down for every rule, choice and repetition, and has a bounded number of levels: a source that needs
more has no tree. A rule that begins with itself is grown: it is tried again, each time with the
last find in its own place, as long as it reaches further.
-/

namespace ModuleBridge.Source

open Grammar

/-- A token as a leaf of a tree. -/
structure Leaf where
  token : Token
  /-- The height of the trees inside the token. Only string literals have some. -/
  height : Nat

/-- A tree. Every node but a leaf knows its height. -/
inductive Node
  | word (text : String)
  | literal (literal : StringLiteral) (height : Nat)
  | node (kind : Kind) (height : Nat) (parts : List Node)

namespace Node

/-- The height of a tree. -/
def height : Node → Nat
  | word _ => 0
  | literal _ height => height
  | node _ height _ => height

/-- The height of the highest of some trees. -/
def highest (parts : List Node) : Nat :=
  parts.foldl (fun height part => max height part.height) 0

/-- Is the tree a string literal with expressions in it? -/
def isFormatted : Node → Bool
  | literal (.format _) _ => true
  | _ => false

/-- A node over some parts, one higher than the highest of them. A definition is as high as it is
without its decorators if they are not higher, what is put aside and a single pattern have no node
of their own, and string literals without expressions are one constant. -/
def join (kind : Kind) (parts : List Node) : Node :=
  match kind with
  | .decorated | .aside => node kind (highest parts) parts
  | .either => node kind (if parts.length = 1 then highest parts else highest parts + 1) parts
  | .text => node kind (if parts.any isFormatted then highest parts + 1 else 1) parts
  | _ => node kind (highest parts + 1) parts

end Node

/-- What was found: the trees, the last one first, and the token after them. -/
structure Found where
  next : Nat
  parts : List Node

/-- What was found first, and then more behind it. -/
def Found.followedBy (found more : Found) : Found :=
  ⟨more.next, more.parts ++ found.parts⟩

/-- The items of an alternative. -/
def Grammar.Alternative.items : Alternative → List Item
  | .plain items | .node _ items => items

/-- What an alternative makes of what its items found. -/
def Grammar.Alternative.close : Alternative → Found → Found
  | .plain _, found => found
  | .node kind _, found => ⟨found.next, [.join kind found.parts.reverse]⟩

/-- The trees that a token gives if it is what a terminal asks for. -/
def Grammar.Terminal.parts? : Terminal → Option Leaf → Option (List Node)
  | .finish, none => some []
  | .word, some ⟨.name text, _⟩ => some [.word text]
  | .name, some ⟨.name text, _⟩ => some [.join .name [.word text]]
  | .number, some ⟨.number _, _⟩ => some [.join .constant []]
  | .real, some ⟨.number false, _⟩ => some [.join .constant []]
  | .imaginary, some ⟨.number true, _⟩ => some [.join .constant []]
  | .string, some ⟨.string literal, height⟩ => some [.literal literal height]
  | .keyword text, some ⟨.keyword t, _⟩ => if t = text then some [] else none
  | .soft text, some ⟨.name t, _⟩ => if t = text then some [] else none
  | .op text, some ⟨.op t, _⟩ => if t = text then some [] else none
  | .newline, some ⟨.newline, _⟩ => some []
  | .indent, some ⟨.indent, _⟩ => some []
  | .dedent, some ⟨.dedent, _⟩ => some []
  | _, _ => none

/-- What is kept: for every token, what some rules found from there. -/
abbrev Memo := Array (List (Rule × Option Found))

/-- A part of a descent. It fails altogether where it goes too deep. -/
abbrev Descent := StateT Memo Option

namespace Descent

/-- Goes too deep. -/
def tooDeep : Descent α := fun _ => none

/-- What a rule found from a token on, if that is kept. -/
def keptFor (rule : Rule) (i : Nat) : Descent (Option (Option Found)) := fun memo =>
  some ((memo.getD i []).lookup rule, memo)

/-- Puts a find in the place of the one that is kept for the rule. -/
def replaced (rule : Rule) (found : Option Found) :
    List (Rule × Option Found) → List (Rule × Option Found)
  | [] => [(rule, found)]
  | (r, f) :: rest =>
    if r = rule then (rule, found) :: rest else (r, f) :: replaced rule found rest

/-- Keeps what a rule found from a token on. -/
def keep (rule : Rule) (i : Nat) (found : Option Found) : Descent Unit := fun memo =>
  some ((), memo.modify i (replaced rule found))

/-- What items came to: they fit, or else the flag tells whether no later alternative is tried. -/
inductive Outcome
  | fit (found : Found)
  | unfit (final : Bool)

section

/- How a form is looked for from a token on, one level down. -/
variable (look : Form → Nat → Descent (Option Found))

/-- Takes items behind what was found. -/
def takeItems (final : Bool) : List Item → Found → Descent Outcome
  | [], found => return .fit found
  | .cut :: items, found => takeItems true items found
  | .take form :: items, found => do
    match ← look form found.next with
    | some more => takeItems final items (found.followedBy more)
    | none => return .unfit final
  | .optional form :: items, found => do
    match ← look form found.next with
    | some more => takeItems final items (found.followedBy more)
    | none => takeItems final items found
  | .ahead form :: items, found => do
    match ← look form found.next with
    | some _ => takeItems final items found
    | none => return .unfit final
  | .notAhead form :: items, found => do
    match ← look form found.next with
    | some _ => return .unfit final
    | none => takeItems final items found

/-- Takes the first alternative that fits. -/
def takeFirst (i : Nat) : List Alternative → Descent (Option Found)
  | [] => return none
  | alternative :: alternatives => do
    match ← takeItems look false alternative.items ⟨i, []⟩ with
    | .fit found => return some (alternative.close found)
    | .unfit true => return none
    | .unfit false => takeFirst i alternatives

/-- Takes items as often as they fit, at most `fuel` times. -/
def takeRepeated (items : List Item) : Nat → Found → Descent Found
  | 0, found => return found
  | fuel + 1, found => do
    match ← takeItems look false items found with
    | .fit more => takeRepeated items fuel more
    | .unfit _ => return found

/-- Does a find reach further than the one before? -/
def reachesFurther (before : Option Found) (found : Found) : Bool :=
  match before with
  | none => true
  | some before => before.next < found.next

/-- Tries a rule that begins with itself, at most `fuel` times more, the last find given. -/
def grow (rule : Rule) (i : Nat) : Nat → Option Found → Descent (Option Found)
  | 0, best => return best
  | fuel + 1, best => do
    keep rule i best
    match ← look (.choice rule.alternatives) i with
    | some found => if reachesFurther best found then grow rule i fuel (some found) else return best
    | none => return best

/-- Takes a rule. -/
def takeRule (fuel : Nat) (rule : Rule) (i : Nat) : Descent (Option Found) := do
  if rule.isLeftRecursive then
    match ← keptFor rule i with
    | some found => return found
    | none => grow look rule i fuel none
  else if rule.isKept then
    match ← keptFor rule i with
    | some found => return found
    | none =>
      let found ← takeFirst look i rule.alternatives
      keep rule i found
      return found
  else takeFirst look i rule.alternatives

end

/-- Looks for a form from a token on, at most `levels` levels deep. -/
def look (leaves : Array Leaf) : Nat → Form → Nat → Descent (Option Found)
  | _, .terminal terminal, i => return (terminal.parts? leaves[i]?).map (⟨i + 1, ·⟩)
  | 0, _, _ => tooDeep
  | levels + 1, .rule rule, i => takeRule (look leaves levels) (leaves.size + 2) rule i
  | levels + 1, .choice alternatives, i => takeFirst (look leaves levels) i alternatives
  | levels + 1, .repetition needed items, i => do
    let found ← takeRepeated (look leaves levels) items (leaves.size + 1) ⟨i, []⟩
    return if needed && found.next = i then none else some found

end Descent

/-- The most levels that a descent goes down. -/
def levelLimit : Nat := 6000

/-- The tree of some leaves by a rule that finds one tree. -/
def treeOf (rule : Rule) (leaves : List Leaf) : Option Node := do
  let leaves := leaves.toArray
  let memo : Memo := Array.replicate (leaves.size + 1) []
  let (found, _) ← Descent.look leaves levelLimit (.rule rule) 0 memo
  match found with
  | some ⟨_, [tree]⟩ => some tree
  | _ => none

end ModuleBridge.Source
