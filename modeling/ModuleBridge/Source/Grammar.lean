import ModuleBridge.Source.Grammar.Statement
import ModuleBridge.Source.Grammar.Parameter
import ModuleBridge.Source.Grammar.Expression
import ModuleBridge.Source.Grammar.Target
import ModuleBridge.Source.Grammar.Pattern

/-!
# The grammar

The rules of all families together, and how a descent deals with each: some rules begin with
themselves, and of some the finds are kept, since many alternatives begin with them.
-/

namespace ModuleBridge.Source.Grammar

/-- The alternatives of a rule, in the order in which they are tried. -/
def Rule.alternatives : Rule → List Alternative
  | .statement rule => statementAlternatives rule
  | .parameter rule => parameterAlternatives rule
  | .expression rule => expressionAlternatives rule
  | .target rule => targetAlternatives rule
  | .pattern rule => patternAlternatives rule

/-- Does the rule begin with itself? -/
def Rule.isLeftRecursive : Rule → Bool
  | .statement .dottedName => true
  | .expression .bitwiseOr | .expression .bitwiseXor | .expression .bitwiseAnd => true
  | .expression .shift | .expression .sum | .expression .term | .expression .primary => true
  | .target .primary => true
  | .pattern .member => true
  | _ => false

/-- Is a find of the rule kept for when the rule is tried at the same token again? -/
def Rule.isKept : Rule → Bool
  | .statement .simpleStatement | .statement .block => true
  | .expression .expression | .expression .starExpression => true
  | .expression .disjunction | .expression .conjunction | .expression .inversion => true
  | .expression .factor | .expression .awaited => true
  | .expression .strings | .expression .arguments => true
  | .target .starTarget | .target .starPlace | .target .deleted => true
  | .pattern .closed | .pattern .starItem => true
  | _ => false

end ModuleBridge.Source.Grammar
