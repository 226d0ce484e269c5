/-!
# The forms of a grammar

A grammar gives every rule a list of alternatives, of which the first that fits is taken. An
alternative is a list of items, each of them a form: a single token, another rule, a choice or a
repetition. Forms are values, so that a descent over the tokens can count how deep in them it is.
-/

namespace ModuleBridge.Source.Grammar

/-- What a module is made of, down to the heads of its statements. -/
inductive StatementRule
  | file | statements | statement | simpleStatements | simpleStatement | compoundStatement
  | assignment | rightSide | augmentation | returnStatement | raiseStatement | globalStatement
  | nonlocalStatement | delStatement | yieldStatement | assertStatement | importStatement
  | importModules | importFrom | importedNames | importedNameList | importedName | moduleNames
  | moduleName | dottedName | block | decorators | classDefinition | plainClass | functionDefinition
  | plainFunction | ifStatement | elifBranch | elseBlock | whileStatement | forStatement
  | withStatement | withItem | tryStatement | exceptBlock | exceptStarBlock | finallyBlock
  | matchStatement | subject | caseBlock | guard
  deriving DecidableEq, Repr

/-- What a list of parameters is made of, in a definition and in a lambda. -/
inductive ParameterRule
  | list | parameters | slashNoDefault | slashWithDefault | afterStar | doubleStar | noDefault
  | noDefaultStar | withDefault | maybeDefault | parameter | starParameter | typeHint
  | starTypeHint | default | lambdaList | lambdaParameters | lambdaSlashNoDefault
  | lambdaSlashWithDefault | lambdaAfterStar | lambdaDoubleStar | lambdaNoDefault
  | lambdaWithDefault | lambdaMaybeDefault | lambdaParameter
  deriving DecidableEq, Repr

/-- What an expression is made of. -/
inductive ExpressionRule
  | expression | yielded | starExpressions | starExpression | starNamedList | starNamed | assigned
  | named | disjunction | conjunction | inversion | comparison | comparisonPair | equalPair
  | unequalPair | atMostPair | lessPair | atLeastPair | greaterPair | notInPair | inPair | isNotPair
  | isPair | bitwiseOr | bitwiseXor | bitwiseAnd | shift | sum | term | factor | power | awaited
  | primary | slices | slice | atom | group | lambdaFunction | strings | list | tuple | set | dict
  | entries | entry | pair | clauses | clause | listComprehension | setComprehension | generator
  | dictComprehension | arguments | argumentList | namedArguments | starredArgument | namedOrStarred
  | namedOrDoubleStarred | formatted
  deriving DecidableEq, Repr

/-- What can be assigned to or deleted. -/
inductive TargetRule
  | starTargets | listItems | tupleItems | starTarget | starPlace | starAtom | single | singlePlace
  | primary | goesOn | deletedList | deleted | deletedAtom
  deriving DecidableEq, Repr

/-- What a case of a match is made of. -/
inductive PatternRule
  | patterns | pattern | asPattern | orPattern | closed | literal | literalKey | complexNumber
  | signedNumber | signedRealNumber | realNumber | imaginaryNumber | capture | captured | wildcard
  | value | member | nameOrMember | group | sequence | openSequence | items | item | starItem
  | mapping | entries | entry | doubleStar | classPattern | positional | namedList | named
  deriving DecidableEq, Repr

/-- A rule of the grammar. -/
inductive Rule
  | statement (rule : StatementRule)
  | parameter (rule : ParameterRule)
  | expression (rule : ExpressionRule)
  | target (rule : TargetRule)
  | pattern (rule : PatternRule)
  deriving DecidableEq, Repr

/-- What a single token is asked to be. -/
inductive Terminal
  /-- A name, taken for its letters only. -/
  | word
  /-- A name, taken as an expression. -/
  | name
  | number
  /-- A number that is not imaginary. -/
  | real
  | imaginary
  | string
  | keyword (text : String)
  /-- A name that is a keyword only here. -/
  | soft (text : String)
  | op (text : String)
  | newline
  | indent
  | dedent
  /-- No token: the source ends. -/
  | finish
  deriving DecidableEq, Repr

/-- What a node of a tree is. -/
inductive Kind
  | module
  | function
  | coroutine
  /-- A definition behind its decorators. -/
  | decorated
  | assign
  | annotate
  | augment
  /-- The parameters of a function, those that are given by name only put aside. -/
  | parameters
  | parameter
  | aside
  | name
  /-- String literals that stand one after the other. -/
  | text
  | constant
  | list
  | tuple
  | starred
  /-- Two expressions with a plus sign between them. -/
  | sum
  | member
  | subscript
  /-- Patterns of which one has to match, or a single pattern. -/
  | either
  | other
  deriving DecidableEq, Repr

mutual

/-- What is looked for from a token on. -/
inductive Form
  | terminal (terminal : Terminal)
  | rule (rule : Rule)
  /-- The first alternative that fits. -/
  | choice (alternatives : List Alternative)
  /-- The items as often as they fit, at least once if `needed`. -/
  | repetition (needed : Bool) (items : List Item)

/-- A part of an alternative. -/
inductive Item
  | take (form : Form)
  | optional (form : Form)
  /-- The form has to follow, and is not taken. -/
  | ahead (form : Form)
  /-- The form must not follow. -/
  | notAhead (form : Form)
  /-- From here on no later alternative is tried. -/
  | cut

/-- Items one after the other. -/
inductive Alternative
  /-- What the items find is handed on. -/
  | plain (items : List Item)
  /-- What the items find becomes one node. -/
  | node (kind : Kind) (items : List Item)

end

instance : Coe Form Item := ⟨.take⟩

instance : Coe Form Alternative := ⟨fun form => .plain [form]⟩

/-! ## Names for forms -/

/-- A name, taken for its letters only. -/
def word : Form := .terminal .word

/-- A name, taken as an expression. -/
def name : Form := .terminal .name

/-- Any number. -/
def number : Form := .terminal .number

/-- A number that is not imaginary. -/
def real : Form := .terminal .real

/-- A number that is imaginary. -/
def imaginary : Form := .terminal .imaginary

/-- A string literal. -/
def string : Form := .terminal .string

/-- A keyword. -/
def keyword (text : String) : Form := .terminal (.keyword text)

/-- A name that is a keyword only here. -/
def soft (text : String) : Form := .terminal (.soft text)

/-- An operator, a bracket or a separator. -/
def op (text : String) : Form := .terminal (.op text)

/-- The end of a logical line. -/
def newline : Form := .terminal .newline

/-- The beginning of a block. -/
def indent : Form := .terminal .indent

/-- The end of a block. -/
def dedent : Form := .terminal .dedent

/-- The end of the source. -/
def finish : Form := .terminal .finish

/-- A rule for statements. -/
def statement (rule : StatementRule) : Form := .rule (.statement rule)

/-- A rule for parameters. -/
def parameter (rule : ParameterRule) : Form := .rule (.parameter rule)

/-- A rule for expressions. -/
def expression (rule : ExpressionRule) : Form := .rule (.expression rule)

/-- A rule for targets. -/
def target (rule : TargetRule) : Form := .rule (.target rule)

/-- A rule for patterns. -/
def pattern (rule : PatternRule) : Form := .rule (.pattern rule)

/-- The first of some alternatives that fits. -/
def choice (alternatives : List Alternative) : Form := .choice alternatives

/-- Items that stand together, as a form. -/
def group (items : List Item) : Form := .choice [.plain items]

/-- A form as often as it fits. -/
def repeated (form : Form) : Form := .repetition false [form]

/-- A form as often as it fits, at least once. -/
def oneOrMore (form : Form) : Form := .repetition true [form]

/-- A form at least once, each time but the first behind a separator. -/
def separated (separator form : Form) : Form :=
  .choice [.plain [form, .take (.repetition false [separator, form])]]

/-- A form that may be missing. -/
def optional (form : Form) : Item := .optional form

/-- A form that has to follow. -/
def ahead (form : Form) : Item := .ahead form

/-- A form that must not follow. -/
def notAhead (form : Form) : Item := .notAhead form

/-- No later alternative is tried. -/
def cut : Item := .cut

/-- Items whose finds are handed on. -/
def plain (items : List Item) : Alternative := .plain items

/-- Items whose finds become one node. -/
def node (kind : Kind) (items : List Item) : Alternative := .node kind items

end ModuleBridge.Source.Grammar
