import ModuleBridge.Source.Grammar.Form

/-!
# The grammar of expressions

The rules go from the forms that bind least to those that bind most. Operators that group to the
left are rules that begin with themselves.
-/

namespace ModuleBridge.Source.Grammar

/-- The alternatives of a rule for expressions. -/
def expressionAlternatives : ExpressionRule → List Alternative
  | .expression => [
    node .other [expression .disjunction, keyword "if", expression .disjunction, keyword "else",
      expression .expression],
    expression .disjunction,
    expression .lambdaFunction]
  | .yielded => [
    node .other [keyword "yield", keyword "from", expression .expression],
    node .other [keyword "yield", optional (expression .starExpressions)]]
  | .starExpressions => [
    node .tuple [expression .starExpression, oneOrMore (group [op ",", expression .starExpression]),
      optional (op ",")],
    node .tuple [expression .starExpression, op ","],
    expression .starExpression]
  | .starExpression => [node .starred [op "*", expression .bitwiseOr], expression .expression]
  | .starNamedList => [plain [separated (op ",") (expression .starNamed), optional (op ",")]]
  | .starNamed => [node .starred [op "*", expression .bitwiseOr], expression .named]
  | .assigned => [node .other [name, op ":=", cut, expression .expression]]
  | .named => [expression .assigned, plain [expression .expression, notAhead (op ":=")]]
  | .disjunction => [
    node .other [expression .conjunction,
      oneOrMore (group [keyword "or", expression .conjunction])],
    expression .conjunction]
  | .conjunction => [
    node .other [expression .inversion, oneOrMore (group [keyword "and", expression .inversion])],
    expression .inversion]
  | .inversion => [node .other [keyword "not", expression .inversion], expression .comparison]
  | .comparison => [
    node .other [expression .bitwiseOr, oneOrMore (expression .comparisonPair)],
    expression .bitwiseOr]
  | .comparisonPair => [
    expression .equalPair, expression .unequalPair, expression .atMostPair, expression .lessPair,
    expression .atLeastPair, expression .greaterPair, expression .notInPair, expression .inPair,
    expression .isNotPair, expression .isPair]
  | .equalPair => [plain [op "==", expression .bitwiseOr]]
  | .unequalPair => [plain [op "!=", expression .bitwiseOr]]
  | .atMostPair => [plain [op "<=", expression .bitwiseOr]]
  | .lessPair => [plain [op "<", expression .bitwiseOr]]
  | .atLeastPair => [plain [op ">=", expression .bitwiseOr]]
  | .greaterPair => [plain [op ">", expression .bitwiseOr]]
  | .notInPair => [plain [keyword "not", keyword "in", expression .bitwiseOr]]
  | .inPair => [plain [keyword "in", expression .bitwiseOr]]
  | .isNotPair => [plain [keyword "is", keyword "not", expression .bitwiseOr]]
  | .isPair => [plain [keyword "is", expression .bitwiseOr]]
  | .bitwiseOr =>
    [node .other [expression .bitwiseOr, op "|", expression .bitwiseXor], expression .bitwiseXor]
  | .bitwiseXor =>
    [node .other [expression .bitwiseXor, op "^", expression .bitwiseAnd], expression .bitwiseAnd]
  | .bitwiseAnd =>
    [node .other [expression .bitwiseAnd, op "&", expression .shift], expression .shift]
  | .shift => [
    node .other [expression .shift, op "<<", expression .sum],
    node .other [expression .shift, op ">>", expression .sum],
    expression .sum]
  | .sum => [
    node .sum [expression .sum, op "+", expression .term],
    node .other [expression .sum, op "-", expression .term],
    expression .term]
  | .term => [
    node .other [expression .term, op "*", expression .factor],
    node .other [expression .term, op "/", expression .factor],
    node .other [expression .term, op "//", expression .factor],
    node .other [expression .term, op "%", expression .factor],
    node .other [expression .term, op "@", expression .factor],
    expression .factor]
  | .factor => [
    node .other [op "+", expression .factor],
    node .other [op "-", expression .factor],
    node .other [op "~", expression .factor],
    expression .power]
  | .power => [node .other [expression .awaited, op "**", expression .factor], expression .awaited]
  | .awaited => [node .other [keyword "await", expression .primary], expression .primary]
  | .primary => [
    node .member [expression .primary, op ".", word],
    node .other [expression .primary, expression .generator],
    node .other [expression .primary, op "(", optional (expression .arguments), op ")"],
    node .subscript [expression .primary, op "[", expression .slices, op "]"],
    expression .atom]
  | .slices => [
    plain [expression .slice, notAhead (op ",")],
    node .tuple [separated (op ",") (choice [expression .slice, expression .starredArgument]),
      optional (op ",")]]
  | .slice => [
    node .other [optional (expression .expression), op ":", optional (expression .expression),
      optional (group [op ":", optional (expression .expression)])],
    expression .named]
  | .atom => [
    name,
    node .constant [keyword "True"],
    node .constant [keyword "False"],
    node .constant [keyword "None"],
    plain [ahead string, expression .strings],
    number,
    plain [ahead (op "("), choice [expression .tuple, expression .group, expression .generator]],
    plain [ahead (op "["), choice [expression .list, expression .listComprehension]],
    plain [ahead (op "\x7b"),
      choice [expression .dict, expression .set, expression .dictComprehension,
        expression .setComprehension]],
    node .constant [op "..."]]
  | .group => [plain [op "(", choice [expression .yielded, expression .named], op ")"]]
  | .lambdaFunction => [
    node .other [keyword "lambda", optional (parameter .lambdaList), op ":",
      expression .expression]]
  | .strings => [node .text [oneOrMore string]]
  | .list => [node .list [op "[", optional (expression .starNamedList), op "]"]]
  | .tuple => [
    node .tuple [op "(",
      optional (group [expression .starNamed, op ",", optional (expression .starNamedList)]),
      op ")"]]
  | .set => [node .other [op "\x7b", expression .starNamedList, op "\x7d"]]
  | .dict => [node .other [op "\x7b", optional (expression .entries), op "\x7d"]]
  | .entries => [plain [separated (op ",") (expression .entry), optional (op ",")]]
  | .entry => [plain [op "**", expression .bitwiseOr], expression .pair]
  | .pair => [plain [expression .expression, op ":", expression .expression]]
  | .clauses => [oneOrMore (expression .clause)]
  | .clause => [
    node .other [keyword "async", keyword "for", target .starTargets, keyword "in", cut,
      expression .disjunction, repeated (group [keyword "if", expression .disjunction])],
    node .other [keyword "for", target .starTargets, keyword "in", cut, expression .disjunction,
      repeated (group [keyword "if", expression .disjunction])]]
  | .listComprehension => [node .other [op "[", expression .named, expression .clauses, op "]"]]
  | .setComprehension =>
    [node .other [op "\x7b", expression .named, expression .clauses, op "\x7d"]]
  | .generator => [
    node .other [op "(",
      choice [expression .assigned, plain [expression .expression, notAhead (op ":=")]],
      expression .clauses, op ")"]]
  | .dictComprehension =>
    [node .other [op "\x7b", expression .pair, expression .clauses, op "\x7d"]]
  | .arguments => [plain [expression .argumentList, optional (op ","), ahead (op ")")]]
  | .argumentList => [
    plain [
      separated (op ",") (choice [expression .starredArgument,
        plain [choice [expression .assigned, plain [expression .expression, notAhead (op ":=")]],
          notAhead (op "=")]]), optional (group [op ",", expression .namedArguments])],
    expression .namedArguments]
  | .namedArguments => [
    plain [separated (op ",") (expression .namedOrStarred), op ",",
      separated (op ",") (expression .namedOrDoubleStarred)],
    separated (op ",") (expression .namedOrStarred),
    separated (op ",") (expression .namedOrDoubleStarred)]
  | .starredArgument => [node .starred [op "*", expression .expression]]
  | .namedOrStarred =>
    [node .other [word, op "=", expression .expression], expression .starredArgument]
  | .namedOrDoubleStarred => [
    node .other [word, op "=", expression .expression],
    node .other [op "**", expression .expression]]
  | .formatted => [expression .starExpressions]

end ModuleBridge.Source.Grammar
