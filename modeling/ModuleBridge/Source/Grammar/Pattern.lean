import ModuleBridge.Source.Grammar.Form

/-!
# The grammar of patterns

A case of a match is a pattern: a literal, a name to bind, a value to compare with, a class, or
a sequence or a mapping of patterns.
-/

namespace ModuleBridge.Source.Grammar

/-- The alternatives of a rule for patterns. -/
def patternAlternatives : PatternRule → List Alternative
  | .patterns => [node .other [pattern .openSequence], pattern .pattern]
  | .pattern => [pattern .asPattern, pattern .orPattern]
  | .asPattern => [node .other [pattern .orPattern, keyword "as", pattern .captured]]
  | .orPattern => [node .either [separated (op "|") (pattern .closed)]]
  | .closed => [
    pattern .literal, pattern .capture, pattern .wildcard, pattern .value, pattern .group,
    pattern .sequence, pattern .mapping, pattern .classPattern]
  | .literal => [
    node .other [pattern .signedNumber, notAhead (choice [op "+", op "-"])],
    node .other [pattern .complexNumber],
    node .other [expression .strings],
    node .other [keyword "None"],
    node .other [keyword "True"],
    node .other [keyword "False"]]
  | .literalKey => [
    plain [pattern .signedNumber, notAhead (choice [op "+", op "-"])],
    pattern .complexNumber,
    expression .strings,
    node .constant [keyword "None"],
    node .constant [keyword "True"],
    node .constant [keyword "False"]]
  | .complexNumber => [
    node .other [pattern .signedRealNumber, op "+", pattern .imaginaryNumber],
    node .other [pattern .signedRealNumber, op "-", pattern .imaginaryNumber]]
  | .signedNumber => [number, node .other [op "-", number]]
  | .signedRealNumber => [pattern .realNumber, node .other [op "-", pattern .realNumber]]
  | .realNumber => [real]
  | .imaginaryNumber => [imaginary]
  | .capture => [node .other [pattern .captured]]
  | .captured => [plain [notAhead (soft "_"), word, notAhead (choice [op ".", op "(", op "="])]]
  | .wildcard => [node .other [soft "_"]]
  | .value => [node .other [pattern .member, notAhead (choice [op ".", op "(", op "="])]]
  | .member => [node .member [pattern .nameOrMember, op ".", word]]
  | .nameOrMember => [pattern .member, name]
  | .group => [plain [op "(", pattern .pattern, op ")"]]
  | .sequence => [
    node .other [op "[", optional (pattern .items), op "]"],
    node .other [op "(", optional (pattern .openSequence), op ")"]]
  | .openSequence => [plain [pattern .item, op ",", optional (pattern .items)]]
  | .items => [plain [separated (op ",") (pattern .item), optional (op ",")]]
  | .item => [pattern .starItem, pattern .pattern]
  | .starItem => [node .other [op "*", pattern .captured], node .other [op "*", pattern .wildcard]]
  | .mapping => [
    node .other [op "\x7b", op "\x7d"],
    node .other [op "\x7b", pattern .doubleStar, optional (op ","), op "\x7d"],
    node .other [op "\x7b", pattern .entries, op ",", pattern .doubleStar, optional (op ","),
      op "\x7d"],
    node .other [op "\x7b", pattern .entries, optional (op ","), op "\x7d"]]
  | .entries => [separated (op ",") (pattern .entry)]
  | .entry => [plain [choice [pattern .literalKey, pattern .member], op ":", pattern .pattern]]
  | .doubleStar => [plain [op "**", pattern .captured]]
  | .classPattern => [
    node .other [pattern .nameOrMember, op "(", op ")"],
    node .other [pattern .nameOrMember, op "(", pattern .positional, optional (op ","), op ")"],
    node .other [pattern .nameOrMember, op "(", pattern .namedList, optional (op ","), op ")"],
    node .other [pattern .nameOrMember, op "(", pattern .positional, op ",", pattern .namedList,
      optional (op ","), op ")"]]
  | .positional => [separated (op ",") (pattern .pattern)]
  | .namedList => [separated (op ",") (pattern .named)]
  | .named => [plain [word, op "=", pattern .pattern]]

end ModuleBridge.Source.Grammar
