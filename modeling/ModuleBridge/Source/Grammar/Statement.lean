import ModuleBridge.Source.Grammar.Form

/-!
# The grammar of statements

A module is a list of statements. A simple statement ends with its line, a compound one has a block:
an indented list of statements, or simple statements on the same line.
-/

namespace ModuleBridge.Source.Grammar

/-- The alternatives of a rule for statements. -/
def statementAlternatives : StatementRule → List Alternative
  | .file => [node .module [optional (statement .statements), finish]]
  | .statements => [oneOrMore (statement .statement)]
  | .statement => [statement .compoundStatement, statement .simpleStatements]
  | .simpleStatements => [
    plain [statement .simpleStatement, notAhead (op ";"), newline],
    plain [separated (op ";") (statement .simpleStatement), optional (op ";"), newline]]
  | .simpleStatement => [
    statement .assignment,
    node .other [expression .starExpressions],
    plain [ahead (keyword "return"), statement .returnStatement],
    plain [ahead (choice [keyword "import", keyword "from"]), statement .importStatement],
    plain [ahead (keyword "raise"), statement .raiseStatement],
    node .other [keyword "pass"],
    plain [ahead (keyword "del"), statement .delStatement],
    plain [ahead (keyword "yield"), statement .yieldStatement],
    plain [ahead (keyword "assert"), statement .assertStatement],
    node .other [keyword "break"],
    node .other [keyword "continue"],
    plain [ahead (keyword "global"), statement .globalStatement],
    plain [ahead (keyword "nonlocal"), statement .nonlocalStatement]]
  | .compoundStatement => [
    plain [ahead (choice [keyword "def", op "@", keyword "async"]), statement .functionDefinition],
    plain [ahead (keyword "if"), statement .ifStatement],
    plain [ahead (choice [keyword "class", op "@"]), statement .classDefinition],
    plain [ahead (choice [keyword "with", keyword "async"]), statement .withStatement],
    plain [ahead (choice [keyword "for", keyword "async"]), statement .forStatement],
    plain [ahead (keyword "try"), statement .tryStatement],
    plain [ahead (keyword "while"), statement .whileStatement],
    statement .matchStatement]
  | .assignment => [
    node .annotate [name, op ":", expression .expression,
      optional (group [op "=", statement .rightSide])],
    node .annotate [choice [plain [op "(", target .single, op ")"], target .singlePlace], op ":",
      expression .expression, optional (group [op "=", statement .rightSide])],
    node .assign [oneOrMore (group [target .starTargets, op "="]),
      choice [expression .yielded, expression .starExpressions], notAhead (op "=")],
    node .augment [target .single, statement .augmentation, cut,
      choice [expression .yielded, expression .starExpressions]]]
  | .rightSide => [expression .yielded, expression .starExpressions]
  | .augmentation => [
    op "+=", op "-=", op "*=", op "@=", op "/=", op "%=", op "&=", op "|=", op "^=", op "<<=",
    op ">>=", op "**=", op "//="]
  | .returnStatement => [node .other [keyword "return", optional (expression .starExpressions)]]
  | .raiseStatement => [
    node .other [keyword "raise", expression .expression,
      optional (group [keyword "from", expression .expression])],
    node .other [keyword "raise"]]
  | .globalStatement => [node .other [keyword "global", separated (op ",") word]]
  | .nonlocalStatement => [node .other [keyword "nonlocal", separated (op ",") word]]
  | .delStatement =>
    [node .other [keyword "del", target .deletedList, ahead (choice [op ";", newline])]]
  | .yieldStatement => [node .other [expression .yielded]]
  | .assertStatement => [
    node .other [keyword "assert", expression .expression,
      optional (group [op ",", expression .expression])]]
  | .importStatement => [statement .importModules, statement .importFrom]
  | .importModules => [node .other [keyword "import", statement .moduleNames]]
  | .importFrom => [
    node .other [keyword "from", repeated (choice [op ".", op "..."]), statement .dottedName,
      keyword "import", statement .importedNames],
    node .other [keyword "from", oneOrMore (choice [op ".", op "..."]), keyword "import",
      statement .importedNames]]
  | .importedNames => [
    plain [op "(", statement .importedNameList, optional (op ","), op ")"],
    plain [statement .importedNameList, notAhead (op ",")],
    op "*"]
  | .importedNameList => [separated (op ",") (statement .importedName)]
  | .importedName => [node .other [word, optional (group [keyword "as", word])]]
  | .moduleNames => [separated (op ",") (statement .moduleName)]
  | .moduleName => [node .other [statement .dottedName, optional (group [keyword "as", word])]]
  | .dottedName => [plain [statement .dottedName, op ".", word], word]
  | .block => [plain [newline, indent, statement .statements, dedent], statement .simpleStatements]
  | .decorators => [node .other [oneOrMore (group [op "@", expression .named, newline])]]
  | .classDefinition =>
    [node .decorated [statement .decorators, statement .plainClass], statement .plainClass]
  | .plainClass => [
    node .other [keyword "class", word,
      optional (group [op "(", optional (expression .arguments), op ")"]), op ":",
      statement .block]]
  | .functionDefinition =>
    [node .decorated [statement .decorators, statement .plainFunction], statement .plainFunction]
  | .plainFunction => [
    node .function [keyword "def", word, op "(", optional (parameter .list), op ")",
      optional (group [op "->", expression .expression]), op ":", statement .block],
    node .coroutine [keyword "async", keyword "def", word, op "(", optional (parameter .list),
      op ")", optional (group [op "->", expression .expression]), op ":", statement .block]]
  | .ifStatement => [
    node .other [keyword "if", expression .named, op ":", statement .block, statement .elifBranch],
    node .other [keyword "if", expression .named, op ":", statement .block,
      optional (statement .elseBlock)]]
  | .elifBranch => [
    node .other [keyword "elif", expression .named, op ":", statement .block,
      statement .elifBranch],
    node .other [keyword "elif", expression .named, op ":", statement .block,
      optional (statement .elseBlock)]]
  | .elseBlock => [plain [keyword "else", op ":", statement .block]]
  | .whileStatement => [
    node .other [keyword "while", expression .named, op ":", statement .block,
      optional (statement .elseBlock)]]
  | .forStatement => [
    node .other [keyword "for", target .starTargets, keyword "in", cut, expression .starExpressions,
      op ":", statement .block, optional (statement .elseBlock)],
    node .other [keyword "async", keyword "for", target .starTargets, keyword "in", cut,
      expression .starExpressions, op ":", statement .block, optional (statement .elseBlock)]]
  | .withStatement => [
    node .other [keyword "with", op "(", separated (op ",") (statement .withItem),
      optional (op ","), op ")", op ":", statement .block],
    node .other [keyword "with", separated (op ",") (statement .withItem), op ":",
      statement .block],
    node .other [keyword "async", keyword "with", op "(", separated (op ",") (statement .withItem),
      optional (op ","), op ")", op ":", statement .block],
    node .other [keyword "async", keyword "with", separated (op ",") (statement .withItem), op ":",
      statement .block]]
  | .withItem => [
    node .other [expression .expression, keyword "as", target .starTarget,
      ahead (choice [op ",", op ")", op ":"])],
    node .other [expression .expression]]
  | .tryStatement => [
    node .other [keyword "try", op ":", statement .block, statement .finallyBlock],
    node .other [keyword "try", op ":", statement .block, oneOrMore (statement .exceptBlock),
      optional (statement .elseBlock), optional (statement .finallyBlock)],
    node .other [keyword "try", op ":", statement .block, oneOrMore (statement .exceptStarBlock),
      optional (statement .elseBlock), optional (statement .finallyBlock)]]
  | .exceptBlock => [
    node .other [keyword "except", expression .expression, optional (group [keyword "as", word]),
      op ":", statement .block],
    node .other [keyword "except", op ":", statement .block]]
  | .exceptStarBlock => [
    node .other [keyword "except", op "*", expression .expression,
      optional (group [keyword "as", word]), op ":", statement .block]]
  | .finallyBlock => [plain [keyword "finally", op ":", statement .block]]
  | .matchStatement => [
    node .other [soft "match", statement .subject, op ":", newline, indent,
      oneOrMore (statement .caseBlock), dedent]]
  | .subject => [
    node .tuple [expression .starNamed, op ",", optional (expression .starNamedList)],
    expression .named]
  | .caseBlock => [
    node .other [soft "case", pattern .patterns, optional (statement .guard), op ":",
      statement .block]]
  | .guard => [plain [keyword "if", expression .named]]

end ModuleBridge.Source.Grammar
