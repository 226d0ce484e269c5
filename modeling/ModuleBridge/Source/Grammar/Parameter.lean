import ModuleBridge.Source.Grammar.Form

/-!
# The grammar of parameters

Parameters come in the order: those given by position, a slash, those given by position or name, a
star, those given by name, and two stars. A parameter with a default is not followed by one without
before the star. Only in a definition are there brackets around the list and annotations in it.
-/

namespace ModuleBridge.Source.Grammar

/-- The alternatives of a rule for parameters. -/
def parameterAlternatives : ParameterRule → List Alternative
  | .list => [node .parameters [parameter .parameters]]
  | .parameters => [
    plain [parameter .slashNoDefault, repeated (parameter .noDefault),
      repeated (parameter .withDefault), optional (parameter .afterStar)],
    plain [parameter .slashWithDefault, repeated (parameter .withDefault),
      optional (parameter .afterStar)],
    plain [oneOrMore (parameter .noDefault), repeated (parameter .withDefault),
      optional (parameter .afterStar)],
    plain [oneOrMore (parameter .withDefault), optional (parameter .afterStar)],
    parameter .afterStar]
  | .slashNoDefault => [
    plain [oneOrMore (parameter .noDefault), op "/", op ","],
    plain [oneOrMore (parameter .noDefault), op "/", ahead (op ")")]]
  | .slashWithDefault => [
    plain [repeated (parameter .noDefault), oneOrMore (parameter .withDefault), op "/", op ","],
    plain [repeated (parameter .noDefault), oneOrMore (parameter .withDefault), op "/",
      ahead (op ")")]]
  | .afterStar => [
    node .aside [op "*", parameter .noDefault, repeated (parameter .maybeDefault),
      optional (parameter .doubleStar)],
    node .aside [op "*", parameter .noDefaultStar, repeated (parameter .maybeDefault),
      optional (parameter .doubleStar)],
    node .aside [op "*", op ",", oneOrMore (parameter .maybeDefault),
      optional (parameter .doubleStar)],
    node .aside [parameter .doubleStar]]
  | .doubleStar => [plain [op "**", parameter .noDefault]]
  | .noDefault =>
    [plain [parameter .parameter, op ","], plain [parameter .parameter, ahead (op ")")]]
  | .noDefaultStar =>
    [plain [parameter .starParameter, op ","], plain [parameter .starParameter, ahead (op ")")]]
  | .withDefault => [
    plain [parameter .parameter, parameter .default, op ","],
    plain [parameter .parameter, parameter .default, ahead (op ")")]]
  | .maybeDefault => [
    plain [parameter .parameter, optional (parameter .default), op ","],
    plain [parameter .parameter, optional (parameter .default), ahead (op ")")]]
  | .parameter => [node .parameter [word, optional (parameter .typeHint)]]
  | .starParameter => [node .parameter [word, parameter .starTypeHint]]
  | .typeHint => [plain [op ":", expression .expression]]
  | .starTypeHint => [plain [op ":", expression .starExpression]]
  | .default => [plain [op "=", expression .expression]]
  | .lambdaList => [node .parameters [parameter .lambdaParameters]]
  | .lambdaParameters => [
    plain [parameter .lambdaSlashNoDefault, repeated (parameter .lambdaNoDefault),
      repeated (parameter .lambdaWithDefault), optional (parameter .lambdaAfterStar)],
    plain [parameter .lambdaSlashWithDefault, repeated (parameter .lambdaWithDefault),
      optional (parameter .lambdaAfterStar)],
    plain [oneOrMore (parameter .lambdaNoDefault), repeated (parameter .lambdaWithDefault),
      optional (parameter .lambdaAfterStar)],
    plain [oneOrMore (parameter .lambdaWithDefault), optional (parameter .lambdaAfterStar)],
    parameter .lambdaAfterStar]
  | .lambdaSlashNoDefault => [
    plain [oneOrMore (parameter .lambdaNoDefault), op "/", op ","],
    plain [oneOrMore (parameter .lambdaNoDefault), op "/", ahead (op ":")]]
  | .lambdaSlashWithDefault => [
    plain [repeated (parameter .lambdaNoDefault), oneOrMore (parameter .lambdaWithDefault), op "/",
      op ","],
    plain [repeated (parameter .lambdaNoDefault), oneOrMore (parameter .lambdaWithDefault), op "/",
      ahead (op ":")]]
  | .lambdaAfterStar => [
    node .aside [op "*", parameter .lambdaNoDefault, repeated (parameter .lambdaMaybeDefault),
      optional (parameter .lambdaDoubleStar)],
    node .aside [op "*", op ",", oneOrMore (parameter .lambdaMaybeDefault),
      optional (parameter .lambdaDoubleStar)],
    node .aside [parameter .lambdaDoubleStar]]
  | .lambdaDoubleStar => [plain [op "**", parameter .lambdaNoDefault]]
  | .lambdaNoDefault =>
    [plain [parameter .lambdaParameter, op ","], plain [parameter .lambdaParameter, ahead (op ":")]]
  | .lambdaWithDefault => [
    plain [parameter .lambdaParameter, parameter .default, op ","],
    plain [parameter .lambdaParameter, parameter .default, ahead (op ":")]]
  | .lambdaMaybeDefault => [
    plain [parameter .lambdaParameter, optional (parameter .default), op ","],
    plain [parameter .lambdaParameter, optional (parameter .default), ahead (op ":")]]
  | .lambdaParameter => [node .parameter [word]]

end ModuleBridge.Source.Grammar
