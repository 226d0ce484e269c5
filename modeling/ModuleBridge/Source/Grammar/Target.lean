import ModuleBridge.Source.Grammar.Form

/-!
# The grammar of targets

Names, attributes and subscripts can be assigned to and deleted, and so can lists and tuples of
them. A target ends where no bracket and no dot follows: else it is only the beginning of one.
-/

namespace ModuleBridge.Source.Grammar

/-- The alternatives of a rule for targets. -/
def targetAlternatives : TargetRule → List Alternative
  | .starTargets => [
    plain [target .starTarget, notAhead (op ",")],
    node .tuple [target .starTarget, repeated (group [op ",", target .starTarget]),
      optional (op ",")]]
  | .listItems => [plain [separated (op ",") (target .starTarget), optional (op ",")]]
  | .tupleItems => [
    plain [target .starTarget, oneOrMore (group [op ",", target .starTarget]), optional (op ",")],
    plain [target .starTarget, op ","]]
  | .starTarget =>
    [node .starred [op "*", group [notAhead (op "*"), target .starTarget]], target .starPlace]
  | .starPlace => [
    node .member [target .primary, op ".", word, notAhead (target .goesOn)],
    node .subscript [target .primary, op "[", expression .slices, op "]",
      notAhead (target .goesOn)],
    target .starAtom]
  | .starAtom => [
    name,
    plain [op "(", target .starPlace, op ")"],
    node .tuple [op "(", optional (target .tupleItems), op ")"],
    node .list [op "[", optional (target .listItems), op "]"]]
  | .single => [target .singlePlace, name, plain [op "(", target .single, op ")"]]
  | .singlePlace => [
    node .member [target .primary, op ".", word, notAhead (target .goesOn)],
    node .subscript [target .primary, op "[", expression .slices, op "]",
      notAhead (target .goesOn)]]
  | .primary => [
    node .member [target .primary, op ".", word, ahead (target .goesOn)],
    node .subscript [target .primary, op "[", expression .slices, op "]", ahead (target .goesOn)],
    node .other [target .primary, expression .generator, ahead (target .goesOn)],
    node .other [target .primary, op "(", optional (expression .arguments), op ")",
      ahead (target .goesOn)],
    plain [expression .atom, ahead (target .goesOn)]]
  | .goesOn => [op "(", op "[", op "."]
  | .deletedList => [plain [separated (op ",") (target .deleted), optional (op ",")]]
  | .deleted => [
    node .member [target .primary, op ".", word, notAhead (target .goesOn)],
    node .subscript [target .primary, op "[", expression .slices, op "]",
      notAhead (target .goesOn)],
    target .deletedAtom]
  | .deletedAtom => [
    name,
    plain [op "(", target .deleted, op ")"],
    node .tuple [op "(", optional (target .deletedList), op ")"],
    node .list [op "[", optional (target .deletedList), op "]"]]

end ModuleBridge.Source.Grammar
