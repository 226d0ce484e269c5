/-!
# Modules

A module is a list of statements. Of an expression the syntax keeps the names and the texts listed
in it; of a statement, what it binds at the top level of a module.
-/

namespace ModuleBridge.Source

/-- An expression. -/
inductive Expr
  | name (id : String)
  /-- A text given by string literals alone. -/
  | text (value : String)
  /-- Any other constant. -/
  | constant
  | list (items : List Expr)
  | tuple (items : List Expr)
  /-- The items of the expression. -/
  | starred (items : Expr)
  /-- Two expressions with a plus sign between them. -/
  | sum (left right : Expr)
  | attribute
  | subscript
  /-- Any other expression. -/
  | other
  deriving Repr

/-- A statement at the top level of a module. -/
inductive Statement
  /-- A value is assigned to each of the targets. -/
  | assign (targets : List Expr) (value : Expr)
  /-- A target is annotated, and perhaps assigned to. -/
  | annotate (target : Expr) (value : Option Expr)
  /-- A target is combined with a value by an operator. -/
  | augment (target value : Expr)
  /-- A function is defined, with the names of its positional parameters. -/
  | function (name : String) (parameters : List String)
  /-- A function is defined that runs as a coroutine. -/
  | coroutine (name : String) (parameters : List String)
  /-- Any other statement. -/
  | other
  deriving Repr

end ModuleBridge.Source
