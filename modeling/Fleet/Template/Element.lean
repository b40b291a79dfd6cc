import Fleet.Template.Value

/-!
# The parts of a template

A template is a list of elements: literal text, expressions whose value is printed, and blocks that
apply a helper to templates inside them. An expression names a value by a path or calls a helper.
-/

namespace Fleet.Template

/-- The way to a value. -/
structure Path where
  /-- The path as it was written; a helper of that name takes precedence. -/
  source : String
  /-- How many levels of blocks to leave first. -/
  up : Nat := 0
  /-- Whether to start from the outermost level. -/
  fromRoot : Bool := false
  /-- Whether a variable of the block is meant, and not a name. -/
  isVariable : Bool := false
  names : List String
  deriving Repr, DecidableEq

/-- An expression. -/
inductive Expr where
  /-- A value written out. -/
  | literal (value : Value)
  /-- A value by its path. -/
  | path (path : Path)
  /-- A helper applied to arguments, some of them under names. -/
  | call (helper : String) (arguments : List Expr) (named : List (String × Expr))
  deriving Repr

/-- A helper at the head of a block, applied to arguments, with the names that it may give to
values. -/
structure Head where
  helper : String
  arguments : List Expr
  /-- Its arguments under names. -/
  named : List (String × Expr) := []
  /-- The names it may give. -/
  bindings : List String := []
  deriving Repr

/-- A part of a template. -/
inductive Element where
  /-- Text that stands for itself. -/
  | text (cs : List Char)
  /-- The value of an expression. -/
  | print (e : Expr)
  /-- Another template by its name. -/
  | inclusion (name : String)
  /-- A helper applied to the parts inside, and to those after `else` where there are any. -/
  | block (head : Head) (body : List Element) (inverse : Option (List Element))
  deriving Repr

end Fleet.Template
