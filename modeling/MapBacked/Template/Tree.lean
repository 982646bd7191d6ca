import MapBacked.Template.Value

/-!
# Template trees

What a template says once it is read: statements with expressions in them. A tree carries no
positions and no blanks, so two templates with the same tree render the same text.
-/

namespace MapBacked.Template

inductive Operator where
  | add | sub | mul | floorDiv | rem | concat
  | eq | ne | lt | le | gt | ge
  | isIn | notIn
deriving DecidableEq, Inhabited, Repr

/-- An expression. A chain compares every two neighbours. -/
inductive Expr where
  | literal (v : Value)
  | name (x : String)
  | list (items : List Expr)
  | attr (subject : Expr) (name : String)
  | item (subject key : Expr)
  | slice (subject start stop step : Expr)
  | neg (operand : Expr)
  | not (operand : Expr)
  | binary (op : Operator) (left right : Expr)
  | chain (first : Expr) (rest : List (Operator × Expr))
  | and (left right : Expr)
  | or (left right : Expr)
  | choice (condition yes no : Expr)
  | filter (name : String) (subject : Expr) (args : List Expr) (named : List (String × Expr))
  | test (name : String) (subject : Expr) (args : List Expr) (named : List (String × Expr))
  | call (name : String) (args : List Expr) (named : List (String × Expr))
  | method (subject : Expr) (name : String) (args : List Expr) (named : List (String × Expr))
  | apply (subject : Expr) (args : List Expr) (named : List (String × Expr))
deriving Inhabited

inductive Stmt where
  | text (s : String)
  | output (e : Expr)
  | branch (condition : Expr) (yes no : List Stmt)
  | loop (target : String) (source : Expr) (condition : Option Expr) (body otherwise : List Stmt)
  | assign (target : String) (e : Expr)
deriving Inhabited

end MapBacked.Template
