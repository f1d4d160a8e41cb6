import Workflow.Value.Basic

/-!
# Workflow.Expr.Syntax

The tree of an expression.

The language has more forms than the evaluator serves: those it recognises
and refuses are kept as `unavailable` with the name of the form, so that a
refusal can say what was met.  A source text may hold several statements, of
which the first is the one that counts.
-/

namespace Workflow.Expr

/-- Operators with one operand. -/
inductive UnaryOp where
  | not | negate | plus | invert
deriving DecidableEq, Inhabited

/-- Operators with two operands. -/
inductive BinaryOp where
  | add | subtract | multiply | divide | floorDivide | modulo | power
  | shiftLeft | shiftRight | bitOr | bitXor | bitAnd | matrixMultiply
deriving DecidableEq, Inhabited

/-- Comparisons. -/
inductive Comparison where
  | equal | notEqual | less | lessEqual | greater | greaterEqual | isSame | isOther | isIn | notIn
deriving DecidableEq, Inhabited

mutual

/-- An expression. -/
inductive Expr where
  | constant (v : Value)
  | joined (parts : List Expr)
  | formatted (value : Expr) (spec : Option Expr)
  | name (id : String)
  | unary (op : UnaryOp) (operand : Expr)
  | binary (op : BinaryOp) (left right : Expr)
  | every (operands : List Expr)
  | some (operands : List Expr)
  | compare (first : Expr) (rest : List (Comparison × Expr))
  | choice (test yes no : Expr)
  | call (callee : Expr) (arguments : List Expr) (keywords : List (Option String × Expr))
  | attribute (object : Expr) (name : String)
  | subscript (object key : Expr)
  | slice (lower upper step : Option Expr)
  | list (items : List Expr)
  | tuple (items : List Expr)
  | set (items : List Expr)
  | dict (entries : List (Option Expr × Expr))
  | comprehension (item : Expr) (clauses : List Clause)
  | dictComprehension (key value : Expr) (clauses : List Clause)
  | starred (operand : Expr)
  | unavailable (form : String)

/-- A `for` clause of a comprehension with its conditions. -/
inductive Clause where
  | mk (target source : Expr) (conditions : List Expr)

end

instance : Inhabited Expr := ⟨.constant .null⟩

/-- The first statement of a source text. -/
inductive Statement where
  | expression (e : Expr)
  | assignment (value : Expr)
  | importing
  | unavailable (form : String)

/-- Why a text is no source text. -/
inductive SyntaxProblem where
  | invalid
  | indentation
  | tabs
deriving DecidableEq, Inhabited

end Workflow.Expr
