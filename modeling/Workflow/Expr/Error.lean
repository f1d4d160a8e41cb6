import Workflow.Expr.Syntax
import Workflow.Value.Fault
import Workflow.Value.Show

/-!
# Workflow.Expr.Error

Why an expression has no value.

A `Cause` is what stopped the evaluation.  An `EvalError` joins it to the
expression: its message quotes the text and then gives the cause's.  An empty
expression has no cause at all.
-/

namespace Workflow.Expr

/-- What stopped an evaluation. -/
inductive Cause where
  | invalid (p : SyntaxProblem)
  | noStatement
  | importing
  | unavailable (form : String)
  | hidden (name : String)
  | forbidden (name : String)
  | notAFunction
  | unknownName (name source : String)
  | unknownFunction (name source : String)
  | noAttribute (name source : String)
  | unknownOperator
  | numberTooHigh (op left right : String)
  | repeatTooLong
  | sumTooLong
  | literalTooLong (length : Nat)
  | textTooLong
  | tooManySteps
  | fault (f : Fault)
deriving Inhabited

/-- The longest sequence that an expression may build. -/
def maxLength : Nat := 100000

/-- The number of steps that the comprehensions of an expression may take. -/
def maxSteps : Nat := 10000

/-- The largest operand of a power. -/
def maxPower : Nat := 4000000

/-- The largest distance of a shift. -/
def maxShift : Nat := 10000

/-- The wording of a cause. -/
def Cause.message : Cause → String
  | .invalid _ => "<SyntaxError>"
  | .noStatement => "Sorry, cannot evaluate empty string"
  | .importing => "Sorry, 'import' is not allowed."
  | .unavailable form => s!"Sorry, {form} is not available in this evaluator"
  | .hidden name => s!"Sorry, access to __attributes  or func_ attributes is not available. ({name})"
  | .forbidden name => s!"Sorry, this method is not available. ({name})"
  | .notAFunction => "Lambda Functions not implemented"
  | .unknownName name source => s!"'{name}' is not defined for expression '{source}'"
  | .unknownFunction name source => s!"Function '{name}' not defined, for expression '{source}'."
  | .noAttribute name source => s!"Attribute '{name}' does not exist in expression '{source}'"
  | .unknownOperator => "<OperatorNotDefined>"
  | .numberTooHigh op l r => s!"Sorry! I don't want to evaluate {l} {op} {r}"
  | .repeatTooLong => "Sorry, I will not evaluate something that long."
  | .sumTooLong => "Sorry, adding those two together would make something too long."
  | .literalTooLong n => s!"Literal in statement is too long! ({n}, when {maxLength} is max)"
  | .textTooLong => "Sorry, I will not evaluate something this long."
  | .tooManySteps => "Comprehension generates too many elements"
  | .fault f => f.message

/-- Why an expression has no value. -/
inductive EvalError where
  | empty
  | failed (source : String) (cause : Cause)
deriving Inhabited

/-- The wording of an error. -/
def EvalError.message : EvalError → String
  | .empty => "Expression is empty"
  | .failed source cause => Text.quoted source ++ ": " ++ cause.message

end Workflow.Expr
