import Workflow.Text.Properties

/-!
# Workflow.Expr.Operators

The C spelling of the boolean operators.

An expression may use `&&`, `||` and `!`.  `segments` divides a text, from the
left, into quoted literals, operators and single other characters; `normalize`
writes ` and `, ` or ` and ` not ` for the operators, keeps everything else,
and trims the result.  A `!` before `=` is no operator, and a quote that is
not closed is an ordinary character.
-/

namespace Workflow.Expr

/-! ## Segments -/

/-- A boolean operator in C spelling. -/
inductive BoolOperator where
  | conjunction | disjunction | negation
deriving DecidableEq, Inhabited

/-- A piece of an expression's text. -/
inductive Segment where
  | literal (text : List Char)
  | operator (op : BoolOperator)
  | other (c : Char)
deriving DecidableEq, Inhabited

/-- The length of a quoted literal from behind its opening quote to its closing
quote.  A backslash takes the character behind it along, which cannot be a
line feed. -/
def literalLength? (quote : Char) : List Char → Option Nat
  | [] => none
  | [c] => if c = quote then some 1 else none
  | c :: d :: rest =>
    if c = quote then some 1
    else if c = '\\' then
      if d = '\n' then none else (literalLength? quote rest).map (· + 2)
    else (literalLength? quote (d :: rest)).map (· + 1)

/-- The literal at the front of a text, given its first character. -/
def literalAt? (c : Char) (rest : List Char) : Option Nat :=
  if c = '"' || c = '\'' then literalLength? c rest else none

/-- Divides a text into literals, operators and other characters. -/
def segments : List Char → List Segment
  | [] => []
  | c :: rest =>
    match literalAt? c rest with
    | some n => .literal (c :: rest.take n) :: segments (rest.drop n)
    | none =>
      match c, rest with
      | '&', '&' :: more => .operator .conjunction :: segments more
      | '|', '|' :: more => .operator .disjunction :: segments more
      | '!', '=' :: more => .other '!' :: segments ('=' :: more)
      | '!', more => .operator .negation :: segments more
      | c, more => .other c :: segments more
termination_by cs => cs.length
decreasing_by all_goals simp_all <;> omega

/-! ## Spelling -/

/-- The word for an operator, with a blank on either side. -/
def BoolOperator.word : BoolOperator → List Char
  | .conjunction => [' ', 'a', 'n', 'd', ' ']
  | .disjunction => [' ', 'o', 'r', ' ']
  | .negation => [' ', 'n', 'o', 't', ' ']

/-- How a segment is spelled once operators are words. -/
def Segment.spelled : Segment → List Char
  | .literal text => text
  | .operator op => op.word
  | .other c => [c]

/-- The text with words for its boolean operators, trimmed. -/
def normalize (source : String) : String :=
  Text.strip (String.ofList ((segments source.toList).flatMap Segment.spelled))

end Workflow.Expr
