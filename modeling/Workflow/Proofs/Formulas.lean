import Workflow.Expr.Eval

/-!
# Workflow.Proofs.Formulas

Boolean formulas over names, and how they are written.

A formula comes to one of its operands, or to the negation of one
(`Formula.operand`), and that is true where the formula holds
(`Formula.truthy_operand`).  `Written` says which rows of signs are a formula: `!` binds
closest, then `&&`, then `||`, and brackets may stand around any part.  `Spaced` says
which texts are such a row, with any number of spaces between the signs.
-/

namespace Workflow.Expr

/-- A boolean formula over names. -/
inductive Formula where
  | name (x : String)
  | not (f : Formula)
  | and (f g : Formula)
  | or (f g : Formula)

namespace Formula

/-- Does the formula hold, where names are true or false? -/
def holds (truth : String → Bool) : Formula → Bool
  | .name x => truth x
  | .not f => !f.holds truth
  | .and f g => f.holds truth && g.holds truth
  | .or f g => f.holds truth || g.holds truth

/-- What the formula comes to: a conjunction comes to its first operand if that is
false, a disjunction if that is true, and else both come to their second one. -/
def operand (values : String → Value) : Formula → Value
  | .name x => values x
  | .not f => .bool !(f.operand values).truthy
  | .and f g => if (f.operand values).truthy then g.operand values else f.operand values
  | .or f g => if (f.operand values).truthy then f.operand values else g.operand values

/-- The names in the formula. -/
def names : Formula → List String
  | .name x => [x]
  | .not f => f.names
  | .and f g | .or f g => f.names ++ g.names

/-- What a formula comes to is true where the formula holds. -/
theorem truthy_operand (values : String → Value) (f : Formula) :
    (f.operand values).truthy = f.holds fun x => (values x).truthy := by
  induction f with
  | name x => rfl
  | not f ih =>
      rw [operand, holds, ← ih]
      rfl
  | and f g ihf ihg =>
      rw [operand, holds, ← ihf, ← ihg]
      cases hf : (f.operand values).truthy <;> simp [hf]
  | or f g ihf ihg =>
      rw [operand, holds, ← ihf, ← ihg]
      cases hf : (f.operand values).truthy <;> simp [hf]

end Formula

/-! ## Signs -/

/-- What formulas are written with. -/
inductive Sign where
  | name (x : String)
  | negation
  | conjunction
  | disjunction
  | opening
  | closing

/-- How closely the parts of a row of signs are bound together. -/
inductive Binding where
  | disjunction
  | conjunction
  | single

/-- The rows of signs that are a formula. -/
inductive Written : Binding → Formula → List Sign → Prop
  | name (x : String) : Written .single (.name x) [.name x]
  | bracketed {f signs} (h : Written .disjunction f signs) : Written .single f (.opening :: (signs ++ [.closing]))
  | negation {f signs} (h : Written .single f signs) : Written .single (.not f) (.negation :: signs)
  | single {f signs} (h : Written .single f signs) : Written .conjunction f signs
  | conjunction {f g signs signs'} (hf : Written .conjunction f signs) (hg : Written .conjunction g signs') :
      Written .conjunction (.and f g) (signs ++ .conjunction :: signs')
  | conjoined {f signs} (h : Written .conjunction f signs) : Written .disjunction f signs
  | disjunction {f g signs signs'} (hf : Written .disjunction f signs) (hg : Written .disjunction g signs') :
      Written .disjunction (.or f g) (signs ++ .disjunction :: signs')

/-- How a sign is spelled. -/
def Sign.chars : Sign → List Char
  | .name x => x.toList
  | .negation => ['!']
  | .conjunction => ['&', '&']
  | .disjunction => ['|', '|']
  | .opening => ['(']
  | .closing => [')']

/-- The texts that are a row of signs with spaces before, between and after them. -/
inductive Spaced : List Sign → List Char → Prop
  | nil : Spaced [] []
  | space {signs cs} (h : Spaced signs cs) : Spaced signs (' ' :: cs)
  | sign (s : Sign) {signs cs} (h : Spaced signs cs) : Spaced (s :: signs) (s.chars ++ cs)

/-- May the character stand in a name? -/
def isNameChar (c : Char) : Bool := c.isAlphanum || c = '_'

/-- Names that are no words of the language: letters, digits and underscores, of which
the first is no digit. -/
structure IsName (x : String) : Prop where
  starts : ∃ c cs, x.toList = c :: cs ∧ (c.isAlpha || c = '_') = true
  chars : ∀ c ∈ x.toList, isNameChar c = true
  free : x ∉ Parse.keywords

end Workflow.Expr
