import Workflow.Expr.Operators
import Workflow.Expr.Parse
import Workflow.Expr.Error
import Workflow.Expr.Builtin
import Workflow.Value.Index
import Workflow.Value.Format

/-!
# Workflow.Expr.Eval

The value of an expression in a context of names.

1. A name is looked up in the comprehensions around it, in the context, among
   the constants and last among the functions.  A called name is looked up
   among the functions only.
2. `a.b` is the attribute of the value, or else its item `"b"`.
3. Limits keep an expression from building what would be too long: on powers,
   shifts, repetitions, sums and on the steps of comprehensions.

Evaluation follows the tree of the expression and so always ends.  Its state
is the number of steps taken and the variables of the comprehensions that are
open.
-/

namespace Workflow.Expr

/-! ## Names -/

/-- The constants that a context may redefine. -/
def constants : List (String × Value) :=
  [("true", .bool true), ("false", .bool false), ("null", .null),
   ("True", .bool true), ("False", .bool false), ("None", .null)]

/-- The functions by the names they have in expressions. -/
def functions : List (String × Builtin) :=
  [("size", .len), ("len", .len), ("str", .str), ("string", .str), ("int", .int), ("float", .float),
   ("double", .float), ("bool", .bool), ("abs", .abs), ("min", .min), ("max", .max), ("any", .any),
   ("all", .all), ("list", .list), ("tuple", .tuple), ("dict", .dict), ("set", .set)]

/-- What an evaluation reads: the context and the text of the expression. -/
structure Env where
  context : Entries
  source : String

/-- What an evaluation carries along: the steps taken, and the variables of
the open comprehensions, innermost first. -/
structure EvalState where
  steps : Nat
  scopes : List (List (String × Value))

/-- An evaluation. -/
abbrev Eval (α : Type) := StateT EvalState (Except Cause) α

/-- An operation on values as a part of an evaluation. -/
def lift (r : Except Fault α) : Eval α :=
  match r with
  | .ok a => pure a
  | .error f => throw (.fault f)

/-- The value of a name. -/
def lookupName (env : Env) (name : String) : Eval Value := do
  match (← get).scopes.findSome? fun scope => scope.lookup name with
  | some v => return v
  | none => match Entries.field? env.context name with
    | some v => return v
    | none => match constants.lookup name with
      | some v => return v
      | none => match functions.lookup name with
        | some f => return .builtin f
        | none => throw (.unknownName name env.source)

/-! ## Limits -/

/-- Does the value have a length that can be asked for? -/
def hasLength (v : Value) : Bool :=
  v.length?.isSome || match v with
    | .builtin f => [Builtin.str, .list, .tuple, .dict, .set].contains f
    | _ => false

/-- The length of a value that has one. -/
def lengthOf (v : Value) : Eval Nat :=
  match v.length? with
  | some n => pure n
  | none => throw (.fault (.noLength v.typeName))

/-- Is the size of a number above a limit?  Anything else has no size. -/
def exceeds (v : Value) (limit : Nat) : Eval Bool := do
  match ← lift v.absolute with
  | .float x => return Number.Binary64.compareInt limit x == some .lt
  | .int n => return decide (limit < n)
  | _ => return false

/-- The text of a number in a message. -/
def numberText (v : Value) : Eval String := lift v.text?

/-- Refuses an operation whose operands are too high. -/
def tooHigh (op : String) (v w : Value) : Eval α := do
  let l ← numberText v
  let r ← numberText w
  throw (.numberTooHigh op l r)

/-- A power with limited operands. -/
def limitedPower (v w : Value) : Eval Value := do
  if ← exceeds v maxPower then tooHigh "**" v w
  else if ← exceeds w maxPower then tooHigh "**" v w
  else lift (v.power w)

/-- The largest finite double, as an integer. -/
def maxShifted : Nat := Number.twoTo 1024 - Number.twoTo 971

/-- A shift with a limited distance. -/
def limitedShift (op : String) (shift : Value → Value → Except Fault Value) (v w : Value) : Eval Value := do
  if ← exceeds w maxShift then tooHigh op v w
  else if ← exceeds v maxShifted then tooHigh op v w
  else lift (shift v w)

/-- Would one operand, repeated by the other, be too long?  The product of the
other operand and the length is formed and compared first. -/
def checkRepeat (v count : Value) : Eval Unit := do
  if hasLength v then
    let n ← lengthOf v
    let size ← lift (count.multiply (.int n))
    if ← lift (Value.order .gt size (.int maxLength)) then throw .repeatTooLong

/-- A product with a limited length. -/
def limitedProduct (v w : Value) : Eval Value := do
  checkRepeat v w
  checkRepeat w v
  lift (v.multiply w)

/-- A sum with a limited length. -/
def limitedSum (v w : Value) : Eval Value := do
  if hasLength v && hasLength w then
    if maxLength < (← lengthOf v) + (← lengthOf w) then throw .sumTooLong
  lift (v.add w)

/-! ## Operators -/

/-- Applies a binary operator. -/
def applyBinary (op : BinaryOp) (v w : Value) : Eval Value :=
  match op with
  | .add => limitedSum v w
  | .subtract => lift (v.subtract w)
  | .multiply => limitedProduct v w
  | .divide => lift (v.divide w)
  | .floorDivide => lift (v.floorDivide w)
  | .modulo => lift (v.modulo w)
  | .power => limitedPower v w
  | .shiftLeft => limitedShift "<<" Value.shiftLeft v w
  | .shiftRight => limitedShift ">>" Value.shiftRight v w
  | .bitOr => lift (v.bitOr w)
  | .bitXor => lift (v.bitXor w)
  | .bitAnd => lift (v.bitAnd w)
  | .matrixMultiply => throw .unknownOperator

/-- Applies a unary operator. -/
def applyUnary (op : UnaryOp) (v : Value) : Eval Value :=
  match op with
  | .not => pure (.bool !v.truthy)
  | .negate => lift v.negate
  | .plus => lift v.plus
  | .invert => lift v.invert

/-- Do two expressions read the same place? -/
def samePlace : Expr → Expr → Bool
  | .name a, .name b => a == b
  | .attribute e a, .attribute f b => a == b && samePlace e f
  | .subscript e (.constant k), .subscript f (.constant l) => samePlace e f && k.eq l
  | _, _ => false

/-- Are two values one and the same?  Small scalars are shared, a mapping is
known by its identity, and any other value is the same as itself only where it
is read from one place. -/
def isSame (v w : Value) (place : Bool) : Bool :=
  match v, w with
  | .null, .null | .ellipsis, .ellipsis => true
  | .bool a, .bool b => a == b
  | .builtin f, .builtin g => f == g
  | .int m, .int n => m == n && (place || decide (-5 ≤ m ∧ m ≤ 256))
  | .str s, .str t => s == t && (place || decide (s.length ≤ 1))
  | .bytes a, .bytes b => a == b && (place || decide (a.length ≤ 1))
  | .tuple [], .tuple [] => true
  | .dict (some i) _, .dict (some j) _ => i == j
  | v, w => place && v.typeName == w.typeName

/-- Applies a comparison. -/
def applyComparison (op : Comparison) (v w : Value) (place : Bool) : Eval Bool :=
  match op with
  | .equal => pure (v.eq w)
  | .notEqual => pure !(v.eq w)
  | .less => lift (Value.order .lt v w)
  | .lessEqual => lift (Value.order .le v w)
  | .greater => lift (Value.order .gt v w)
  | .greaterEqual => lift (Value.order .ge v w)
  | .isSame => pure (isSame v w place)
  | .isOther => pure !(isSame v w place)
  | .isIn => lift (Value.member v w)
  | .notIn => do return !(← lift (Value.member v w))

/-! ## Attributes and variables -/

/-- The attribute of a value, or else its item of that name. -/
def readAttribute (env : Env) (v : Value) (name : String) : Eval Value :=
  match attribute? v name with
  | some w => pure w
  | none => match v with
    | .dict _ es => match Entries.field? es name with
      | some w => pure w
      | none => throw (.noAttribute name env.source)
    | _ => throw (.noAttribute name env.source)

/-- Gives a variable of the innermost comprehension a value. -/
def assign (name : String) (v : Value) : Eval Unit :=
  modify fun st => match st.scopes with
    | scope :: outer => { st with scopes := ((name, v) :: scope.filter fun (n, _) => n != name) :: outer }
    | [] => st

/-- The name of a form of expression that cannot be unpacked into. -/
def targetForm : Expr → String
  | .attribute .. => "Attribute"
  | .subscript .. => "Subscript"
  | .starred _ => "Starred"
  | _ => "Constant"

mutual

/-- Assigns a value to the names of a target, item by item. -/
def bind : Expr → Value → Eval Unit
  | .name n, v => assign n v
  | .tuple es, v => do bindAll es (← lift v.iterate)
  | .list es, v => do bindAll es (← lift v.iterate)
  | e, _ => throw (.fault (.noAttribute (targetForm e) "elts"))

/-- Assigns items to targets as long as there are both. -/
def bindAll : List Expr → List Value → Eval Unit
  | e :: es, v :: vs => do
    bind e v
    bindAll es vs
  | _, _ => pure ()

end

/-- Counts a step of a comprehension. -/
def countStep : Eval Unit := do
  modify fun st => { st with steps := st.steps + 1 }
  if maxSteps < (← get).steps then throw .tooManySteps

/-- Runs an evaluation with a comprehension of its own. -/
def withScope (body : Eval α) : Eval α := do
  modify fun st => { st with scopes := [] :: st.scopes }
  let r ← body
  modify fun st => { st with scopes := st.scopes.drop 1 }
  return r

/-- A constant, unless it is too long. -/
def constantValue (v : Value) : Eval Value :=
  match v.length? with
  | some n => if maxLength < n then throw (.literalTooLong n) else pure v
  | none => pure v

/-! ## Evaluation -/

mutual

/-- The value of an expression. -/
def eval (env : Env) : Expr → Eval Value
  | .constant v => constantValue v
  | .joined parts => do return .str (String.join (← evalTexts env parts))
  | .formatted value spec => do
    match spec with
    | none => eval env value
    | some spec =>
      let text ← eval env spec
      let v ← eval env value
      return .str (← lift (v.format text.text))
  | .name n => lookupName env n
  | .unary op e => do applyUnary op (← eval env e)
  | .binary op l r => do
    if op = .matrixMultiply then throw .unknownOperator
    let v ← eval env l
    let w ← eval env r
    applyBinary op v w
  | .every es => evalEvery env es
  | .some es => evalSome env es
  | .compare first rest => do
    let v ← eval env first
    return .bool (← evalComparisons env first v rest)
  | .choice test yes no => do
    if (← eval env test).truthy then eval env yes else eval env no
  | .call callee arguments keywords => do
    let f ← match callee with
      | .attribute object name => eval env (.attribute object name)
      | .name n => match functions.lookup n with
        | some f => pure (.builtin f)
        | none => throw (.unknownFunction n env.source)
      | _ => throw .notAFunction
    let ks ← evalKeywords env [] keywords
    let ps ← evalArguments env arguments
    lift (callValue f ⟨ps, ks, keywords.any fun (name, _) => name.isNone⟩)
  | .attribute object name => do
    if isHidden name then throw (.hidden name)
    if forbiddenMethods.contains name then throw (.forbidden name)
    let v ← eval env object
    readAttribute env v name
  | .subscript object key => do
    let v ← eval env object
    let k ← eval env key
    lift (v.item k)
  | .slice lower upper step => do
    let a ← evalOption env lower
    let b ← evalOption env upper
    let c ← evalOption env step
    return .slice a b c
  | .list es => do return .list (← evalItems env es)
  | .tuple es => do return .tuple (← evalArguments env es)
  | .set es => do return .set (← evalMembers env [] es)
  | .dict es => do return .dict none (← evalEntries env [] es)
  | .comprehension item clauses => do
    let made ← withScope (evalClauses env clauses (fun acc => do return (.null, ← eval env item) :: acc) [])
    return .list (made.reverse.map (·.2))
  | .dictComprehension key value clauses => do
    let es ← withScope (evalClauses env clauses (fun es => do
      let v ← eval env value
      let k ← eval env key
      return es.set k (← lift (Value.keyOf k)) v) [])
    return .dict none es
  | .starred _ => throw (.unavailable "Starred")
  | .unavailable form => throw (.unavailable form)
termination_by structural e => e

/-- The texts of the parts of a formatted literal. -/
def evalTexts (env : Env) : List Expr → Eval (List String)
  | [] => return []
  | e :: es => do
    let v ← eval env e
    let s ← lift v.text?
    if maxLength < s.length then throw .textTooLong
    let rest ← evalTexts env es
    return s :: rest
termination_by structural es => es

/-- The first operand that is false, or the last one. -/
def evalEvery (env : Env) : List Expr → Eval Value
  | [] => return .bool false
  | e :: es => do
    let v ← eval env e
    if es.isEmpty || !v.truthy then return v else evalEvery env es
termination_by structural es => es

/-- The first operand that is true, or the last one. -/
def evalSome (env : Env) : List Expr → Eval Value
  | [] => return .bool false
  | e :: es => do
    let v ← eval env e
    if es.isEmpty || v.truthy then return v else evalSome env es
termination_by structural es => es

/-- Do all comparisons of a chain hold?  The chain ends at the first that
does not. -/
def evalComparisons (env : Env) (left : Expr) (v : Value) : List (Comparison × Expr) → Eval Bool
  | [] => return true
  | (op, e) :: rest => do
    let w ← eval env e
    if ← applyComparison op v w (samePlace left e) then evalComparisons env e w rest
    else return false
termination_by structural es => es

/-- A bound of a slice; a missing one is null. -/
def evalOption (env : Env) : Option Expr → Eval Value
  | none => return .null
  | some e => eval env e
termination_by structural e => e

/-- The values of arguments. -/
def evalArguments (env : Env) : List Expr → Eval (List Value)
  | [] => return []
  | e :: es => do
    let v ← eval env e
    let vs ← evalArguments env es
    return v :: vs
termination_by structural es => es

/-- The items of a list display, with sequences spread out. -/
def evalItems (env : Env) : List Expr → Eval (List Value)
  | [] => return []
  | .starred e :: es => do
    let v ← eval env e
    let xs ← lift v.iterate
    let vs ← evalItems env es
    return xs ++ vs
  | e :: es => do
    let v ← eval env e
    let vs ← evalItems env es
    return v :: vs
termination_by structural es => es

/-- The members of a set display. -/
def evalMembers (env : Env) (xs : List Value) : List Expr → Eval (List Value)
  | [] => return xs
  | e :: es => do
    let v ← eval env e
    let xs ← lift (Value.addMember xs v)
    evalMembers env xs es
termination_by structural es => es

/-- The keywords of a call that have a name, a later one replacing an earlier
one.  What stands behind two stars is one argument without a name. -/
def evalKeywords (env : Env) (ks : List (String × Value)) :
    List (Option String × Expr) → Eval (List (String × Value))
  | [] => return ks
  | (some name, e) :: rest => do
    let v ← eval env e
    evalKeywords env (ks.filter (fun (n, _) => n != name) ++ [(name, v)]) rest
  | (none, e) :: rest => do
    let _ ← eval env e
    evalKeywords env ks rest
termination_by structural es => es

/-- The entries of a mapping display.  A value is found before its key. -/
def evalEntries (env : Env) (es : Entries) : List (Option Expr × Expr) → Eval Entries
  | [] => return es
  | (key, e) :: rest => do
    let v ← eval env e
    match key with
    | some k =>
      let k ← eval env k
      let key ← lift (Value.keyOf k)
      evalEntries env (es.set k key v) rest
    | none =>
      let es ← lift (updateFrom es v)
      evalEntries env es rest
termination_by structural es => es

/-- Do all conditions of a clause hold? -/
def evalConditions (env : Env) : List Expr → Eval Bool
  | [] => return true
  | e :: es => do
    if (← eval env e).truthy then evalConditions env es else return false
termination_by structural es => es

/-- Runs the body of a comprehension for every combination of its clauses; the
body adds an entry to what has been made. -/
def evalClauses (env : Env) : List Clause → (Entries → Eval Entries) → Entries → Eval Entries
  | [], body, acc => body acc
  | .mk target source conditions :: rest, body, acc => do
    let v ← eval env source
    let xs ← lift v.iterate
    xs.foldlM (fun acc x => do
      countStep
      bind target x
      if ← evalConditions env conditions then evalClauses env rest body acc else return acc) acc
termination_by structural cs => cs

end

/-! ## Whole expressions -/

/-- The value of the first statement of a source text. -/
def evalSource (env : Env) : Except Cause Value :=
  match statement? env.source with
  | .error p => .error (.invalid p)
  | .ok none => .error .noStatement
  | .ok (some s) => match s with
    | .expression e | .assignment e => (eval env e ⟨0, []⟩).map (·.1)
    | .importing => .error .importing
    | .unavailable form => .error (.unavailable form)

/-- The value of an expression in a context. -/
def evaluate (expression : String) (context : Entries) : Except EvalError Value :=
  if (Text.strip expression).isEmpty then .error .empty
  else match evalSource ⟨context, normalize expression⟩ with
    | .ok v => .ok v
    | .error cause => .error (.failed expression cause)

/-- An evaluation that fails, or stops for another reason: only texts can be
evaluated at all. -/
inductive Refusal where
  | error (e : EvalError)
  | fault (f : Fault)

/-- The value of an expression that may be any value. -/
def evaluateAny (expression : Value) (context : Entries) : Except Refusal Value :=
  match expression with
  | .str s => match evaluate s context with
    | .ok v => .ok v
    | .error e => .error (.error e)
  | v => if v.truthy then .error (.fault (.noAttribute v.typeName "strip")) else .error (.error .empty)

end Workflow.Expr
