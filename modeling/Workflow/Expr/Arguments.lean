import Workflow.Value.Compare

/-!
# Workflow.Expr.Arguments

The arguments of a call, and the ways in which they can fail to fit.
-/

namespace Workflow.Expr

/-- Positional arguments in order, keyword arguments by name, and whether there
is a keyword argument that has no name. -/
structure Arguments where
  positional : List Value
  keywords : List (String × Value)
  nameless : Bool

namespace Arguments

/-- Refuses keywords. -/
def noKeywords (a : Arguments) (callee : String) : Except Fault (List Value) :=
  if a.keywords.isEmpty then .ok a.positional else .error (.takesNoKeywords callee)

/-- No argument at all. -/
def empty (a : Arguments) (callee : String) : Except Fault Unit := do
  let xs ← a.noKeywords callee
  if xs.isEmpty then return else throw (.takesNone callee xs.length)

/-- Exactly one argument. -/
def one (a : Arguments) (callee : String) : Except Fault Value := do
  match ← a.noKeywords callee with
  | [x] => return x
  | xs => throw (.takesOne callee xs.length)

/-- Between `low` and `high` arguments, counted as `name expected …`. -/
def between (a : Arguments) (callee name : String) (low high : Nat) : Except Fault (List Value) := do
  let xs ← a.noKeywords callee
  if xs.length < low then throw (.expectedAtLeast name low xs.length)
  else if high < xs.length then throw (.expectedAtMost name high xs.length)
  else return xs

/-- Between `low` and `high` arguments, counted as `name() takes …`. -/
def taking (a : Arguments) (callee name : String) (low high : Nat) : Except Fault (List Value) := do
  let xs ← a.noKeywords callee
  if xs.length < low then throw (.takesAtLeast name low xs.length)
  else if high < xs.length then throw (.takesAtMost name high xs.length)
  else return xs

/-- Arguments that may be given by position or by name. -/
def named (a : Arguments) (callee : String) (names : List String) :
    Except Fault (List (Option Value)) := do
  let given := a.positional.length + a.keywords.length
  if names.length < given then throw (.takesAtMost callee names.length given)
  match a.keywords.find? fun (k, _) => !names.contains k with
  | some (k, _) => throw (.unknownKeyword callee k)
  | none => return names.mapIdx fun i n => (a.positional[i]?).or (a.keywords.lookup n)

end Arguments

/-! ## Single arguments -/

/-- The type of an argument, as its refusal names it: null goes by its value. -/
def givenType (v : Value) : String :=
  match v with
  | .null => "None"
  | v => v.typeName

/-- An integer. -/
def indexArgument (v : Value) : Except Fault Int :=
  match v.asInt? with
  | some n => .ok n
  | none => .error (.notAnIndex v.typeName)

/-- A bound of a range; null stands for the default. -/
def boundArgument (v : Value) : Except Fault (Option Int) :=
  match v with
  | .null => .ok none
  | v => match v.asInt? with
    | some n => .ok (some n)
    | none => .error (.sliceIndex true)

/-- The range that optional bounds leave of a sequence: start and stop, where
the start may lie behind the stop. -/
def rangeOf (length : Nat) (start? stop? : Option Int) : Nat × Nat :=
  let fromEnd (n : Int) : Nat := if n < 0 then (n + length).toNat else n.toNat
  (fromEnd (start?.getD 0), min (fromEnd (stop?.getD length)) length)

end Workflow.Expr
