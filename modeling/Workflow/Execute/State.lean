import Workflow.Execute.Entry

/-!
# Workflow.Execute.State

State nodes update the state of the run, one key after the other.  An update
gives its key either a literal value or the value of an expression, and all
expressions see the state as it was when the node began.  An update without a
key, or with an expression that cannot be evaluated, changes nothing.
-/

namespace Workflow.Execute

open Run

/-- What an update comes to. -/
inductive Update where
  | keyless
  | set (key value : Value)
  | skip (key binding : Value) (e : Expr.EvalError)

/-- Reads and evaluates an update. -/
def readUpdate (context : Entries) (update : Value) : Except Fault Update := do
  let key ← update.read "key"
  if !key.truthy then return .keyless
  let binding ← update.read "binding"
  if binding.truthy then
    match Expr.evaluateAny binding context with
    | .ok v => return .set key v
    | .error (.error e) => return .skip key binding e
    | .error (.fault f) => throw f
  else return .set key (← update.read "value")

/-- Carries out an update, the `index`-th of its node in the given round. -/
def applyUpdate (plan : Plan) (n : Node) (origin : Origin) : Update → Work Unit
  | .keyless => Work.record .control .warning s!"{n.id.text}: state update without a key, skipping"
  | .skip key binding e =>
    Work.note plan n .warning ("State " ++ key.repr ++ " skipped")
      (.record [("binding", binding), ("error", .str e.message)])
  | .set key value => do
    let k ← Work.lift key.keyOf
    let value := value.adopt origin
    Work.modify fun w => { w with state := w.state.set key k value }
    Work.note plan n .info ("State " ++ key.repr ++ " updated") (.record [("key", key), ("value", value)])

/-- Reads and carries out updates in order. -/
def applyUpdates (plan : Plan) (n : Node) (context : Entries) (round index : Nat) : List Value → Work Unit
  | [] => pure ()
  | update :: rest => do
    let u ← Work.lift (readUpdate context update)
    applyUpdate plan n (.update n.id.key round index) u
    applyUpdates plan n context round (index + 1) rest

/-- A state node.  Its output is the whole state. -/
def state (plan : Plan) (n : Node) : Work Value := do
  let w ← Work.get
  let n := w.node n
  let round := w.rounds n.id.key
  let context ← Work.lift (w.context plan.graph (some ⟨.update n.id.key round 0, [stateName], 0⟩))
  let updates ← Work.lift do (← n.setting "stateUpdates").itemsOrNone
  applyUpdates plan n context round 0 updates
  let w ← Work.get
  return .dict none (w.lookEntries w.state)

end Workflow.Execute
