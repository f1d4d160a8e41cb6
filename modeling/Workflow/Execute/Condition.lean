import Workflow.Execute.Entry

/-!
# Workflow.Execute.Condition

Condition nodes select the handle of the first condition that holds.  Empty
conditions are passed over, and so are those that cannot be evaluated; where
none holds the default handle is selected.
-/

namespace Workflow.Execute

open Run

/-- The text of a condition, without blanks at its ends. -/
def conditionText (condition : Value) : Except Fault String := do
  match (← condition.read "expression").orElse (.str "") with
  | .str s => return Text.strip s
  | v => throw (.noAttribute v.typeName "strip")

/-- The output of a branching node that selects a handle. -/
def selecting (handle : Value) : Value := .record [("selectedHandleId", handle)]

/-- Tries conditions in order, `index` being that of the first. -/
def selectFrom (plan : Plan) (n : Node) (context : Entries) (index : Nat) : List Value → Work Value
  | [] => do
    let default := (← Work.lift (n.setting "defaultOutputHandleId")).orElse
      (.str (n.id.text ++ "-output-default"))
    Work.note plan n .info "No condition matched" (selecting default)
    return selecting default
  | condition :: rest => do
    let text ← Work.lift (conditionText condition)
    if text.isEmpty then
      Work.record .control .warning s!"{n.id.text}: condition {index + 1} has an empty expression"
      selectFrom plan n context (index + 1) rest
    else match Expr.evaluate text context with
      | .error e =>
        Work.note plan n .warning s!"Condition {index + 1} could not be evaluated"
          (.record [("expression", .str text), ("error", .str e.message)])
        selectFrom plan n context (index + 1) rest
      | .ok v =>
        if v.truthy then
          let handle ← Work.lift (condition.read "outputHandleId")
          let label ← Work.lift (condition.read "label")
          Work.note plan n .info s!"Condition {index + 1} matched"
            (.record [("conditionIndex", .int index), ("conditionLabel", label), ("selectedHandleId", handle)])
          return selecting handle
        else selectFrom plan n context (index + 1) rest

/-- A condition node. -/
def condition (plan : Plan) (n : Node) : Work Value := do
  let w ← Work.get
  let n := w.node n
  let context ← Work.lift (w.context plan.graph none)
  let conditions ← Work.lift do (← n.setting "conditions").itemsOrNone
  selectFrom plan n context 0 conditions

end Workflow.Execute
