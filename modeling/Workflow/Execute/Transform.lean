import Workflow.Execute.Entry

/-!
# Workflow.Execute.Transform

Transformer nodes have the outputs of their sources fitted to what the node
behind them expects.
-/

namespace Workflow.Execute

open Run

/-- What the service is told about the source of an edge. -/
def sourceEntry (plan : Plan) (e : Edge NodeId) : Work Value := do
  let w ← Work.get
  let source ← Work.lift (plan.graph.node e.source.value)
  match w.output? source.id.key with
  | none => Work.throw (.config (.noSourceOutput source.id))
  | some output =>
    let description ← Work.lift ((w.node source).describe (.str "Source node"))
    return .record [("sourceOutput", output), ("sourceNode", description)]

/-- The descriptions of the sources of edges. -/
def sourceEntries (plan : Plan) : List (Edge NodeId) → Work (List Value)
  | [] => pure []
  | e :: es => do
    let v ← sourceEntry plan e
    let vs ← sourceEntries plan es
    return v :: vs

/-- A transformer node. -/
def transform (plan : Plan) (n : Node) : Work Value := do
  let n ← Work.current n
  let request ← Work.lift (n.setting "userRequest")
  if !request.truthy then Work.throw (.config .noUserRequest)
  let incoming := plan.graph.incoming n.id.key
  if incoming.isEmpty then Work.throw (.config .noIncoming)
  let sources ← sourceEntries plan incoming
  match plan.graph.outgoing n.id.key with
  | [] => Work.throw (.config .noDownstream)
  | e :: _ =>
    let target ← Work.current (← Work.lift (plan.graph.node e.target.value))
    Work.note plan n .info s!"Transforming {sources.length} source(s) for {target.id.text}"
      (.record [("inputs", .list sources), ("inputsCount", .int sources.length)])
    Work.check (plan.reach .transform)
    let description ← Work.lift (target.describe (.str "Target node"))
    let schema ← Work.lift target.inputSchema
    return (← Work.call (.transform request sources description schema)).toValue

end Workflow.Execute
