import Workflow.Execute.Model
import Workflow.Execute.Retrieval
import Workflow.Execute.Transform
import Workflow.Execute.Condition
import Workflow.Execute.State
import Workflow.Execute.Loop

/-!
# Workflow.Execute.Dispatch

Executing a node.

1. `perform` does what the kind of the node asks for.
2. `execute` logs when that begins and how it ends.  A problem of the node
   becomes a `NodeError` that names it; the error of a node inside a loop's
   body stays what it is.
3. `dispatch` executes a node and stores its output.

A loop dispatches the nodes of its body, which may be loops again; `nesting`
bounds how deep that goes.
-/

namespace Workflow.Execute

open Run

/-- Runs a computation as the execution of a node, with entries in the log. -/
def execute (plan : Plan) (work : Work Value) (n : Node) : Work Value := do
  let kind := n.kind.name
  let origin := Origin.result n.id.key ((← Work.get).rounds n.id.key)
  Work.note plan n .start s!"{kind} node started" .null
  let started := (← Work.get).clock
  match ← Work.attempt work with
  | .ok output =>
    let output := output.adopt origin
    let elapsed := (← Work.get).clock - started
    Work.note plan n .complete s!"{kind} node completed"
      (.record [("output", output), ("duration_ms", .int (1000 * elapsed))])
    return output
  | .error (.node e) =>
    Work.note plan n .error e.message
      (.record [("error", .str e.message), ("failed_node", e.id.value)])
    Work.rethrow (.node e)
  | .error (.own p) =>
    Work.note plan n .error s!"{kind} node failed: {p.message}" (.record [("error", .str p.message)])
    Work.rethrow (.node ⟨n.id, n.kind, p⟩)

/-- Executes a node, if its kind can be, and stores the output. -/
def dispatchWith (plan : Plan) (perform : Node → Work Value) (n : Node) : Work Value := do
  if !plan.kinds.contains n.kind then Work.throw (.noExecutor n.kind n.id)
  let output ← execute plan (perform n) n
  Work.modify fun w => w.setOutput n.id output
  return output

/-- What a node does by its kind. -/
def perform (plan : Plan) : Nat → Node → Work Value
  | nesting, n => match n.kind with
    | .start => start plan n
    | .tool => tool plan n
    | .llm => model plan n
    | .transformer => transform plan n
    | .finish => finish plan n
    | .rag => retrieval plan n
    | .condition => condition plan n
    | .state => state plan n
    | .upload => upload n
    | .loop => match nesting with
      | 0 => Work.throw .tooDeep
      | nesting + 1 => loop plan (dispatchWith plan (perform plan nesting)) n

/-- Executes a node and stores its output. -/
def dispatch (plan : Plan) (n : Node) : Work Value := dispatchWith plan (perform plan plan.nesting) n

end Workflow.Execute
