import Workflow.Graph.Basic

/-!
# Workflow.Graph.Document

Graphs as documents describe them, and what a document declares besides:
the inputs of its start node and the tools that carry their own code.
-/

namespace Workflow

/-- The graph of a document: its nodes in order, then its edges in order. -/
def Graph.ofDocument (document : Value) : Except GraphError Graph := do
  let nodes ← GraphError.lift do (← document.read "nodes").itemsOrNone
  let g ← nodes.foldlM (fun (g : Graph) entry => do g.addNode (← Node.ofValue entry)) Graph.empty
  let edges ← GraphError.lift do (← document.read "edges").itemsOrNone
  edges.foldlM (fun (g : Graph) entry => do g.addEdge (← Edge.ofValue entry)) g

/-- The inputs that a start node declares. -/
structure StartParams where
  schema : Value
  type : Value

/-- The inputs that the first start node declares. -/
def Graph.startParams (g : Graph) : Except Fault StartParams := do
  let unknown : StartParams := ⟨.null, .str "unknown"⟩
  match g.nodes.find? fun n => n.kind = .start with
  | none => return unknown
  | some n =>
    if !n.payload.truthy then return unknown
    let schema := (← n.setting "schema").orElse .null
    return ⟨schema, (← n.setting "type").orElse (.str "unknown")⟩

/-- A tool that carries its own code. -/
structure CustomTool where
  name : Value
  requestSchema : Value
  responseSchema : Value
  body : Value

/-- The tool that a node declares, if it is a tool node with code. -/
def Node.customTool? (n : Node) : Except Fault (Option CustomTool) := do
  if n.kind ≠ .tool then return none
  if !(← n.setting "type").eq (.str "custom") then return none
  let tool ← n.setting "tool"
  if !tool.truthy then return none
  let name := (← tool.read "name").orElse (.str "Unknown")
  let requestSchema := (← tool.read "schema").orElse .null
  let responseSchema := (← tool.read "response_schema").orElse .null
  return some ⟨name, requestSchema, responseSchema, (← tool.read "function_body").orElse .null⟩

/-- The tools with code that the nodes declare. -/
def Graph.customTools (g : Graph) : Except Fault (List CustomTool) := do
  return (← g.nodes.mapM Node.customTool?).filterMap id

end Workflow
