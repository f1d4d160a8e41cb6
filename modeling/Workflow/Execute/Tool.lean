import Workflow.Execute.Entry

/-!
# Workflow.Execute.Tool

Tool nodes.  A tool with its own code goes to the collaborator that runs
code, a built-in tool to the one that knows tools by name.
-/

namespace Workflow.Execute

open Run

/-- A tool node calls its tool with the inputs of its bindings. -/
def tool (plan : Plan) (n : Node) : Work Value := do
  let inputs ← Work.resolve plan n
  Work.note plan n .info "Tool inputs resolved" (.record [("input", inputs)])
  let n ← Work.current n
  if !n.payload.truthy then Work.throw (.config .noToolConfiguration)
  let type ← Work.lift (n.setting "type")
  let tool := (← Work.lift (n.setting "tool")).orElse (.record [])
  if isWord type "custom" then
    if !plan.runsCode then Work.throw .noCodeRunner
    let name := (← Work.lift (tool.read "name")).orElse
      ((← Work.lift (tool.read "id")).orElse (.str "unknown"))
    let code := (← Work.lift (tool.read "function_body")).orElse (.str "")
    return (← Work.call (.code name inputs code)).toValue
  else if isWord type "built-in" then
    let id ← Work.lift (tool.read "id")
    if !id.truthy then Work.throw (.config .noToolId)
    Work.check (plan.reach .tools)
    return (← Work.call (.tool id inputs)).toValue
  else if isWord type "mcp" then Work.throw .unsupportedTool
  else Work.throw (.config (.unknownToolType type))

end Workflow.Execute
