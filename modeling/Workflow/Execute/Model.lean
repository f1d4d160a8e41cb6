import Workflow.Execute.Tool

/-!
# Workflow.Execute.Model

Model nodes ask a language model.

As long as the model asks for tools they are called, all those of one turn at
the same time, and the results go back in the order in which they were asked
for, as the continuation of the turn's checkpoint.
-/

namespace Workflow.Execute

open Run

/-! ## Tools -/

/-- The tool of a name in the settings of a node. -/
def findTool (name : Value) : List Value → Except Fault (Option Value)
  | [] => .ok none
  | t :: ts => do
    if (← t.read "name").eq name then return some t else findTool name ts

/-- The call of a tool, or why there is none. -/
def toolCall (plan : Plan) (tool : Value) (c : ToolCall) : Except Problem Call := do
  let read (name : String) : Except Problem Value := (tool.read name).mapError .fault
  let type ← read "type"
  if isWord type "custom" then
    if !plan.runsCode then throw .noCodeRunner
    let code := (← read "functionCode").orElse ((← read "function_body").orElse (.str ""))
    return .code c.name c.args code
  else if isWord type "built-in" then
    plan.reach .tools
    return .tool ((← read "id").orElse c.name) c.args
  else throw (.config (.toolType type c.name))

/-- Looks the tool up among those of the node and calls it. -/
def startTool (plan : Plan) (n : Node) (c : ToolCall) (w : World) : World × Except Problem Call :=
  let found : Except Fault (Option Value) := do
    findTool c.name (← ((w.node n).setting "tools" >>= Value.itemsOrNone))
  match found with
  | .error f => (w, .error (.fault f))
  | .ok none => (w, .error (.config (.unknownTool c.name)))
  | .ok (some tool) =>
    (w.record .llm .debug (n.id.text ++ ": calling tool " ++ c.name.text), toolCall plan tool c)

/-- The message that brings the result of a tool back to the model. -/
def toolMessage (c : ToolCall) (result : Value) : Except Problem Value := do
  let content ← match result with
    | .str _ => pure result
    | v => ((jsonLine v).map Value.str).mapError Problem.fault
  return .record [("role", .str "tool"), ("name", c.name), ("tool_call_id", c.callId), ("content", content)]

/-- A tool call of a model as a task of its own. -/
def toolTask (plan : Plan) (n : Node) (c : ToolCall) : ToolTask where
  start := startTool plan n c
  finish r := toolMessage c r.toValue

/-! ## Turns -/

/-- The request with other messages. -/
def withMessages (request : Entries) (messages : List Value) : Entries :=
  request.setField "messages" (.list messages)

/-- Asks the model, and goes on asking with the results of tools until it no
longer wants any. -/
def converse (plan : Plan) (n : Node) : Nat → Entries → Value → Work ChatReply
  | 0, _, _ => Work.throw .tooDeep
  | turns + 1, request, checkpoint => do
    Work.check (plan.reach .model)
    let reply := (← Work.call (.chat (.dict none request) checkpoint)).toChat
    if reply.toolCalls.isEmpty then return reply
    Work.note plan n .info "Model requested tool calls"
      (.record [("tools", .list (reply.toolCalls.map (·.name)))])
    let messages ← Work.tools (reply.toolCalls.map (toolTask plan n))
    converse plan n turns (withMessages request messages) reply.checkpoint

/-- The request of the first turn. -/
def firstRequest (n : Node) (inputs : Value) (now : Int) : Except Fault Entries := do
  let locale := (← n.setting "locale").orElse (.str "ko")
  let said := match inputs with
    | .dict _ es => Entries.field es "userMessage"
    | _ => .null
  let content ← if said.truthy then pure said else (jsonLine inputs).map .str
  return Entries.ofFields
    [("session_id", .str s!"workflow-{n.id.text}-{now}"), ("chat_model_node", n.payload),
     ("files", .list []), ("locale", locale), ("user_location", .null),
     ("use_all_built_in_tools", .bool false), ("use_background_summarize", .bool false),
     ("never_use_history", .bool true),
     ("messages", .list [.record [("role", .str "user"), ("content", content)]])]

/-- What a node makes of the last turn. -/
def modelOutput (n : Node) (reply : ChatReply) : Except Fault Value := do
  let wantsJson := isWord (← n.setting "output_type") "JSON"
  match wantsJson, reply.parsed with
  | true, .null => return .record [("response", reply.message)]
  | true, parsed => return parsed
  | false, _ => return .record [("response", reply.message)]

/-- A model node. -/
def model (plan : Plan) (n : Node) : Work Value := do
  let n ← Work.current n
  if !n.payload.truthy then Work.throw (.config .noModel)
  let inputs ← inputsOr plan n fun source => match source with
    | .str _ => .ok (.record [("userMessage", source)])
    | v => .ok v
  Work.note plan n .info "LLM inputs resolved" (.record [("input", inputs)])
  let request ← Work.lift (firstRequest n inputs (← Work.get).now)
  let reply ← converse plan n plan.turns request .null
  Work.lift (modelOutput n reply)

end Workflow.Execute
