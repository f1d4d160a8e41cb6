import Workflow.Run.Work
import Workflow.Json.Write

/-!
# Workflow.Execute.Entry

The nodes at which a run begins and ends: start, end and upload.

The result of an end node is either a message with a timestamp or, where the
node asks for JSON, its inputs as they are.  An end node without bindings
takes the output of its first predecessor instead.
-/

namespace Workflow.Execute

open Run

/-! ## Substitutes for inputs -/

/-- Does a node with these inputs look for the output of its predecessor? -/
def needsFallback (n : Node) (inputs : Value) : Bool := !n.bindings.truthy || !inputs.truthy

/-- The inputs of a node: what its bindings give, or else what is made of the
output of its predecessor. -/
def inputsOr (plan : Plan) (n : Node) (fallback : Value → Except Fault Value) : Work Value := do
  let inputs ← Work.resolve plan n
  if needsFallback n inputs then
    let source := (← Work.get).predecessorOutput plan.graph n.id.key
    if source.truthy then Work.lift (fallback source) else return inputs
  else return inputs

/-- A value as one line of JSON. -/
def jsonLine (v : Value) : Except Fault String := Json.write Json.Style.line v

/-- Is the setting the given word? -/
def isWord (v : Value) (word : String) : Bool := v.eq (.str word)

/-! ## Start -/

/-- A start node passes on the initial inputs with a marker and the time. -/
def start (plan : Plan) (n : Node) : Work Value := do
  let inputs := (← Work.get).look plan.inputs
  Work.note plan n .info "Initial inputs received" (.record [("input", inputs)])
  let now := (← Work.get).now
  let es ← Work.lift (Entries.overlay
    [(.str "type", .str n.kind.name), (.str "timestamp", .int now)] inputs)
  return .dict none es

/-! ## End -/

/-- The message that an output is, or holds, or can be written as. -/
def messageOf (source : Value) : Except Fault Value := do
  let written : Except Fault Value := (jsonLine source).map .str
  match source with
  | .str _ => return source
  | .dict _ es =>
    let said := match Entries.field es "lastMessage" with
      | .dict _ last => Entries.field last "content"
      | _ => .null
    if said.truthy then return said
    match Entries.field es "response" with
    | .str s => return .str s
    | _ => written
  | _ => written

/-- An end node shapes the result of the run. -/
def finish (plan : Plan) (n : Node) : Work Value := do
  let n ← Work.current n
  let outputType := (← Work.lift (n.setting "output_type")).orElse (.str "TEXT")
  let asJson := isWord outputType "JSON"
  let inputs ← inputsOr plan n fun source => do
    if asJson then return .record [("data", source)]
    else return .record [("message", ← messageOf source)]
  Work.note plan n .info "Final inputs resolved" (.record [("input", inputs)])
  if asJson then return inputs
  let message ← Work.lift (inputs.read "message")
  let message ← if message.truthy then pure message else Work.lift ((jsonLine inputs).map .str)
  return .record [("message", message), ("timestamp", .int (← Work.get).now)]

/-! ## Upload -/

/-- An upload node passes on the file that was uploaded before the run. -/
def upload (n : Node) : Work Value := do
  let n ← Work.current n
  let uploaded ← Work.lift (n.setting "uploadedFile")
  if uploaded.truthy then return uploaded else Work.throw (.config .noUpload)

end Workflow.Execute
