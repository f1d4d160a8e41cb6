import Workflow.Expr.Builtin
import Workflow.Json.Read
import Workflow.Run.Failure
import Workflow.Run.Log
import Workflow.Value.Index

/-!
# Workflow.Service.Anthropic

Model turns by way of the Anthropic Messages API.

1. A turn that begins a conversation sends the messages of its request.  When
   the model asks for tools, the messages so far and its whole answer are
   parked under a fresh checkpoint.
2. A turn that names a checkpoint takes the parked conversation and goes on
   with one message that holds the results of the tools, in the order in which
   they are given.  A conversation that has been taken is no longer parked.
3. `begin` is what happens before the API is asked, `conclude` what happens
   once it has answered; other turns may come between the two.
-/

namespace Workflow.Service

open Run

/-! ## Messages -/

/-- A block of an answer, by its fields. -/
structure Block where
  fields : Entries
deriving Inhabited

namespace Block

/-- A field of a block. -/
def field (b : Block) (name : String) : Value := Entries.field b.fields name

/-- Is the block of the kind? -/
def isKind (b : Block) (kind : String) : Bool := (b.field "type").eq (.str kind)

end Block

/-- The result of a tool, for the use that it answers. -/
structure ToolResult where
  useId : Value
  content : Value
deriving Inhabited

/-- What a message says. -/
inductive Content where
  | given (v : Value)
  | answer (blocks : List Block)
  | results (rs : List ToolResult)
deriving Inhabited

/-- A message of a conversation. -/
structure Message where
  role : Value
  content : Content
deriving Inhabited

/-- What the API is asked. -/
structure Query where
  model : Value
  maxTokens : Value
  messages : List Message
  system : Option Value
  tools : List Value
deriving Inhabited

/-! ## Requests -/

/-- A tool as the API describes tools. -/
def toolDefinition (tool : Value) : Except Fault Value := do
  let anything : Value := .record [("type", .str "object"), ("properties", .record [])]
  let schema := (← tool.read "input_schema").orElse ((← tool.read "schema").orElse anything)
  let name ← tool.item (.str "name")
  let description := (← tool.read "description").orElse (.str "")
  return .record [("name", name), ("description", description), ("input_schema", schema)]

/-- A message of a request. -/
def givenMessage (m : Value) : Except Fault Message := do
  return ⟨← m.item (.str "role"), .given (← m.item (.str "content"))⟩

/-- The result of a tool, from a message of a request. -/
def toolResult (m : Value) : Except Fault ToolResult := do
  return ⟨← m.item (.str "tool_call_id"), ← m.item (.str "content")⟩

/-! ## Conversations -/

/-- The defaults of queries, and the conversations that wait for tool results. -/
structure Conversations where
  model : Value
  maxTokens : Value
  parked : List (String × List Message)
  /-- How many checkpoints there have been. -/
  issued : Nat
deriving Inhabited

/-- The model that is asked where a node names none. -/
def defaultModel : String := "claude-sonnet-4-5-20250929"

/-- The length of an answer where a node limits it by itself. -/
def defaultMaxTokens : Int := 4096

namespace Conversations

/-- No conversations. -/
def empty (model maxTokens : Value) : Conversations := ⟨model, maxTokens, [], 0⟩

/-- The conversation parked under a checkpoint. -/
def find? (cs : Conversations) (checkpoint : Value) : Option (List Message) :=
  match checkpoint with
  | .str id => cs.parked.lookup id
  | _ => none

/-- Without the conversation parked under a checkpoint. -/
def drop (cs : Conversations) (checkpoint : Value) : Conversations :=
  { cs with parked := cs.parked.filter fun (id, _) => !(Value.str id).eq checkpoint }

/-- The name of the next checkpoint. -/
def nextCheckpoint (cs : Conversations) : String := s!"checkpoint-{cs.issued + 1}"

/-- Parks a conversation under a fresh checkpoint. -/
def park (cs : Conversations) (messages : List Message) : Conversations :=
  { cs with parked := cs.parked ++ [(cs.nextCheckpoint, messages)], issued := cs.issued + 1 }

/-- A turn that has asked the API. -/
structure Turn where
  query : Query
  wantsJson : Bool

/-- The query of a turn that goes on with the messages. -/
def query (cs : Conversations) (node : Value) (messages : List Message) : Except Fault Turn := do
  let model := (← node.read "model").orElse cs.model
  let maxTokens := (← node.read "max_tokens").orElse cs.maxTokens
  let prompt ← node.read "system_prompt"
  let tools ← (← (← node.read "tools").itemsOrNone).mapM toolDefinition
  let wantsJson := (← node.read "output_type").eq (.str "JSON")
  return ⟨⟨model, maxTokens, messages, if prompt.truthy then some prompt else none, tools⟩, wantsJson⟩

/-- The first half of a turn: finds the conversation and makes the query. -/
def begin (cs : Conversations) (request checkpoint : Value) : Conversations × Except Problem Turn :=
  let read (name : String) : Except Problem Value := (request.read name).mapError .fault
  let parts : Except Problem (Value × Value) := do
    return ((← read "chat_model_node").orElse (.record []), ← read "messages")
  match parts with
  | .error p => (cs, .error p)
  | .ok (node, incoming) => match checkpoint with
    | .null =>
      let turn : Except Fault Turn := do
        cs.query node (← (← incoming.itemsOrNone).mapM givenMessage)
      (cs, turn.mapError .fault)
    | checkpoint => match checkpoint.keyOf, cs.find? checkpoint with
      | .error f, _ => (cs, .error (.fault f))
      | .ok _, none => (cs, .error (.service ⟨"Unknown checkpoint: " ++ checkpoint.text, none⟩))
      | .ok _, some messages =>
        let turn : Except Fault Turn := do
          let results ← (← incoming.itemsOrNone).mapM toolResult
          cs.query node (messages ++ [⟨.str "user", .results results⟩])
        (cs.drop checkpoint, turn.mapError .fault)

/-- A tool call from the block that asks for it. -/
def toolCall (b : Block) : Except Fault ToolCall := do
  let args ← Expr.updateFrom [] ((b.field "input").orElse (.record []))
  return ⟨b.field "name", .dict none args, b.field "id"⟩

/-- The reply that asks for tools, the conversation being parked. -/
def askForTools (cs : Conversations) (turn : Turn) (blocks uses : List Block) :
    Conversations × Except Fault ChatReply :=
  let checkpoint := Value.str cs.nextCheckpoint
  let parked := cs.park (turn.query.messages ++ [⟨.str "assistant", .answer blocks⟩])
  (parked, do return ⟨.null, ← uses.mapM toolCall, .null, checkpoint⟩)

/-- The reply that ends a conversation, and what is recorded about it. -/
def closingReply (turn : Turn) (blocks : List Block) : List Record × Except Fault ChatReply :=
  match joinTexts ((blocks.filter (·.isKind "text")).map (·.field "text")) with
  | .error f => ([], .error f)
  | .ok text =>
    if !turn.wantsJson then ([], .ok ⟨.str text, [], .null, .null⟩)
    else match Json.read text with
      | .ok v => ([], .ok ⟨.str text, [], v, .null⟩)
      | .error _ => ([⟨.anthropic, .warning, "Model returned non-JSON output for a JSON node"⟩],
          .ok ⟨.str text, [], .null, .null⟩)

/-- The second half of a turn, the API having failed or answered in blocks. -/
def conclude (cs : Conversations) (turn : Turn) (answer : Except String (List Block)) :
    Conversations × List Record × Except Problem ChatReply :=
  match answer with
  | .error message => (cs, [], .error (.service ⟨"Anthropic request failed: " ++ message, none⟩))
  | .ok blocks => match blocks.filter (·.isKind "tool_use") with
    | [] =>
      let (records, reply) := closingReply turn blocks
      (cs, records, reply.mapError .fault)
    | uses =>
      let (cs, reply) := cs.askForTools turn blocks uses
      (cs, [], reply.mapError .fault)

end Conversations

/-! ## The API -/

/-- Answers to come and queries made. -/
structure Api where
  pending : List (Except String (List Block))
  queries : List Query
  /-- Why a query fails for which no answer is left. -/
  silence : String

/-- Asks the API. -/
def Api.ask (a : Api) (q : Query) : Except String (List Block) × Api :=
  match a.pending with
  | [] => (.error a.silence, { a with queries := a.queries ++ [q] })
  | r :: rest => (r, { a with pending := rest, queries := a.queries ++ [q] })

/-- What a turn leaves behind. -/
structure TurnEnd where
  conversations : Conversations
  api : Api
  records : List Record
  reply : Except Problem ChatReply

/-- A whole turn. -/
def Conversations.turn (cs : Conversations) (api : Api) (request checkpoint : Value) : TurnEnd :=
  match cs.begin request checkpoint with
  | (cs, .error p) => ⟨cs, api, [], .error p⟩
  | (cs, .ok turn) =>
    let (answer, api) := api.ask turn.query
    let (cs, records, reply) := cs.conclude turn answer
    ⟨cs, api, records, reply⟩

end Workflow.Service
