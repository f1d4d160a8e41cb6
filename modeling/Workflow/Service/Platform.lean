import Workflow.Json.Write
import Workflow.Service.ChatStream
import Workflow.Service.Http
import Workflow.Value.Codec

/-!
# Workflow.Service.Platform

The platform: one service over HTTP that is a collaborator for models, tools,
retrieval and transformation.

1. Every request is a POST with a JSON body, and carries the access token if
   there is one.
2. A request that gets no response, a response that reports a failure and a
   response that is no JSON all become a `ServiceError` that says what was
   being asked for.
3. Where a response is JSON of another shape than expected, the fault is that
   of the operation that meets it.
-/

namespace Workflow.Service

open Run

/-- Where the access token comes from. -/
inductive Token where
  | absent
  | fixed (text : String)
  /-- There should be one, and it cannot be had. -/
  | failing (message : String)
deriving DecidableEq, Inhabited

/-- The platform at a base URL. -/
structure Platform where
  baseUrl : String
  token : Token
deriving DecidableEq, Inhabited

/-- The platform at an URL, whose slashes at the end do not matter. -/
def Platform.ofUrl (url : String) (token : Token) : Platform :=
  ⟨String.ofList (url.toList.reverse.dropWhile (· == '/')).reverse, token⟩

/-- What an exchange with the platform leaves behind. -/
structure Session where
  network : Network
  records : List Record
deriving Inhabited

/-- An exchange with the platform. -/
abbrev Exchange := ExceptT Problem (StateM Session)

/-- An operation on values as a step of an exchange. -/
def Exchange.lift (r : Except Fault α) : Exchange α :=
  match r with
  | .ok a => pure a
  | .error f => throw (.fault f)

/-- A failure of the service. -/
def Exchange.fail (message : String) (status : Option Int) : Exchange α := throw (.service ⟨message, status⟩)

/-! ## Responses -/

/-- Reads the JSON of a body, which may begin with a byte order mark. -/
def readBody (text : String) : Except Json.ReadError Value :=
  match text.toList with
  | '\ufeff' :: rest => Json.read (String.ofList rest)
  | _ => Json.read text

/-- What a response that reports a failure says about it: its message, its
error, or else the phrase or number of its status. -/
def errorDetail (status : Int) (text : String) : Value :=
  let phrase := reasonPhrase status
  let fallback := Value.str (if phrase.isEmpty then s!"HTTP {status}" else phrase)
  match readBody text with
  | .ok (.dict _ es) => (Entries.field es "message").orElse ((Entries.field es "error").orElse fallback)
  | _ => fallback

namespace Platform

/-! ## Requests -/

/-- The header that carries the token. -/
def authorization (p : Platform) : Exchange (Option String) :=
  match p.token with
  | .absent => return none
  | .fixed text => return some ("Bearer " ++ text)
  | .failing message => Exchange.fail message none

/-- Sends a body to a path. -/
def post (address : Address) (authorization : Option String) (path : String) (body : Value) :
    Exchange Delivery := do
  let target ← Exchange.lift (address.locate path)
  let _ ← Exchange.lift (Codec.ascii.encode "strict" (authorization.getD "").toList)
  let text ← Exchange.lift (Json.write Json.Style.compact body)
  let session ← get
  let (delivery, network) :=
    session.network.send ⟨"POST", address.host, target, authorization, "application/json", text⟩
  set { session with network }
  return delivery

/-- The response to a body, read as JSON; `what` names what is asked for. -/
def postJson (p : Platform) (what path : String) (body : Value) : Exchange Value := do
  let address ← Exchange.lift (Address.ofText p.baseUrl)
  let authorization ← p.authorization
  match ← post address authorization path body with
  | .refused reason | .broken _ _ reason => Exchange.fail (what ++ " request failed: " ++ reason) none
  | .response status text =>
    if isFailure status then
      Exchange.fail (what ++ " failed: " ++ (errorDetail status text).text) (some status)
    else match readBody text with
      | .ok v => return v
      | .error _ => Exchange.fail (what ++ " returned invalid JSON") none

/-- The field inside the data of a response, if it has any. -/
def dataField (response : Value) (name : String) : Except Fault Value := do
  ((← response.read "data").orElse (.record [])).read name

/-! ## Questions -/

/-- Has a built-in tool called. -/
def invoke (p : Platform) (id args : Value) : Exchange Value := do
  let response ← p.postJson "Built-in tool" ("/built-in-tool-node/" ++ id.text ++ "/invoke")
    (.record [("args", args)])
  let error ← Exchange.lift (response.read "error")
  if error.truthy then Exchange.fail ("Built-in tool failed: " ++ error.text) none
  match response.field? "output" with
  | some output => return output
  | none => Exchange.lift (dataField response "output")

/-- Has a storage searched. -/
def query (p : Platform) (storage text topK searchType filters : Value) : Exchange Value := do
  let body ← Exchange.lift (Entries.overlay
    [(.str "query", text), (.str "top_k", topK), (.str "search_type", searchType)]
    (filters.orElse (.record [])))
  let response ← p.postJson "RAG query" ("/ai-workflow/rag-storage-node/" ++ storage.text ++ "/query")
    (.dict none body)
  let inner ← Exchange.lift (dataField response "context")
  if inner.truthy then return inner
  return (← Exchange.lift (response.read "context")).orElse (.str "")

/-- Has outputs transformed. -/
def transform (p : Platform) (request : Value) (sources target schema : Value) : Exchange Value := do
  let response ← p.postJson "Auto-transformer" "/ai-workflow/helper-node/auto-transformer"
    (.record [("userRequest", request), ("sources", sources), ("targetNode", target),
      ("targetInputType", schema)])
  Exchange.lift (dataField response "result")

/-- Keeps the records that reading a stream made. -/
def keep (r : List Record × Except Problem ChatReply) : Exchange ChatReply := do
  modify fun s => { s with records := s.records ++ r.1 }
  match r.2 with
  | .ok reply => return reply
  | .error p => throw p

/-- Asks a model for a turn. -/
def chat (p : Platform) (request checkpoint : Value) : Exchange ChatReply := do
  let address ← Exchange.lift (Address.ofText p.baseUrl)
  let body ← Exchange.lift (Entries.overlay [] request)
  let body := (body.setField "checkpoint_id" checkpoint).setField "stream" (.bool true)
  let authorization ← p.authorization
  match ← post address authorization "/llm-completion" (.dict none body) with
  | .refused reason => Exchange.fail ("Model service request failed: " ++ reason) none
  | .response status text =>
    if isFailure status then Exchange.fail s!"Model service failed: HTTP {status}" (some status)
    else keep (chatReply (Text.lines text))
  | .broken status text reason =>
    if isFailure status then Exchange.fail s!"Model service failed: HTTP {status}" (some status)
    else keep (brokenReply (Text.lines (Text.wholeLines text))
      ⟨"Model service request failed: " ++ reason, none⟩)

/-- Puts a question to the platform. -/
def ask (p : Platform) : Call → Exchange Reply
  | .tool id args => do return .value (← p.invoke id args)
  | .code .. => throw .noCodeRunner
  | .retrieval storage text topK searchType filters => do
    return .value (← p.query storage text topK searchType filters)
  | .transform request sources target schema => do
    return .value (← p.transform request (.list sources) target schema)
  | .chat request checkpoint => do return .chat (← p.chat request checkpoint)

end Platform
end Workflow.Service
