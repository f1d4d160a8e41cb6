import Workflow.Value.Field

/-!
# Workflow.Service.Basic

The collaborators of a run: what they are asked, what they answer and how
they fail.
-/

namespace Workflow

/-- The failure of a collaborator, with the status of the response that
reported it, if there was one. -/
structure ServiceError where
  message : String
  status : Option Int
deriving DecidableEq, Inhabited

/-- What a collaborator is for.  Tools that carry their own code have a
collaborator of their own, which need not be there (`Run.Plan.runsCode`). -/
inductive Role where
  | model | tools | retrieval | transform
deriving DecidableEq, Inhabited

/-- A question to a collaborator. -/
inductive Call where
  | tool (id args : Value)
  | code (name args code : Value)
  | retrieval (storage query topK searchType filters : Value)
  | transform (request : Value) (sources : List Value) (target schema : Value)
  | chat (request checkpoint : Value)
deriving Inhabited

/-- A tool that a model wants to be called. -/
structure ToolCall where
  name : Value
  args : Value
  callId : Value
deriving Inhabited

/-- One turn of a model: an answer, or tool calls whose results continue the
conversation that the checkpoint names. -/
structure ChatReply where
  message : Value
  toolCalls : List ToolCall
  parsed : Value
  checkpoint : Value
deriving Inhabited

/-- A turn without content. -/
def ChatReply.empty : ChatReply := ⟨.null, [], .null, .null⟩

/-- The answer of a collaborator. -/
inductive Reply where
  | value (v : Value)
  | chat (r : ChatReply)
deriving Inhabited

/-- The value that an answer is; a model's turn is not one. -/
def Reply.toValue : Reply → Value
  | .value v => v
  | .chat _ => .null

/-- The model's turn that an answer is. -/
def Reply.toChat : Reply → ChatReply
  | .value _ => .empty
  | .chat r => r

/-- Values that should be texts, from position `i` on, one after the other. -/
def joinTextsFrom (i : Nat) : List Value → Except Fault String
  | [] => .ok ""
  | .str s :: rest => (joinTextsFrom (i + 1) rest).map (s ++ ·)
  | v :: _ => .error (.joinItem i v.typeName)

/-- Values that should be texts, one after the other. -/
def joinTexts (vs : List Value) : Except Fault String := joinTextsFrom 0 vs

end Workflow
