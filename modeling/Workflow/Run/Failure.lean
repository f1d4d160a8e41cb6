import Workflow.Graph.Node
import Workflow.Service.Basic

/-!
# Workflow.Run.Failure

Why a node fails.

A `Problem` is what goes wrong in a node itself.  A `NodeError` is a problem
together with the node it happened in; loops pass on the errors of the nodes
in their bodies as they are, so it always names the node where the trouble
began.
-/

namespace Workflow

/-- What a node or its neighbourhood lacks. -/
inductive ConfigProblem where
  | noUpload
  | noModel
  | unknownTool (name : Value)
  | toolType (type name : Value)
  | noStorage
  | noQuery
  | noUserRequest
  | noIncoming
  | noSourceOutput (id : NodeId)
  | noDownstream
  | noToolConfiguration
  | noToolId
  | unknownToolType (type : Value)
deriving Inhabited

/-- The wording of what is lacking. -/
def ConfigProblem.message : ConfigProblem → String
  | .noUpload => "No uploaded file on upload node"
  | .noModel => "LLM node has no model configuration"
  | .unknownTool name => "Model requested unknown tool " ++ name.repr
  | .toolType type name => "Unsupported tool type " ++ type.repr ++ " for tool " ++ name.repr
  | .noStorage => "RAG node has no storage selected"
  | .noQuery => "RAG node has no valid query string"
  | .noUserRequest => "Transformer node has no userRequest"
  | .noIncoming => "Transformer node has no incoming edges"
  | .noSourceOutput id => "No output from source node " ++ id.quoted
  | .noDownstream => "Transformer node has no downstream node"
  | .noToolConfiguration => "Tool node has no configuration"
  | .noToolId => "Built-in tool node has no tool id"
  | .unknownToolType type => "Unknown tool type: " ++ type.repr

/-- Why the body of a loop cannot be walked to its end. -/
inductive LoopProblem where
  | repeated (node loop : NodeId)
  | deadEnd (node loop : NodeId)
  | unconnected (node loop : NodeId) (handle : Value)
deriving Inhabited

/-- The wording of a broken loop. -/
def LoopProblem.message : LoopProblem → String
  | .repeated n l => "Node " ++ n.quoted ++ " repeated within one pass of loop " ++ l.quoted
  | .deadEnd n l => "Node " ++ n.quoted ++ " in loop " ++ l.quoted ++ " does not lead back to the loop end"
  | .unconnected n l h =>
    "Node " ++ n.quoted ++ " in loop " ++ l.quoted ++ " has no edge for handle " ++ h.repr

/-- What goes wrong in a node. -/
inductive Problem where
  | config (p : ConfigProblem)
  | noExecutor (kind : NodeKind) (id : NodeId)
  | unsupportedTool
  | loop (p : LoopProblem)
  | service (e : ServiceError)
  | fault (f : Fault)
  /-- Loops nested, or turns of a model repeated, beyond the limits of the run. -/
  | tooDeep
deriving Inhabited

/-- The wording of a problem. -/
def Problem.message : Problem → String
  | .config p => p.message
  | .noExecutor kind id => "No executor registered for " ++ kind.name ++ " node " ++ id.quoted
  | .unsupportedTool => "MCP tools are not supported"
  | .loop p => p.message
  | .service e => e.message
  | .fault f => f.message
  | .tooDeep => "maximum recursion depth exceeded"

/-- The problem of tools with code where nobody can run it. -/
def Problem.noCodeRunner : Problem := .service ⟨"No code executor configured for custom tools", none⟩

/-- The failure of a node. -/
structure NodeError where
  id : NodeId
  kind : NodeKind
  cause : Problem
deriving Inhabited

namespace NodeError

/-- What the node says went wrong. -/
def reason (e : NodeError) : String := e.cause.message

/-- The wording of the failure. -/
def message (e : NodeError) : String := e.kind.name ++ " node " ++ e.id.quoted ++ " failed: " ++ e.reason

end NodeError

/-- A failure on its way out: one that already belongs to a node, or one that
will belong to the node it passes next. -/
inductive Failure where
  | node (e : NodeError)
  | own (p : Problem)
deriving Inhabited

namespace Failure

/-- The wording of a failure. -/
def message : Failure → String
  | .node e => e.message
  | .own p => p.message

/-- The failure as it leaves a node. -/
def leave (id : NodeId) (kind : NodeKind) : Failure → NodeError
  | .node e => e
  | .own p => ⟨id, kind, p⟩

end Failure
end Workflow
