import Workflow.Value.Field

/-!
# Workflow.Graph.Node

The nodes of a workflow.

1. A node is known by its `NodeId`, a value that can be a key.  Two spellings
   of one key, such as `1` and `1.0`, are the same node.
2. Its kind decides what it does; its payload holds the settings, and its
   bindings say where its inputs come from.
3. A loop node has a handle at which its body starts and one at which the
   body ends; both are named after the node unless the payload names them.
-/

namespace Workflow

/-! ## Names -/

/-- The name of a node. -/
structure NodeId where
  value : Value
  key : Key
  key_eq : value.key? = some key

namespace NodeId

/-- A value as the name of a node. -/
def ofValue (v : Value) : Except Fault NodeId :=
  match h : v.key? with
  | some k => .ok ⟨v, k, h⟩
  | none => .error (.unhashable v.typeName)

/-- A text as the name of a node. -/
def ofString (s : String) : NodeId := ⟨.str s, Key.ofString s, Value.key?_str s⟩

instance : Inhabited NodeId := ⟨ofString ""⟩

/-- The name inside other text. -/
def text (i : NodeId) : String := i.value.text

/-- The name in quotes. -/
def quoted (i : NodeId) : String := i.value.repr

theorem ofValue_value (i : NodeId) : ofValue i.value = .ok i := by
  obtain ⟨v, k, h⟩ := i
  unfold ofValue
  split
  · next k' h' =>
    have hk : k' = k := Option.some.inj (h'.symm.trans h)
    subst hk
    rfl
  · next h' => simp [h] at h'

end NodeId

/-! ## Kinds -/

/-- What a node does. -/
inductive NodeKind where
  | start | tool | llm | transformer | finish | rag | condition | state | loop | upload
deriving DecidableEq, Inhabited

namespace NodeKind

/-- The name of a kind in documents. -/
def name : NodeKind → String
  | .start => "start"
  | .tool => "tool"
  | .llm => "llm"
  | .transformer => "transformer"
  | .finish => "end"
  | .rag => "rag"
  | .condition => "condition"
  | .state => "state"
  | .loop => "loop"
  | .upload => "upload"

/-- All kinds. -/
def all : List NodeKind :=
  [.start, .tool, .llm, .transformer, .finish, .rag, .condition, .state, .loop, .upload]

/-- The kind of a name. -/
def ofName? (s : String) : Option NodeKind := all.find? fun k => k.name == s

theorem ofName?_name (k : NodeKind) : ofName? k.name = some k := by
  cases k <;> decide

/-- Does the output of the node select the edge to go on with? -/
def isBranching : NodeKind → Bool
  | .condition | .loop => true
  | _ => false

end NodeKind

/-! ## Nodes -/

/-- A node. -/
structure Node where
  id : NodeId
  kind : NodeKind
  label : Value
  payload : Value
  bindings : Value
deriving Inhabited

namespace Node

/-- A setting of the payload. -/
def setting (n : Node) (name : String) : Except Fault Value := n.payload.read name

/-- The handle at which the body of a loop starts. -/
def loopStartHandle (n : Node) : Except Fault Value := do
  return (← n.setting "loopStartHandleId").orElse (.str (n.id.text ++ "-loop-start"))

/-- The handle at which the body of a loop ends. -/
def loopEndHandle (n : Node) : Except Fault Value := do
  return (← n.setting "loopEndHandleId").orElse (.str (n.id.text ++ "-loop-end"))

/-- The description of a node for the service that fits outputs to inputs. -/
def describe (n : Node) (default : Value) : Except Fault Value := do
  let description := (← n.setting "description").orElse default
  return .record [("name", n.label.orElse (.str n.kind.name)), ("description", description)]

/-- What the node expects as its input. -/
def inputSchema (n : Node) : Except Fault Value := do
  match n.kind with
  | .tool =>
    let tool := (← n.setting "tool").orElse (.record [])
    return (← tool.read "input_schema").orElse (.str "string")
  | .finish => return (← n.setting "output_schema").orElse (.str "string")
  | _ => return .str "string"

/-- The text of a node. -/
def text (n : Node) : String :=
  "Node(" ++ n.id.quoted ++ ", " ++ n.kind.name ++ ", label=" ++ n.label.repr ++ ")"

end Node
end Workflow
