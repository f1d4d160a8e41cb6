import Workflow.Graph.Node

/-!
# Workflow.Bindings.Context

The names that expressions of a node can use: every output under the label of
its node, and the state under `state`.  Of several nodes with one label the
last in graph order wins; the state wins over a node labelled `state`.
-/

namespace Workflow

/-- The name under which expressions find the state. -/
def stateName : String := "state"

/-- Puts the output of a node, if there is one, under its label. -/
def Entries.addOutput (outputs : Entries) (es : Entries) (n : Node) : Except Fault Entries :=
  match Entries.get? outputs n.id.key with
  | some v => do return Entries.set es n.label (← n.label.keyOf) v
  | none => .ok es

/-- The context of the expressions of a node.  The state they see is a copy
with an identity of its own. -/
def evalContext (nodes : List Node) (outputs state : Entries) (copy : Option MapId) :
    Except Fault Entries := do
  let es ← nodes.foldlM (Entries.addOutput outputs) []
  return Entries.setField es stateName (.dict copy state)

end Workflow
