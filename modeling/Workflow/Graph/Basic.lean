import Workflow.Graph.Tables

/-!
# Workflow.Graph.Basic

Workflow graphs: nodes with distinct names, and edges between them.

1. A graph is sound tables: no two nodes share a key, both ends of every edge are
   nodes, and the edges that leave or enter a node are found under it.  `addNode` and
   `addEdge` refuse what would break that.
2. Edges keep the order in which they were added, and so do the edges that
   leave or enter a node and the nodes at their other ends.
3. `required` is the number of branches that a join waits for: the distinct
   sources of the edges that enter the node, the edges by which a loop body
   returns to its loop left out.
-/

namespace Workflow

/-! ## Entries of documents -/

/-- A node from its entry. -/
def Node.ofValue (entry : Value) : Except GraphError Node := do
  let id ← GraphError.lift (entry.read "id")
  if !id.truthy then throw (.withoutId entry)
  let kindName ← GraphError.lift (entry.read "type")
  let kind? := match kindName with
    | .str s => NodeKind.ofName? s
    | _ => none
  match kind? with
  | none => throw (.unknownKind kindName id)
  | some kind =>
    let data := (← GraphError.lift (entry.read "data")).orElse (.record [])
    let label := (← GraphError.lift (data.read "label")).orElse (.str "")
    let payload := (← GraphError.lift (data.read "nodeData")).orElse (.record [])
    let bindings ← GraphError.lift (data.read "inputBindings")
    let id ← GraphError.lift (NodeId.ofValue id)
    return ⟨id, kind, label, payload, bindings⟩

/-- An edge from its entry. -/
def Edge.ofValue (entry : Value) : Except GraphError (Edge Value) := do
  let source ← GraphError.lift (entry.read "source")
  if !source.truthy then throw (.withoutEnds entry)
  let target ← GraphError.lift (entry.read "target")
  if !target.truthy then throw (.withoutEnds entry)
  return ⟨source, target, ← GraphError.lift (entry.read "sourceHandle"),
    ← GraphError.lift (entry.read "targetHandle"), ← GraphError.lift (entry.read "id")⟩

/-! ## Graphs -/

/-- A workflow graph. -/
structure Graph extends Tables where
  keys_nodup : (nodes.map fun n => n.id.key).Nodup
  ends_mem : ∀ e ∈ edges,
    e.source.key ∈ nodes.map (fun n => n.id.key) ∧ e.target.key ∈ nodes.map (fun n => n.id.key)
  leaving_eq : leaving = .of Edge.source nodes edges := by rfl
  entering_eq : entering = .of Edge.target nodes edges := by rfl

/-- The graph with the given tables. -/
def Tables.Sound.graph {t : Tables} (h : t.Sound) : Graph := { t with
  keys_nodup := h.keys_nodup
  ends_mem := h.ends_mem
  leaving_eq := h.leaving_eq
  entering_eq := h.entering_eq }

namespace Graph

theorem sound (g : Graph) : g.toTables.Sound := ⟨g.keys_nodup, g.ends_mem, g.leaving_eq, g.entering_eq⟩

/-- The graph without nodes. -/
def empty : Graph := { Tables.empty with keys_nodup := List.nodup_nil, ends_mem := nofun }

instance : Inhabited Graph := ⟨empty⟩

/-- The keys of the nodes, in order. -/
def keys (g : Graph) : List Key := g.nodes.map fun n => n.id.key

/-- Adds a node whose name is new. -/
def addNode (g : Graph) (n : Node) : Except GraphError Graph :=
  (g.toTables.addNode n).2.map fun () => (g.sound.addNode n).graph

/-- Adds an edge whose ends are nodes. -/
def addEdge (g : Graph) (e : Edge Value) : Except GraphError Graph :=
  (g.toTables.addEdge e).2.map fun () => (g.sound.addEdge e).graph

theorem addNode_error_iff {g : Graph} {n : Node} {err : GraphError} :
    g.addNode n = .error err ↔ (g.toTables.addNode n).2 = .error err := by
  unfold addNode
  cases (g.toTables.addNode n).2 <;> simp [Except.map]

theorem addEdge_error_iff {g : Graph} {e : Edge Value} {err : GraphError} :
    g.addEdge e = .error err ↔ (g.toTables.addEdge e).2 = .error err := by
  unfold addEdge
  cases (g.toTables.addEdge e).2 <;> simp [Except.map]

/-! ## Nodes -/

/-- The node of a key. -/
def node? (g : Graph) (k : Key) : Option Node := g.nodes.find? fun n => n.id.key == k

/-- The node that a value names, which must exist. -/
def node (g : Graph) (v : Value) : Except Fault Node := do
  let k ← v.keyOf
  match g.node? k with
  | some n => return n
  | none => throw (.missingKey v.repr)

/-- The number of nodes. -/
def size (g : Graph) : Nat := g.nodes.length

/-- The start node, of which there must be exactly one. -/
def startNode (g : Graph) : Except GraphError Node :=
  match g.nodes.filter fun n => n.kind = .start with
  | [] => .error .noStart
  | [n] => .ok n
  | ns => .error (.manyStarts (ns.map fun n => n.id.value))

/-! ## Edges -/

/-- The edges that leave a node. -/
def outgoing (g : Graph) (k : Key) : List (Edge NodeId) := (g.leaving.lookup k).getD []

/-- The edges that enter a node. -/
def incoming (g : Graph) (k : Key) : List (Edge NodeId) := (g.entering.lookup k).getD []

/-- Names without repetition, each in its first spelling. -/
def distinct : List NodeId → List NodeId
  | [] => []
  | i :: is => i :: (distinct is).filter fun j => j.key != i.key

/-- The nodes that the edges of a node lead to. -/
def successors (g : Graph) (k : Key) : List NodeId := distinct ((g.outgoing k).map (·.target))

/-- The nodes whose edges lead to a node. -/
def predecessors (g : Graph) (k : Key) : List NodeId := distinct ((g.incoming k).map (·.source))

/-- The first edge that leaves a node at a handle. -/
def edgeAt? (g : Graph) (k : Key) (handle : Value) : Option (Edge NodeId) :=
  match handle with
  | .null => none
  | handle => (g.outgoing k).find? fun e => e.sourceHandle.eq handle

/-- The edge that a branching node takes for a handle.  A loop's handles also
go by their name behind the name of the loop. -/
def branchEdge? (g : Graph) (n : Node) (handle : Value) : Option (Edge NodeId) :=
  match g.edgeAt? n.id.key handle with
  | some e => some e
  | none => match handle with
    | .null => none
    | handle =>
      if n.kind = .loop then g.edgeAt? n.id.key (.str (n.id.text ++ "-" ++ handle.text)) else none

/-- Does an edge lead from a node to a value's node, at the given handle if
one is given? -/
def hasEdge (g : Graph) (k : Key) (target targetHandle : Value) : Bool :=
  (g.outgoing k).any fun e => e.target.value.eq target &&
    match targetHandle with
    | .null => true
    | handle => e.targetHandle.eq handle

/-- Does an edge into the given node, at the given handle, close a loop? -/
def closesLoop (target : Node) (targetHandle : Value) : Except Fault Bool :=
  if target.kind = .loop then do return targetHandle.eq (← target.loopEndHandle) else .ok false

/-- Does an edge lead from a loop's body back to the loop? -/
def isBackEdge (g : Graph) (target targetHandle : Value) : Except Fault Bool := do
  closesLoop (← g.node target) targetHandle

/-- The number of branches that a join at a node waits for. -/
def required (g : Graph) (k : Key) : Except Fault Nat := do
  let waited ← (g.incoming k).filterM fun e => do return !(← g.isBackEdge e.target.value e.targetHandle)
  return (distinct (waited.map (·.source))).length

/-- The text of a graph. -/
def text (g : Graph) : String := s!"Graph(nodes={g.nodes.length}, edges={g.edges.length})"

end Graph
end Workflow
