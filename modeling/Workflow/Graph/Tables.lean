import Workflow.Graph.Node

/-!
# Workflow.Graph.Tables

What a graph keeps, and how it grows.

1. A graph keeps its nodes, its edges, and the edges a second and a third time: under the
   nodes that they leave, and under those that they enter.
2. `Tables.addNode` and `Tables.addEdge` check, and then change one table after the other.
   They answer the tables as they are then, be it that the addition has been refused.
3. `Tables.Sound` holds of the tables of a graph.  No two nodes share a key, both ends of
   every edge are nodes, and the two indexes are those of the nodes and edges.  Additions
   keep it, and where it holds they are refused by their checks only, with nothing changed
   (`Tables.Sound.addEdge_eq`).
-/

namespace Workflow

/-- An edge.  A document's edges end in values, those of a graph in nodes. -/
structure Edge (End : Type) where
  source : End
  target : End
  sourceHandle : Value
  targetHandle : Value
  id : Value
deriving Inhabited

/-- Why a graph, or a document of one, is refused. -/
inductive GraphError where
  | withoutId (entry : Value)
  | unknownKind (kind id : Value)
  | withoutEnds (entry : Value)
  | duplicate (id : Value)
  | unknownSource (id : Value)
  | unknownTarget (id : Value)
  | noStart
  | manyStarts (ids : List Value)
  | unreadable (reason : String)
  | notMapping
  | fault (f : Fault)
deriving Inhabited

/-- The wording of a refusal. -/
def GraphError.message : GraphError → String
  | .withoutId entry => "Node without id: " ++ entry.repr
  | .unknownKind kind id => "Unsupported node kind " ++ kind.repr ++ " for node " ++ id.repr
  | .withoutEnds entry => "Edge needs a source and a target: " ++ entry.repr
  | .duplicate id => "Duplicate node id: " ++ id.repr
  | .unknownSource id => "Unknown source node: " ++ id.repr
  | .unknownTarget id => "Unknown target node: " ++ id.repr
  | .noStart => "Graph has no start node"
  | .manyStarts ids => s!"Graph has {ids.length} start nodes: " ++ (Value.list ids).repr
  | .unreadable reason => "Could not parse graph document: " ++ reason
  | .notMapping => "Graph document must be a mapping with 'nodes' and 'edges'"
  | .fault f => f.message

/-- An operation on values as a step that may be refused. -/
def GraphError.lift (r : Except Fault α) : Except GraphError α := r.mapError .fault

/-! ## Indexes -/

/-- Edges in rows, each of them under a key. -/
abbrev Index := List (Key × List (Edge NodeId))

namespace Index

/-- Gives a key a row without edges, unless it has one. -/
def ensure (ix : Index) (k : Key) : Index := if (ix.lookup k).isSome then ix else ix ++ [(k, [])]

/-- Puts an edge at the end of the row of a key, which must have one. -/
def append? (ix : Index) (k : Key) (e : Edge NodeId) : Option Index :=
  match ix with
  | [] => none
  | (j, es) :: rows => if j = k then some ((j, es ++ [e]) :: rows) else (append? rows k e).map ((j, es) :: ·)

/-- The index with a row for each node, which holds the edges that have the node at one end. -/
def of (endOf : Edge NodeId → NodeId) (nodes : List Node) (edges : List (Edge NodeId)) : Index :=
  nodes.map fun n => (n.id.key, edges.filter fun e => (endOf e).key == n.id.key)

variable {endOf : Edge NodeId → NodeId} {nodes : List Node} {edges : List (Edge NodeId)} {e : Edge NodeId}

theorem lookup_of (k : Key) : (of endOf nodes edges).lookup k =
    if k ∈ nodes.map (fun n => n.id.key) then some (edges.filter fun e => (endOf e).key == k) else none := by
  induction nodes with
  | nil => rfl
  | cons n rest ih =>
    by_cases hk : k = n.id.key
    · subst hk
      simp [of]
    · have hne : (k == n.id.key) = false := by simpa using hk
      simpa [of, List.lookup_cons, hne, hk] using ih

/-- A node that is new, and at which no edge ends, gets a row. -/
theorem ensure_of {n : Node} (hnew : n.id.key ∉ nodes.map fun n => n.id.key)
    (hends : ∀ e ∈ edges, (endOf e).key ≠ n.id.key) :
    (of endOf nodes edges).ensure n.id.key = of endOf (nodes ++ [n]) edges := by
  have hrow : edges.filter (fun e => (endOf e).key == n.id.key) = [] := by simpa using hends
  rw [ensure, lookup_of, if_neg hnew]
  simp [of, hrow]

theorem of_append_of_not_mem (hnot : (endOf e).key ∉ nodes.map fun n => n.id.key) :
    of endOf nodes (edges ++ [e]) = of endOf nodes edges := by
  refine List.map_congr_left fun n hn => ?_
  have hne : ((endOf e).key == n.id.key) = false := by
    simpa using fun h => hnot (List.mem_map.mpr ⟨n, hn, h.symm⟩)
  simp [hne]

/-- An edge goes into the row of the one node at which it ends. -/
theorem append?_of (hnodup : (nodes.map fun n => n.id.key).Nodup) (hmem : (endOf e).key ∈ nodes.map fun n => n.id.key) :
    (of endOf nodes edges).append? (endOf e).key e = some (of endOf nodes (edges ++ [e])) := by
  induction nodes with
  | nil => cases hmem
  | cons n rest ih =>
    obtain ⟨hnot, hrest⟩ := List.nodup_cons.mp hnodup
    have hcons : ∀ es, of endOf (n :: rest) es =
        (n.id.key, es.filter fun e => (endOf e).key == n.id.key) :: of endOf rest es := fun es => rfl
    rw [hcons, hcons, append?]
    by_cases hk : n.id.key = (endOf e).key
    · -- keys are distinct, so the edge belongs into none of the rows that follow
      rw [if_pos hk, of_append_of_not_mem (hk ▸ hnot)]
      simp [hk]
    · have hne : ((endOf e).key == n.id.key) = false := by simpa using Ne.symm hk
      have hmem : (endOf e).key ∈ rest.map fun n => n.id.key := by
        simpa [Ne.symm hk] using hmem
      rw [if_neg hk, ih hrest hmem]
      simp [hne]

end Index

/-! ## Tables -/

/-- What a graph keeps.  Unless they are given, the indexes are those of the nodes and edges. -/
structure Tables where
  nodes : List Node
  edges : List (Edge NodeId)
  leaving : Index := .of Edge.source nodes edges
  entering : Index := .of Edge.target nodes edges

namespace Tables

/-- Tables without anything in them. -/
def empty : Tables := ⟨[], [], [], []⟩

/-- The keys of the nodes, in order. -/
def keys (t : Tables) : List Key := t.nodes.map fun n => n.id.key

/-- Adds a node whose name is new. -/
def addNode (t : Tables) (n : Node) : Tables × Except GraphError Unit :=
  if n.id.key ∈ t.keys then (t, .error (.duplicate n.id.value))
  else
    ({ nodes := t.nodes ++ [n], edges := t.edges, leaving := t.leaving.ensure n.id.key,
       entering := t.entering.ensure n.id.key }, .ok ())

/-- The node that a value names, or else a refusal. -/
def nodeOr (t : Tables) (refusal : GraphError) (v : Value) : Except GraphError NodeId := do
  let i ← GraphError.lift (NodeId.ofValue v)
  if i.key ∈ t.keys then return i else throw refusal

/-- The edge between nodes that an edge between values is, if its ends name nodes. -/
def resolve (t : Tables) (e : Edge Value) : Except GraphError (Edge NodeId) := do
  let source ← t.nodeOr (.unknownSource e.source) e.source
  let target ← t.nodeOr (.unknownTarget e.target) e.target
  return ⟨source, target, e.sourceHandle, e.targetHandle, e.id⟩

/-- Puts an edge into the edges, the edges that leave its source, and those that enter its
target, as far as there are rows for them. -/
def insert (t : Tables) (e : Edge NodeId) : Tables × Except GraphError Unit :=
  let t := { t with edges := t.edges ++ [e] }
  match t.leaving.append? e.source.key e with
  | none => (t, .error (.fault (.missingKey e.source.value.repr)))
  | some leaving =>
    let t := { t with leaving }
    match t.entering.append? e.target.key e with
    | none => (t, .error (.fault (.missingKey e.target.value.repr)))
    | some entering => ({ t with entering }, .ok ())

/-- Adds an edge whose ends are nodes. -/
def addEdge (t : Tables) (e : Edge Value) : Tables × Except GraphError Unit :=
  match t.resolve e with
  | .error err => (t, .error err)
  | .ok edge => t.insert edge

/-! ## Sound tables -/

/-- The tables are those of a graph. -/
structure Sound (t : Tables) : Prop where
  keys_nodup : t.keys.Nodup
  ends_mem : ∀ e ∈ t.edges, e.source.key ∈ t.keys ∧ e.target.key ∈ t.keys
  leaving_eq : t.leaving = .of Edge.source t.nodes t.edges
  entering_eq : t.entering = .of Edge.target t.nodes t.edges

variable {t : Tables}

theorem addNode_error_iff {n : Node} {err : GraphError} :
    (t.addNode n).2 = .error err ↔ n.id.key ∈ t.keys ∧ err = .duplicate n.id.value := by
  unfold addNode
  split
  next h => simp [h, eq_comm]
  next h => simp [h]

theorem nodeOr_ok_iff {refusal : GraphError} {v : Value} {i : NodeId} :
    t.nodeOr refusal v = .ok i ↔ NodeId.ofValue v = .ok i ∧ i.key ∈ t.keys := by
  unfold nodeOr
  cases hv : NodeId.ofValue v with
  | error f =>
    refine iff_of_false (fun h => ?_) fun h => ?_
    · cases h
    · cases h.1
  | ok j =>
    change (if j.key ∈ t.keys then Except.ok j else .error refusal) = .ok i ↔ _
    by_cases hmem : j.key ∈ t.keys
    · rw [if_pos hmem, Except.ok.injEq, Except.ok.injEq]
      exact ⟨fun h => ⟨h, h ▸ hmem⟩, And.left⟩
    · rw [if_neg hmem, Except.ok.injEq]
      refine iff_of_false (fun h => ?_) ?_
      · cases h
      · rintro ⟨rfl, hi⟩
        exact hmem hi

theorem resolve_ends {e : Edge Value} {edge : Edge NodeId} (h : t.resolve e = .ok edge) :
    edge.source.key ∈ t.keys ∧ edge.target.key ∈ t.keys := by
  unfold resolve at h
  cases hsource : t.nodeOr (.unknownSource e.source) e.source with
  | error err => rw [hsource] at h; cases h
  | ok source =>
    cases htarget : t.nodeOr (.unknownTarget e.target) e.target with
    | error err => rw [hsource, htarget] at h; cases h
    | ok target =>
      rw [hsource, htarget] at h
      cases h
      exact ⟨(nodeOr_ok_iff.mp hsource).2, (nodeOr_ok_iff.mp htarget).2⟩

namespace Sound

/-- A node that is added becomes the last node, and its rows are without edges. -/
theorem addNode_eq (h : t.Sound) (n : Node) : t.addNode n =
    if n.id.key ∈ t.keys then (t, .error (.duplicate n.id.value))
    else ({ nodes := t.nodes ++ [n], edges := t.edges }, .ok ()) := by
  rw [addNode]
  by_cases hnew : n.id.key ∈ t.keys
  · rw [if_pos hnew, if_pos hnew]
  · rw [if_neg hnew, if_neg hnew, h.leaving_eq, h.entering_eq,
      Index.ensure_of hnew fun e he heq => hnew (heq ▸ (h.ends_mem e he).1),
      Index.ensure_of hnew fun e he heq => hnew (heq ▸ (h.ends_mem e he).2)]

/-- An edge between nodes gets into all tables. -/
theorem insert_eq (h : t.Sound) {e : Edge NodeId} (hends : e.source.key ∈ t.keys ∧ e.target.key ∈ t.keys) :
    t.insert e = ({ nodes := t.nodes, edges := t.edges ++ [e] }, .ok ()) := by
  have hleaving : t.leaving.append? e.source.key e = some (.of Edge.source t.nodes (t.edges ++ [e])) := by
    rw [h.leaving_eq]
    exact Index.append?_of h.keys_nodup hends.1
  have hentering : t.entering.append? e.target.key e = some (.of Edge.target t.nodes (t.edges ++ [e])) := by
    rw [h.entering_eq]
    exact Index.append?_of h.keys_nodup hends.2
  unfold insert
  simp only [hleaving, hentering]

/-- An edge is refused by a check, with nothing changed, or gets into all tables. -/
theorem addEdge_eq (h : t.Sound) (e : Edge Value) : t.addEdge e = match t.resolve e with
    | .error err => (t, .error err)
    | .ok edge => ({ nodes := t.nodes, edges := t.edges ++ [edge] }, .ok ()) := by
  rw [addEdge]
  cases hedge : t.resolve e with
  | error err => rfl
  | ok edge => exact h.insert_eq (resolve_ends hedge)

theorem addEdge_error_iff (h : t.Sound) {e : Edge Value} {err : GraphError} :
    (t.addEdge e).2 = .error err ↔ t.resolve e = .error err := by
  rw [h.addEdge_eq]
  cases t.resolve e <;> simp

theorem addNode (h : t.Sound) (n : Node) : (t.addNode n).1.Sound := by
  rw [h.addNode_eq]
  split
  next => exact h
  next hnew =>
    refine ⟨?_, fun e he => ?_, rfl, rfl⟩
    · rw [keys, List.map_append, List.nodup_append]
      refine ⟨h.keys_nodup, by simp, ?_⟩
      rintro k hk _ hn rfl
      obtain rfl : k = n.id.key := List.mem_singleton.mp hn
      exact hnew hk
    · rw [keys, List.map_append]
      exact (h.ends_mem e he).imp (List.mem_append_left _) (List.mem_append_left _)

theorem addEdge (h : t.Sound) (e : Edge Value) : (t.addEdge e).1.Sound := by
  rw [h.addEdge_eq]
  cases hedge : t.resolve e with
  | error err => exact h
  | ok edge =>
    refine ⟨h.keys_nodup, fun e' he' => ?_, rfl, rfl⟩
    obtain he' | he' := List.mem_append.mp he'
    · exact h.ends_mem e' he'
    · rw [List.mem_singleton.mp he']
      exact resolve_ends hedge

end Sound
end Tables
end Workflow
