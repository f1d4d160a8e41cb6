import Workflow.Graph.Basic
import Workflow.Proofs.Results
import Mathlib.Data.Finset.Card

/-!
# Workflow.Proofs.Graph

What the scheduler has to know about graphs: which nodes a node leads to, and
how many branches a join waits for.

1. `targets` are the nodes to which a node leads under a choice of handles: an
   end node leads nowhere, a branching node along the edge that the handle
   selects, and any other node along all of its edges.
2. `required` counts distinct sources of edges, all of them where the node is no
   loop (`required_eq`).  It always has a value when there are no loops
   (`required_of_no_loops`), or when the payloads of nodes are mappings
   (`required_ok`).
-/

namespace Workflow

theorem NodeKind.mem_all (kind : NodeKind) : kind ∈ NodeKind.all := by
  cases kind <;> decide

namespace Graph

variable {g : Graph} {k : Key} {n : Node} {e : Edge NodeId}

/-! ## Names without repetition -/

theorem distinct_subset (is : List NodeId) : distinct is ⊆ is := by
  induction is with
  | nil => exact List.Subset.refl []
  | cons i is ih =>
      intro j hj
      rcases List.mem_cons.mp hj with rfl | hj
      · exact List.mem_cons_self
      · exact List.mem_cons_of_mem _ (ih (List.mem_filter.mp hj).1)

theorem mem_keys_distinct {is : List NodeId} : k ∈ (distinct is).map (·.key) ↔ k ∈ is.map (·.key) := by
  induction is with
  | nil => rfl
  | cons i is ih =>
      by_cases hk : k = i.key
      · simp [distinct, hk]
      · have hfilter : k ∈ ((distinct is).filter fun j => j.key != i.key).map (·.key) ↔
            k ∈ (distinct is).map (·.key) := by
          simp only [List.mem_map, List.mem_filter, bne_iff_ne]
          constructor
          · rintro ⟨j, ⟨hj, _⟩, hjk⟩
            exact ⟨j, hj, hjk⟩
          · rintro ⟨j, hj, hjk⟩
            exact ⟨j, ⟨hj, by rw [hjk]; exact hk⟩, hjk⟩
        simp only [distinct, List.map_cons, List.mem_cons, hk, false_or]
        rw [hfilter, ih]

theorem keys_distinct_nodup (is : List NodeId) : ((distinct is).map (·.key)).Nodup := by
  induction is with
  | nil => exact List.nodup_nil
  | cons i is ih =>
      have hrest : (((distinct is).filter fun j => j.key != i.key).map (·.key)).Nodup :=
        ih.sublist (List.filter_sublist.map _)
      refine List.nodup_cons.mpr ⟨fun hmem => ?_, hrest⟩
      obtain ⟨j, hj, hji⟩ := List.mem_map.mp hmem
      simp [hji] at hj

/-! ## Nodes and their keys -/

theorem node?_some (h : g.node? k = some n) : n ∈ g.nodes ∧ n.id.key = k := by
  have hfound := List.find?_some h
  exact ⟨List.mem_of_find?_eq_some h, by simpa using hfound⟩

theorem mem_nodes_of_node {v : Value} (h : g.node v = .ok n) : n ∈ g.nodes := by
  unfold node at h
  cases hkey : v.keyOf with
  | error f => simp [hkey, bind, Except.bind] at h
  | ok k =>
    simp only [hkey, bind, Except.bind] at h
    split at h
    next hfind =>
      cases h
      exact (node?_some hfind).1
    next => cases h

/-- The node that the name of a node names. -/
theorem node_value (g : Graph) (i : NodeId) :
    g.node i.value = match g.node? i.key with
      | some n => .ok n
      | none => .error (.missingKey i.value.repr) := by
  unfold node Value.keyOf
  rw [i.key_eq]
  change (match g.node? i.key with
    | some n => pure n
    | none => throw (.missingKey i.value.repr) : Except Fault Node) = _
  cases g.node? i.key <;> rfl

theorem node?_of_mem_keys (h : k ∈ g.keys) : ∃ n, g.node? k = some n := by
  obtain ⟨n, hn, hk⟩ := List.mem_map.mp h
  cases hfind : g.node? k with
  | some m => exact ⟨m, rfl⟩
  | none =>
      have hnone := List.find?_eq_none.mp hfind n hn
      simp [hk] at hnone

theorem node?_mem (h : n ∈ g.nodes) : g.node? n.id.key = some n := by
  obtain ⟨m, hm⟩ := node?_of_mem_keys (g := g) (List.mem_map_of_mem h)
  obtain ⟨hmem, hkey⟩ := node?_some hm
  rw [hm, List.inj_on_of_nodup_map g.keys_nodup hmem h hkey]

theorem mem_keys_of_node? (h : g.node? k = some n) : k ∈ g.keys := by
  obtain ⟨hmem, hkey⟩ := node?_some h
  exact hkey ▸ List.mem_map_of_mem hmem

theorem startNode_mem {start : Node} (h : g.startNode = .ok start) :
    g.node? start.id.key = some start ∧ start.kind = .start := by
  unfold startNode at h
  split at h
  case h_2 n hfilter =>
      have hmem : n ∈ g.nodes.filter fun n => n.kind = .start := by rw [hfilter]; exact List.mem_singleton_self n
      obtain ⟨hn, hkind⟩ := List.mem_filter.mp hmem
      cases h
      exact ⟨node?_mem hn, by simpa using hkind⟩
  all_goals cases h

/-- Only the start node is of kind start. -/
theorem startNode_unique {start : Node} (h : g.startNode = .ok start) (hn : n ∈ g.nodes)
    (hkind : n.kind = .start) : n = start := by
  unfold startNode at h
  split at h
  case h_2 m hfilter =>
      cases h
      have hmem : n ∈ g.nodes.filter fun n => n.kind = .start := List.mem_filter.mpr ⟨hn, by simp [hkind]⟩
      rw [hfilter] at hmem
      exact List.mem_singleton.mp hmem
  all_goals cases h

/-! ## Where a node leads -/

/-- The nodes that a node leads to when it is done with the given handle. -/
def targets (g : Graph) (n : Node) (handle : Value) : List NodeId :=
  if n.kind = .finish then []
  else if n.kind.isBranching then (g.branchEdge? n handle).toList.map (·.target)
  else g.successors n.id.key

/-- Does an edge lead from the one key to the other? -/
def Links (g : Graph) (source target : Key) : Prop :=
  ∃ e ∈ g.edges, e.source.key = source ∧ e.target.key = target

theorem Links.mem_keys {source target : Key} (h : g.Links source target) :
    source ∈ g.keys ∧ target ∈ g.keys := by
  obtain ⟨e, he, rfl, rfl⟩ := h
  exact g.ends_mem e he

/-- What an index has under a key are the edges that have it at their end. -/
theorem getD_lookup_of {endOf : Edge NodeId → NodeId} {nodes : List Node} {edges : List (Edge NodeId)}
    (hends : ∀ e ∈ edges, (endOf e).key ∈ nodes.map fun n => n.id.key) (k : Key) :
    ((Index.of endOf nodes edges).lookup k).getD [] = edges.filter fun e => (endOf e).key == k := by
  rw [Index.lookup_of]
  by_cases hk : k ∈ nodes.map fun n => n.id.key
  · rw [if_pos hk]
    rfl
  · rw [if_neg hk]
    refine (List.filter_eq_nil_iff.mpr fun e he heq => hk ?_).symm
    exact eq_of_beq heq ▸ hends e he

theorem outgoing_eq (g : Graph) (k : Key) : g.outgoing k = g.edges.filter fun e => e.source.key == k := by
  rw [outgoing, g.leaving_eq, getD_lookup_of fun e he => (g.ends_mem e he).1]

theorem incoming_eq (g : Graph) (k : Key) : g.incoming k = g.edges.filter fun e => e.target.key == k := by
  rw [incoming, g.entering_eq, getD_lookup_of fun e he => (g.ends_mem e he).2]

theorem mem_outgoing : e ∈ g.outgoing k ↔ e ∈ g.edges ∧ e.source.key = k := by
  simp [outgoing_eq]

theorem mem_incoming : e ∈ g.incoming k ↔ e ∈ g.edges ∧ e.target.key = k := by
  simp [incoming_eq]

theorem edgeAt?_mem {handle : Value} (h : g.edgeAt? k handle = some e) : e ∈ g.outgoing k := by
  unfold edgeAt? at h
  split at h
  · cases h
  · exact List.mem_of_find?_eq_some h

theorem branchEdge?_mem {handle : Value} (h : g.branchEdge? n handle = some e) :
    e ∈ g.outgoing n.id.key := by
  unfold branchEdge? at h
  cases hat : g.edgeAt? n.id.key handle with
  | some f =>
      rw [hat] at h
      cases h
      exact edgeAt?_mem hat
  | none =>
      rw [hat] at h
      dsimp only at h
      split at h
      · cases h
      · split at h
        · exact edgeAt?_mem h
        · cases h

theorem links_of_mem_targets {handle : Value} {i : NodeId} (h : i ∈ g.targets n handle) :
    g.Links n.id.key i.key := by
  have hedge : ∀ e ∈ g.outgoing n.id.key, g.Links n.id.key e.target.key := fun e he =>
    ⟨e, (mem_outgoing.mp he).1, (mem_outgoing.mp he).2, rfl⟩
  unfold targets at h
  split at h
  · cases h
  · split at h
    · obtain ⟨e, he, rfl⟩ := List.mem_map.mp h
      exact hedge e (branchEdge?_mem (Option.mem_toList.mp he))
    · obtain ⟨e, he, rfl⟩ := List.mem_map.mp (distinct_subset _ h)
      exact hedge e he

/-- A node leads to no other node twice. -/
theorem targets_keys_nodup (g : Graph) (n : Node) (handle : Value) :
    ((g.targets n handle).map (·.key)).Nodup := by
  unfold targets
  split
  · exact List.nodup_nil
  · split
    · cases g.branchEdge? n handle <;> simp
    · exact keys_distinct_nodup _

theorem not_finish_of_mem_targets {handle : Value} {i : NodeId} (h : i ∈ g.targets n handle) :
    n.kind ≠ .finish := by
  intro hkind
  simp [targets, hkind] at h

/-! ## How many branches a join waits for -/

/-- The keys of the nodes from which edges lead into a node. -/
def sources (g : Graph) (k : Key) : List Key := (distinct ((g.incoming k).map (·.source))).map (·.key)

theorem mem_sources {source : Key} : source ∈ g.sources k ↔ g.Links source k := by
  unfold sources Links
  rw [mem_keys_distinct]
  simp only [List.map_map, List.mem_map, mem_incoming, Function.comp_apply]
  constructor
  · rintro ⟨e, ⟨he, htarget⟩, hsource⟩
    exact ⟨e, he, hsource, htarget⟩
  · rintro ⟨e, he, hsource, htarget⟩
    exact ⟨e, ⟨he, htarget⟩, hsource⟩

theorem sources_nodup (g : Graph) (k : Key) : (g.sources k).Nodup := keys_distinct_nodup _

/-- Whether an edge into a node leads back to a loop is a question of that node. -/
theorem isBackEdge_of_mem_incoming (hnode : g.node? k = some n) (he : e ∈ g.incoming k) (handle : Value) :
    g.isBackEdge e.target.value handle = closesLoop n handle := by
  rw [isBackEdge, node_value, (mem_incoming.mp he).2, hnode]
  rfl

/-- Nothing enters what is no node. -/
theorem incoming_of_absent (h : g.node? k = none) : g.incoming k = [] := by
  refine List.eq_nil_iff_forall_not_mem.mpr fun e he => ?_
  obtain ⟨hedge, htarget⟩ := mem_incoming.mp he
  obtain ⟨n, hn⟩ := node?_of_mem_keys (g := g) (htarget ▸ (g.ends_mem e hedge).2)
  rw [h] at hn
  cases hn

theorem required_of_absent (h : g.node? k = none) : g.required k = .ok 0 := by
  rw [required, incoming_of_absent h]
  rfl

/-- Where it is known which edges close a loop, so is what a join waits for. -/
theorem required_of_closesLoop (closes : Value → Bool) (hnode : g.node? k = some n)
    (h : ∀ handle, closesLoop n handle = .ok (closes handle)) :
    g.required k =
      .ok (distinct (((g.incoming k).filter fun e => !closes e.targetHandle).map (·.source))).length := by
  have htest : ∀ e ∈ g.incoming k, (do return !(← g.isBackEdge e.target.value e.targetHandle) : Except Fault Bool) =
      .ok !closes e.targetHandle := by
    intro e he
    rw [isBackEdge_of_mem_incoming hnode he, h]
    rfl
  rw [required, filterM_ok htest]
  rfl

/-- A join at a node that is no loop waits for all of the node's sources. -/
theorem required_eq (hnode : g.node? k = some n) (hkind : n.kind ≠ .loop) :
    g.required k = .ok (g.sources k).length := by
  rw [required_of_closesLoop (fun _ => false) hnode fun handle => by simp [closesLoop, hkind]]
  simp [sources]

/-- Where there are no loops it is known how many branches each node waits for. -/
theorem required_of_no_loops (hloop : ∀ n ∈ g.nodes, n.kind ≠ .loop) (k : Key) : ∃ r, g.required k = .ok r := by
  cases hnode : g.node? k with
  | none => exact ⟨0, required_of_absent hnode⟩
  | some n => exact ⟨_, required_eq hnode (hloop n (node?_some hnode).1)⟩

/-- Where its payload is a mapping it is known which edges close a loop at a node. -/
theorem closesLoop_ok {id : Option MapId} {es : Entries} (hpayload : n.payload = .dict id es) :
    ∃ handle, n.loopEndHandle = .ok handle ∧ ∀ v, closesLoop n v = .ok (n.kind = .loop && v.eq handle) := by
  obtain ⟨handle, hhandle⟩ : ∃ handle, n.loopEndHandle = .ok handle := by
    simp only [Node.loopEndHandle, Node.setting, hpayload, Value.read_dict]
    exact ⟨_, rfl⟩
  refine ⟨handle, hhandle, fun v => ?_⟩
  by_cases hkind : n.kind = .loop
  · simp [closesLoop, hkind, hhandle, bind, Except.bind, pure, Except.pure]
  · simp [closesLoop, hkind]

/-- Where payloads are mappings, every join knows how many branches it waits for. -/
theorem required_ok (hpayload : ∀ n ∈ g.nodes, ∃ id es, n.payload = .dict id es) (k : Key) :
    ∃ r, g.required k = .ok r := by
  cases hnode : g.node? k with
  | none => exact ⟨0, required_of_absent hnode⟩
  | some n =>
      obtain ⟨id, es, hn⟩ := hpayload n (node?_some hnode).1
      obtain ⟨handle, -, hcloses⟩ := closesLoop_ok hn
      exact ⟨_, required_of_closesLoop (fun v => n.kind = .loop && v.eq handle) hnode hcloses⟩

/-- A join does not know how many branches it waits for where a loop has a payload
that is no mapping, and for no other reason. -/
theorem required_error {f : Fault} (h : g.required k = .error f) : ∃ n, g.node? k = some n ∧ n.kind = .loop ∧
    (∀ id es, n.payload ≠ .dict id es) ∧ f = .noAttribute n.payload.typeName "get" := by
  cases hnode : g.node? k with
  | none =>
      rw [required_of_absent hnode] at h
      cases h
  | some n =>
      have hpayload : ∀ id es, n.payload ≠ .dict id es := by
        intro id es hpayload
        obtain ⟨handle, -, hcloses⟩ := closesLoop_ok hpayload
        rw [required_of_closesLoop (fun v => n.kind = .loop && v.eq handle) hnode hcloses] at h
        cases h
      have hkind : n.kind = .loop := by
        by_contra hkind
        rw [required_eq hnode hkind] at h
        cases h
      have hread : ∀ name, n.payload.read name = .error (.noAttribute n.payload.typeName "get") := by
        intro name
        unfold Value.read
        split
        next id es hdict => exact absurd hdict (hpayload id es)
        next => rfl
      have hcloses : ∀ handle, closesLoop n handle = .error (.noAttribute n.payload.typeName "get") := by
        intro handle
        simp [closesLoop, hkind, Node.loopEndHandle, Node.setting, hread, bind, Except.bind]
      refine ⟨n, rfl, hkind, hpayload, ?_⟩
      rw [required, bind_error_iff] at h
      rcases h with hsift | ⟨waited, -, h⟩
      · obtain ⟨e, he, herror⟩ := exists_error_of_filterM hsift
        rw [isBackEdge_of_mem_incoming hnode he, hcloses] at herror
        cases herror
        rfl
      · cases h

end Graph
end Workflow
