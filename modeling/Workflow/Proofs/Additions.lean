import Workflow.Proofs.Graph
import Workflow.Proofs.Loading

/-!
# Workflow.Proofs.Additions

What becomes of a graph to which nodes and edges are added.

1. Whether an addition is accepted can be told from the additions before it, without the
   tables: a node if none of them has its name, an edge if they name both of its ends
   (`Accepts`).
2. One addition does to the tables what it should, or it is refused and changes nothing
   (`Tracks.add_of_accepts`, `Tracks.add_of_not_accepts`).  So the tables keep track of any
   number of additions (`tracks_after`), and whatever is asked of a graph fits the additions
   that have been accepted (`Reflects`).
3. A document adds its nodes and then its edges.  It gives the graph of all of them, or is
   refused with the first that is (`additions_reflected`).
-/

namespace Workflow

/-! ## Additions -/

/-- Something that is to be added to a graph. -/
inductive Addition where
  | node (n : Node)
  | edge (e : Edge Value)

namespace Addition

/-- The node that is added. -/
def node? : Addition → Option Node
  | .node n => some n
  | .edge _ => none

/-- The edge that is added, between the names of nodes. -/
def edge? : Addition → Option (Edge NodeId)
  | .node _ => none
  | .edge e => match NodeId.ofValue e.source, NodeId.ofValue e.target with
    | .ok source, .ok target => some ⟨source, target, e.sourceHandle, e.targetHandle, e.id⟩
    | _, _ => none

/-- The keys of the nodes that are added. -/
def keys (as : List Addition) : List Key := as.filterMap fun a => a.node?.map fun n => n.id.key

/-- The value names one of the nodes that are added. -/
def Names (before : List Addition) (v : Value) : Prop := ∃ k ∈ keys before, v.key? = some k

instance (before : List Addition) (v : Value) : Decidable (Names before v) :=
  inferInstanceAs (Decidable (∃ k ∈ keys before, v.key? = some k))

/-- Is the addition accepted after others?  The name of a node must be new, and the ends of
an edge must be nodes. -/
def Accepts (before : List Addition) : Addition → Prop
  | .node n => n.id.key ∉ keys before
  | .edge e => Names before e.source ∧ Names before e.target

instance (before : List Addition) (a : Addition) : Decidable (Accepts before a) :=
  match a with
  | .node n => inferInstanceAs (Decidable (n.id.key ∉ keys before))
  | .edge e => inferInstanceAs (Decidable (Names before e.source ∧ Names before e.target))

/-- Why a value names no node. -/
def strange (unknown : Value → GraphError) (v : Value) : GraphError :=
  match v.key? with
  | some _ => unknown v
  | none => .fault (.unhashable v.typeName)

/-- Why an addition is refused after others. -/
def refusal (before : List Addition) : Addition → GraphError
  | .node n => .duplicate n.id.value
  | .edge e => if Names before e.source then strange .unknownTarget e.target else strange .unknownSource e.source

/-- Those of the additions that are accepted, one after the other. -/
def accepted (before : List Addition) : List Addition → List Addition
  | [] => []
  | a :: as => if Accepts before a then a :: accepted (before ++ [a]) as else accepted (before ++ [a]) as

variable {before as bs : List Addition} {a : Addition}

theorem accepted_append : accepted before (as ++ bs) = accepted before as ++ accepted (before ++ as) bs := by
  induction as generalizing before with
  | nil => simp [accepted]
  | cons a as ih =>
    rw [List.cons_append, accepted, accepted, ih, List.append_assoc, List.singleton_append]
    split <;> rfl

theorem keys_append : keys (as ++ bs) = keys as ++ keys bs := List.filterMap_append

end Addition

open Addition

/-- Adds a node or an edge. -/
def Tables.add (t : Tables) : Addition → Tables × Except GraphError Unit
  | .node n => t.addNode n
  | .edge e => t.addEdge e

/-- The tables after additions, refused ones included. -/
def Tables.after (as : List Addition) : Tables := as.foldl (fun t a => (t.add a).1) .empty

/-! ## Tables that keep track -/

/-- The tables are those of a graph, with what has been accepted in them. -/
structure Tracks (t : Tables) (as : List Addition) : Prop where
  sound : t.Sound
  nodes : t.nodes = (accepted [] as).filterMap node?
  edges : t.edges = (accepted [] as).filterMap edge?
  keys : ∀ k, k ∈ t.keys ↔ k ∈ Addition.keys as

namespace Tracks

variable {t : Tables} {as : List Addition} {a : Addition} {v : Value}

theorem empty : Tracks .empty [] where
  sound := Graph.empty.sound
  nodes := rfl
  edges := rfl
  keys _ := Iff.rfl

theorem nodeOr_of_names (h : Tracks t as) (hnames : Names as v) (refusal : GraphError) :
    ∃ i, NodeId.ofValue v = .ok i ∧ t.nodeOr refusal v = .ok i := by
  obtain ⟨k, hk, hkey⟩ := hnames
  cases hv : NodeId.ofValue v with
  | error f =>
    rw [(NodeId.ofValue_error_iff.mp hv).1] at hkey
    cases hkey
  | ok i =>
    obtain rfl : k = i.key := Option.some.inj (hkey.symm.trans (NodeId.key_of_ofValue hv))
    exact ⟨i, rfl, Tables.nodeOr_ok_iff.mpr ⟨hv, (h.keys _).mpr hk⟩⟩

theorem nodeOr_of_not_names (h : Tracks t as) (hnot : ¬ Names as v) (unknown : Value → GraphError) :
    t.nodeOr (unknown v) v = .error (strange unknown v) := by
  unfold Tables.nodeOr strange
  cases hv : NodeId.ofValue v with
  | error f =>
    obtain ⟨hkey, rfl⟩ := NodeId.ofValue_error_iff.mp hv
    rw [hkey]
    rfl
  | ok i =>
    have hkey := NodeId.key_of_ofValue hv
    have hnode : i.key ∉ t.keys := fun hk => hnot ⟨i.key, (h.keys _).mp hk, hkey⟩
    rw [hkey]
    change (if i.key ∈ t.keys then Except.ok i else .error (unknown v)) = _
    rw [if_neg hnode]

/-- An addition that is accepted gets into the tables. -/
theorem add_of_accepts (h : Tracks t as) (ha : Accepts as a) :
    t.add a = ({ nodes := t.nodes ++ a.node?.toList, edges := t.edges ++ a.edge?.toList }, .ok ()) := by
  cases a with
  | node n =>
    have hnew : n.id.key ∉ t.keys := (h.keys _).not.mpr ha
    rw [Tables.add, h.sound.addNode_eq, if_neg hnew]
    simp [node?, edge?]
  | edge e =>
    obtain ⟨source, hsource, hsource'⟩ := h.nodeOr_of_names ha.1 (.unknownSource e.source)
    obtain ⟨target, htarget, htarget'⟩ := h.nodeOr_of_names ha.2 (.unknownTarget e.target)
    have hresolve : t.resolve e = .ok ⟨source, target, e.sourceHandle, e.targetHandle, e.id⟩ := by
      rw [Tables.resolve, hsource', htarget']
      rfl
    rw [Tables.add, h.sound.addEdge_eq, hresolve]
    simp [node?, edge?, hsource, htarget]

/-- An addition that is not accepted changes nothing. -/
theorem add_of_not_accepts (h : Tracks t as) (hnot : ¬ Accepts as a) : t.add a = (t, .error (refusal as a)) := by
  cases a with
  | node n =>
    have hold : n.id.key ∈ t.keys := (h.keys _).mpr (not_not.mp hnot)
    rw [Tables.add, h.sound.addNode_eq, if_pos hold]
    rfl
  | edge e =>
    have hresolve : t.resolve e = .error (Addition.refusal as (.edge e)) := by
      rw [Tables.resolve, Addition.refusal]
      by_cases hsource : Names as e.source
      · obtain ⟨source, -, hsource'⟩ := h.nodeOr_of_names hsource (.unknownSource e.source)
        have htarget : ¬ Names as e.target := fun htarget => hnot ⟨hsource, htarget⟩
        rw [if_pos hsource, hsource', h.nodeOr_of_not_names htarget .unknownTarget]
        rfl
      · rw [if_neg hsource, h.nodeOr_of_not_names hsource .unknownSource]
        rfl
    rw [Tables.add, h.sound.addEdge_eq, hresolve]

/-- Tables go on keeping track as something is added. -/
theorem add (h : Tracks t as) (a : Addition) : Tracks (t.add a).1 (as ++ [a]) := by
  have hsound : (t.add a).1.Sound := by
    cases a with
    | node n => exact h.sound.addNode n
    | edge e => exact h.sound.addEdge e
  by_cases ha : Accepts as a
  · have haccepted : accepted [] (as ++ [a]) = accepted [] as ++ [a] := by
      rw [accepted_append, List.nil_append, accepted, if_pos ha]
      rfl
    have hadd := h.add_of_accepts ha
    refine ⟨hsound, ?_, ?_, fun k => ?_⟩
    · rw [hadd, haccepted, List.filterMap_append, ← h.nodes]
      cases a <;> rfl
    · rw [hadd, haccepted, List.filterMap_append, ← h.edges]
      cases hedge : a.edge? <;> simp [hedge]
    · rw [hadd, keys_append, List.mem_append, ← h.keys]
      cases a <;> simp [Tables.keys, Addition.keys, node?]
  · have haccepted : accepted [] (as ++ [a]) = accepted [] as := by
      rw [accepted_append, List.nil_append, accepted, if_neg ha]
      exact List.append_nil _
    have hadd := h.add_of_not_accepts ha
    refine ⟨hsound, ?_, ?_, fun k => ?_⟩
    · rw [hadd, haccepted, h.nodes]
    · rw [hadd, haccepted, h.edges]
    · rw [hadd, keys_append, List.mem_append, h.keys]
      refine (or_iff_left_of_imp fun hk => ?_).symm
      -- a node that is refused has a name that is known already
      cases a with
      | node n =>
        obtain rfl : k = n.id.key := by simpa [Addition.keys, node?] using hk
        exact not_not.mp ha
      | edge e => cases hk

end Tracks

/-- After any additions the tables keep track of them. -/
theorem tracks_after (as : List Addition) : Tracks (.after as) as := by
  -- from the end, as an addition is judged by all those before it
  induction as using List.reverseRecOn with
  | nil => exact .empty
  | append_singleton as a ih =>
    have hsnoc : Tables.after (as ++ [a]) = ((Tables.after as).add a).1 := List.foldl_concat ..
    rw [hsnoc]
    exact ih.add a

/-! ## What is asked of a graph -/

/-- The edge leads from a loop's body back to the loop. -/
def Edge.ClosesLoop (n : Node) (e : Edge NodeId) : Prop :=
  n.kind = .loop ∧ ∃ handle, n.loopEndHandle = .ok handle ∧ e.targetHandle.eq handle = true

/-- Names by their keys, each at its first occurrence. -/
def firsts (is : List NodeId) : List NodeId := is.eraseDupsBy fun i j => i.key == j.key

/-- Whatever is asked of the graph fits what has been added to it. -/
structure Reflects (g : Graph) (as : List Addition) : Prop where
  nodes : g.nodes = as.filterMap node?
  edges : g.edges = as.filterMap edge?
  unique : g.keys.Nodup
  ends : ∀ e ∈ g.edges, e.source.key ∈ g.keys ∧ e.target.key ∈ g.keys
  outgoing : ∀ k, g.outgoing k = g.edges.filter fun e => e.source.key == k
  incoming : ∀ k, g.incoming k = g.edges.filter fun e => e.target.key == k
  successors : ∀ k, g.successors k = firsts ((g.outgoing k).map (·.target))
  predecessors : ∀ k, g.predecessors k = firsts ((g.incoming k).map (·.source))
  required : ∀ n ∈ g.nodes, n.payload.isMapping = true → ∃ sources : Finset Key,
    g.required n.id.key = .ok sources.card ∧
      ∀ k, k ∈ sources ↔ ∃ e ∈ g.edges, e.target.key = n.id.key ∧ e.source.key = k ∧ ¬ e.ClosesLoop n

namespace Graph

theorem distinct_filter (p : Key → Bool) (is : List NodeId) :
    (distinct is).filter (fun i => p i.key) = distinct (is.filter fun i => p i.key) := by
  induction is with
  | nil => rfl
  | cons i is ih =>
    have hswap : ∀ js : List NodeId, (js.filter fun j => j.key != i.key).filter (fun j => p j.key) =
        (js.filter fun j => p j.key).filter fun j => j.key != i.key := by
      intro js
      simp only [List.filter_filter, Bool.and_comm]
    rw [distinct, List.filter_cons, List.filter_cons]
    cases hp : p i.key with
    | true => simp only [↓reduceIte, hswap, ih, distinct]
    | false =>
      have hall : ∀ j ∈ distinct (is.filter fun j => p j.key), j.key != i.key := by
        intro j hj
        have hpj := (List.mem_filter.mp (distinct_subset _ hj)).2
        rw [bne_iff_ne]
        intro heq
        rw [heq, hp] at hpj
        cases hpj
      simp only [Bool.false_eq_true, ↓reduceIte, hswap, ih]
      exact List.filter_eq_self.mpr hall

theorem distinct_eq_firsts (is : List NodeId) : distinct is = firsts is := by
  -- on the length, as what is left to go through has been filtered
  induction hlength : is.length using Nat.strongRecOn generalizing is with
  | ind length ih =>
    cases is with
    | nil => rfl
    | cons i is =>
      have hrest : (is.filter fun j => decide ((j.key == i.key) = false)) = is.filter fun j => j.key != i.key :=
        List.filter_congr fun j _ => by cases h : j.key == i.key <;> simp [bne, h]
      have hshort : (is.filter fun j => j.key != i.key).length < length := by
        have := List.length_filter_le (fun j => j.key != i.key) is
        simp only [List.length_cons] at hlength
        omega
      rw [firsts, List.eraseDupsBy_cons, hrest, distinct, distinct_filter fun k => k != i.key]
      exact congrArg (i :: ·) (ih _ hshort _ rfl)

/-- A join waits for the distinct sources of the edges that do not close a loop. -/
theorem required_sources {g : Graph} {n : Node} (hn : n ∈ g.nodes) (hpayload : n.payload.isMapping = true) :
    ∃ sources : Finset Key, g.required n.id.key = .ok sources.card ∧
      ∀ k, k ∈ sources ↔ ∃ e ∈ g.edges, e.target.key = n.id.key ∧ e.source.key = k ∧ ¬ e.ClosesLoop n := by
  obtain ⟨id, es, hdict⟩ := Value.eq_dict_of_isMapping hpayload
  obtain ⟨handle, hhandle, hcloses⟩ := closesLoop_ok hdict
  let waited := (g.incoming n.id.key).filter fun e => !(decide (n.kind = .loop) && e.targetHandle.eq handle)
  have hclosesLoop : ∀ e : Edge NodeId,
      e.ClosesLoop n ↔ (decide (n.kind = .loop) && e.targetHandle.eq handle) = true := by
    intro e
    rw [Bool.and_eq_true, decide_eq_true_eq]
    refine and_congr_right fun _ => ⟨?_, fun h => ⟨handle, hhandle, h⟩⟩
    rintro ⟨handle', hhandle', h⟩
    rwa [Except.ok.inj (hhandle.symm.trans hhandle')]
  refine ⟨((distinct (waited.map (·.source))).map (·.key)).toFinset, ?_, fun k => ?_⟩
  · rw [List.toFinset_card_of_nodup (keys_distinct_nodup _), List.length_map]
    exact required_of_closesLoop (fun v => n.kind = .loop && v.eq handle) (node?_mem hn) hcloses
  · rw [List.mem_toFinset, mem_keys_distinct]
    simp only [waited, List.map_map, List.mem_map, List.mem_filter, mem_incoming, hclosesLoop, Bool.not_eq_true',
      Bool.not_eq_true, Function.comp_apply]
    constructor
    · rintro ⟨e, ⟨⟨he, htarget⟩, hopen⟩, hsource⟩
      exact ⟨e, he, htarget, hsource, hopen⟩
    · rintro ⟨e, he, htarget, hsource, hopen⟩
      exact ⟨e, ⟨⟨he, htarget⟩, hopen⟩, hsource⟩

end Graph

/-- A graph with such tables reflects what has been accepted. -/
theorem Tracks.reflects {g : Graph} {as : List Addition} (h : Tracks g.toTables as) : Reflects g (accepted [] as) where
  nodes := h.nodes
  edges := h.edges
  unique := g.keys_nodup
  ends := g.ends_mem
  outgoing := g.outgoing_eq
  incoming := g.incoming_eq
  successors _ := Graph.distinct_eq_firsts _
  predecessors _ := Graph.distinct_eq_firsts _
  required _ := Graph.required_sources

/-! ## Documents -/

/-- An entry of a document. -/
inductive Item where
  | node (entry : Value)
  | edge (entry : Value)

/-- The addition that an entry stands for. -/
def Item.read : Item → Except GraphError Addition
  | .node entry => (Node.ofValue entry).map .node
  | .edge entry => (Edge.ofValue entry).map .edge

/-- The entry is a mapping.  The data of a node are false or a mapping, and its identifier can
be a key; so can the ends of an edge. -/
inductive Item.Shaped : Item → Prop
  | node {i : Option MapId} {es : Entries}
      (hdata : (Entries.field es "data").truthy = true → (Entries.field es "data").isMapping = true)
      (hkey : (Entries.field es "id").key?.isSome = true) : Shaped (.node (.dict i es))
  | edge {i : Option MapId} {es : Entries} (hsource : (Entries.field es "source").key?.isSome = true)
      (htarget : (Entries.field es "target").key?.isSome = true) : Shaped (.edge (.dict i es))

/-- Adds a node or an edge to a graph. -/
def Graph.add (g : Graph) : Addition → Except GraphError Graph
  | .node n => g.addNode n
  | .edge e => g.addEdge e

/-- The graph with what an entry stands for. -/
def Graph.take (g : Graph) : Item → Except GraphError Graph
  | .node entry => g.takeNode entry
  | .edge entry => g.takeEdge entry

/-- What becomes of the entries of a document: a graph with all that they stand for, or the
refusal of the first entry that stands for nothing or for what is not accepted. -/
inductive Loads (items : List Item) : Except GraphError Graph → Prop
  | all {as : List Addition} {g : Graph} (hread : items.mapM Item.read = .ok as) (haccepted : accepted [] as = as)
      (hreflects : Reflects g as) : Loads items (.ok g)
  | refused {before after : List Item} {x : Item} {as : List Addition} {err : GraphError}
      (hsplit : items = before ++ x :: after) (hread : before.mapM Item.read = .ok as) (haccepted : accepted [] as = as)
      (hrefused : x.read = .error err ∨ ∃ a, x.read = .ok a ∧ ¬ Accepts as a ∧ err = refusal as a)
      (hdeclared : err.Declared) : Loads items (.error err)

namespace Graph

variable {g g' : Graph} {as : List Addition} {a : Addition} {x : Item} {err : GraphError}

/-- Adding to a graph is adding to its tables. -/
theorem add_eq (g : Graph) (a : Addition) : ∃ h : (g.toTables.add a).1.Sound,
    g.add a = (g.toTables.add a).2.map fun () => h.graph := by
  cases a with
  | node n => exact ⟨g.sound.addNode n, rfl⟩
  | edge e => exact ⟨g.sound.addEdge e, rfl⟩

theorem add_of_accepts (h : Tracks g.toTables as) (ha : Accepts as a) :
    ∃ g', g.add a = .ok g' ∧ Tracks g'.toTables (as ++ [a]) := by
  obtain ⟨hsound, hadd⟩ := g.add_eq a
  rw [congrArg Prod.snd (h.add_of_accepts ha)] at hadd
  exact ⟨_, hadd, h.add a⟩

theorem add_of_not_accepts (h : Tracks g.toTables as) (hnot : ¬ Accepts as a) : g.add a = .error (refusal as a) := by
  obtain ⟨hsound, hadd⟩ := g.add_eq a
  rwa [congrArg Prod.snd (h.add_of_not_accepts hnot)] at hadd

theorem take_eq (g : Graph) (x : Item) : g.take x = x.read >>= g.add := by
  cases x with
  | node entry =>
    rw [take, takeNode, Item.read]
    cases Node.ofValue entry <;> rfl
  | edge entry =>
    rw [take, takeEdge, Item.read]
    cases Edge.ofValue entry <;> rfl

/-- Where an entry is taken it stands for an addition that is accepted. -/
theorem take_ok (h : Tracks g.toTables as) (htake : g.take x = .ok g') :
    ∃ a, x.read = .ok a ∧ Accepts as a ∧ Tracks g'.toTables (as ++ [a]) := by
  rw [take_eq] at htake
  cases hread : x.read with
  | error err => rw [hread] at htake; cases htake
  | ok a =>
    rw [hread] at htake
    change g.add a = .ok g' at htake
    by_cases ha : Accepts as a
    · obtain ⟨g'', hadd, htracks⟩ := add_of_accepts h ha
      obtain rfl : g'' = g' := Except.ok.inj (hadd.symm.trans htake)
      exact ⟨a, rfl, ha, htracks⟩
    · rw [add_of_not_accepts h ha] at htake
      cases htake

/-- Where an entry is not taken it stands for nothing, or for what is not accepted. -/
theorem take_error (h : Tracks g.toTables as) (htake : g.take x = .error err) :
    x.read = .error err ∨ ∃ a, x.read = .ok a ∧ ¬ Accepts as a ∧ err = refusal as a := by
  rw [take_eq, bind_error_iff] at htake
  refine htake.imp_right ?_
  rintro ⟨a, hread, hadd⟩
  have hnot : ¬ Accepts as a := by
    intro ha
    obtain ⟨g', hadd', -⟩ := add_of_accepts h ha
    rw [hadd'] at hadd
    cases hadd
  exact ⟨a, hread, hnot, Except.error.inj (hadd.symm.trans (add_of_not_accepts h hnot))⟩

/-- Entries that are taken stand for additions that are accepted one after the other. -/
theorem foldlM_take_ok {items : List Item} (h : Tracks g.toTables as) (hfold : items.foldlM take g = .ok g') :
    ∃ bs, items.mapM Item.read = .ok bs ∧ accepted as bs = bs ∧ Tracks g'.toTables (as ++ bs) := by
  induction items generalizing g as with
  | nil =>
    obtain rfl : g = g' := Except.ok.inj hfold
    exact ⟨[], rfl, rfl, by rwa [List.append_nil]⟩
  | cons x items ih =>
    rw [List.foldlM_cons] at hfold
    cases htake : g.take x with
    | error err => rw [htake] at hfold; cases hfold
    | ok g'' =>
      rw [htake] at hfold
      obtain ⟨a, hread, ha, htracks⟩ := take_ok h htake
      obtain ⟨bs, hreads, haccepted, htracks'⟩ := ih htracks hfold
      refine ⟨a :: bs, ?_, ?_, ?_⟩
      · rw [List.mapM_cons, hread, hreads]
        rfl
      · rw [accepted, if_pos ha, haccepted]
      · rwa [List.append_assoc, List.singleton_append] at htracks'

/-- A fault is none of the refusals of entries in shape. -/
theorem take_declared (hshaped : x.Shaped) (htake : g.take x = .error err) : err.Declared := by
  rintro f rfl
  cases hshaped with
  | node hdata hkey =>
    cases takeNode_fault_iff.mp htake with
    | entry h => cases h
    | data _ htrue hmapping => rw [hdata htrue] at hmapping; cases hmapping
    | id _ _ hnone => rw [hnone] at hkey; cases hkey
  | edge hsource htarget =>
    cases takeEdge_fault_iff.mp htake with
    | entry h => cases h
    | source _ hnone => rw [hnone] at hsource; cases hsource
    | target _ _ _ hnone => rw [hnone] at htarget; cases htarget

/-- The graph of a document is that of its nodes and then its edges. -/
theorem ofDocument_eq_foldlM {i : Option MapId} {es : Entries} {nodes edges : List Value}
    (hnodes : (Entries.field es "nodes").itemsOrNone = .ok nodes)
    (hedges : (Entries.field es "edges").itemsOrNone = .ok edges) :
    ofDocument (.dict i es) = (nodes.map Item.node ++ edges.map Item.edge).foldlM take empty := by
  rw [ofDocument_dict, List.foldlM_append, List.foldlM_map]
  simp only [takeAll, hnodes, hedges, List.foldlM_map]
  rfl

/-- Entries in shape load, or are refused. -/
theorem loads_foldlM {items : List Item} (hshaped : ∀ x ∈ items, x.Shaped) : Loads items (items.foldlM take empty) := by
  cases hfold : items.foldlM take empty with
  | ok g =>
    obtain ⟨as, hread, haccepted, htracks⟩ := foldlM_take_ok Tracks.empty hfold
    exact .all hread haccepted (haccepted ▸ htracks.reflects)
  | error err =>
    obtain ⟨before, x, after, g, rfl, hbefore, htake⟩ := foldlM_error_iff.mp hfold
    obtain ⟨as, hread, haccepted, htracks⟩ := foldlM_take_ok Tracks.empty hbefore
    exact .refused rfl hread haccepted (take_error htracks htake) (take_declared (hshaped x (by simp)) htake)

end Graph

/-- The tables after any additions, refused ones included, are those of a graph that reflects
what has been accepted.  The next addition is accepted, or is refused and changes nothing.  A
document with entries in shape gives the graph of its nodes and then its edges, or is refused
with the first of them that is. -/
theorem additions_reflected :
    (∀ as, ∃ g : Graph, Tables.after as = g.toTables ∧ Reflects g (accepted [] as) ∧
      ∀ a, (Accepts as a → (g.toTables.add a).2 = .ok ()) ∧
        (¬ Accepts as a → g.toTables.add a = (g.toTables, .error (refusal as a)))) ∧
    ∀ i es nodes edges, (Entries.field es "nodes").itemsOrNone = .ok nodes →
      (Entries.field es "edges").itemsOrNone = .ok edges →
      (∀ x ∈ nodes.map Item.node ++ edges.map Item.edge, x.Shaped) →
      Loads (nodes.map Item.node ++ edges.map Item.edge) (Graph.ofDocument (.dict i es)) := by
  refine ⟨fun as => ?_, fun i es nodes edges hnodes hedges hshaped => ?_⟩
  · have htracks := tracks_after as
    refine ⟨htracks.sound.graph, rfl, Tracks.reflects htracks, fun a => ⟨fun ha => ?_, fun hnot => ?_⟩⟩
    · exact congrArg Prod.snd (htracks.add_of_accepts ha)
    · exact htracks.add_of_not_accepts hnot
  · rw [Graph.ofDocument_eq_foldlM hnodes hedges]
    exact Graph.loads_foldlM hshaped

/-- A node. -/
def hermit : Node := ⟨.ofString "a", .state, .str "", .record [], .null⟩

/-- An edge from that node. -/
def hermitEdge (target : String) : Edge Value := ⟨.str "a", .str target, .null, .null, .null⟩

/-- Its entry in a document. -/
def hermitEntry : Value := .record [("id", .str "a"), ("type", .str "state")]

/-- Of many attempts those are accepted that come after the node and lead back to it.  A
document with the node twice is refused. -/
theorem hermit_reflected :
    (∃ g : Graph, Tables.after [.edge (hermitEdge "a"), .node hermit, .edge (hermitEdge "b"), .edge (hermitEdge "a"),
        .node hermit, .edge (hermitEdge "a")] = g.toTables ∧
      Reflects g [.node hermit, .edge (hermitEdge "a"), .edge (hermitEdge "a")]) ∧
    Loads [.node hermitEntry, .node hermitEntry]
      (Graph.ofDocument (.record [("nodes", .list [hermitEntry, hermitEntry])])) ∧
    Graph.ofDocument (.record [("nodes", .list [hermitEntry, hermitEntry])]) = .error (.duplicate (.str "a")) := by
  refine ⟨?_, ?_, rfl⟩
  · obtain ⟨g, htables, hreflects, -⟩ := additions_reflected.1 [.edge (hermitEdge "a"), .node hermit,
      .edge (hermitEdge "b"), .edge (hermitEdge "a"), .node hermit, .edge (hermitEdge "a")]
    exact ⟨g, htables, hreflects⟩
  · refine additions_reflected.2 none _ [hermitEntry, hermitEntry] [] rfl rfl ?_
    intro x hx
    obtain rfl : x = .node hermitEntry := by simpa using hx
    exact .node nofun rfl

end Workflow
