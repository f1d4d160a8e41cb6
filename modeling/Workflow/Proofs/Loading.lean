import Workflow.Graph.Document
import Workflow.Graph.Source
import Workflow.Proofs.Results
import Mathlib

/-!
# Workflow.Proofs.Loading

What becomes of the text of a graph.

1. A text loads as a graph, or it is refused (`GraphError.Declared`), or the
   loading ends in a fault.  In a graph that has been loaded both ends of every
   edge are nodes, as in every graph.
2. A fault comes from a shape that nothing checks: `Node.Unfit` and
   `Edge.Unfit` for entries, `Graph.Unfit` for documents, `Graph.Unreadable`
   for texts.  Each of these names the first such shape in reading order, and
   its fault, so they hold exactly where the fault comes out
   (`Graph.ofText_fault_iff`).
3. A text therefore loads or is refused exactly if it has no such shape
   (`Graph.loads_or_refused_iff`).
-/

namespace Workflow

/-- A refusal in the words of this library, and no fault of an operation. -/
def GraphError.Declared (e : GraphError) : Prop := ∀ f, e ≠ .fault f

/-- The graph of a text. -/
def Graph.ofText (text : String) (n : Markup) : Except GraphError Graph := do
  Graph.ofDocument (← documentOfText text n)

/-- Is the value a mapping? -/
def Value.isMapping : Value → Bool
  | .dict .. => true
  | _ => false

/-! ## Steps that may fail -/

section Steps

variable {α : Type}

theorem GraphError.lift_fault_iff {r : Except Fault α} {f : Fault} :
    GraphError.lift r = .error (.fault f) ↔ r = .error f := by
  cases r <;> simp [GraphError.lift, Except.mapError]

theorem GraphError.lift_ok_iff {r : Except Fault α} {a : α} :
    GraphError.lift r = .ok a ↔ r = .ok a := by
  cases r <;> simp [GraphError.lift, Except.mapError]

end Steps

/-! ## Reading values -/

section Values

variable {v : Value} {name : String} {f : Fault}

theorem Value.read_error_iff :
    v.read name = .error f ↔ v.isMapping = false ∧ f = .noAttribute v.typeName "get" := by
  cases v <;> simp [Value.read, Value.isMapping, eq_comm]

theorem Value.eq_dict_of_isMapping (h : v.isMapping = true) : ∃ i es, v = .dict i es := by
  cases v <;> simp_all [Value.isMapping]

theorem Value.read_of_mapping (name : String) (h : v.isMapping = true) : ∃ w, v.read name = .ok w := by
  cases v <;> simp_all [Value.read, Value.isMapping]

theorem NodeId.ofValue_error_iff :
    NodeId.ofValue v = .error f ↔ v.key? = none ∧ f = .unhashable v.typeName := by
  unfold NodeId.ofValue
  split
  next k h => simp [h]
  next h => simp [h, eq_comm]

theorem NodeId.key_of_ofValue {i : NodeId} (h : NodeId.ofValue v = .ok i) : v.key? = some i.key := by
  unfold NodeId.ofValue at h
  split at h
  next k hk =>
    cases h
    exact hk
  next => cases h

theorem Value.itemsOrNone_error_iff :
    v.itemsOrNone = .error f ↔ v.truthy = true ∧ v.items? = none ∧ f = .notIterable v.typeName := by
  unfold Value.itemsOrNone Value.iterate
  cases htrue : v.truthy <;> cases hitems : v.items? <;> simp [eq_comm]

end Values

/-! ## Entries -/

/-- The mapping has an identifier and names a kind, so it is taken for a node. -/
def Node.Named (es : Entries) : Prop :=
  (Entries.field es "id").truthy = true ∧
    ∃ s kind, Entries.field es "type" = .str s ∧ NodeKind.ofName? s = some kind

/-- The entry ends the reading of a node in a fault: it is no mapping, its data
are neither false nor a mapping, or its identifier cannot be a key. -/
inductive Node.Unfit : Value → Fault → Prop
  | entry {v : Value} (h : v.isMapping = false) : Unfit v (.noAttribute v.typeName "get")
  | data {i : Option MapId} {es : Entries} (hnamed : Node.Named es)
      (htrue : (Entries.field es "data").truthy = true)
      (hmapping : (Entries.field es "data").isMapping = false) :
      Unfit (.dict i es) (.noAttribute (Entries.field es "data").typeName "get")
  | id {i : Option MapId} {es : Entries} (hnamed : Node.Named es)
      (hdata : (Entries.field es "data").truthy = true → (Entries.field es "data").isMapping = true)
      (hkey : (Entries.field es "id").key? = none) :
      Unfit (.dict i es) (.unhashable (Entries.field es "id").typeName)

/-- The mapping names a source and a target, so it is taken for an edge. -/
def Edge.Named (es : Entries) : Prop :=
  (Entries.field es "source").truthy = true ∧ (Entries.field es "target").truthy = true

/-- The entry ends the reading of an edge of a graph in a fault: it is no
mapping, or the first of its ends that is no node cannot be a key. -/
inductive Edge.Unfit (g : Graph) : Value → Fault → Prop
  | entry {v : Value} (h : v.isMapping = false) : Unfit g v (.noAttribute v.typeName "get")
  | source {i : Option MapId} {es : Entries} (hnamed : Edge.Named es)
      (hkey : (Entries.field es "source").key? = none) :
      Unfit g (.dict i es) (.unhashable (Entries.field es "source").typeName)
  | target {i : Option MapId} {es : Entries} {k : Key} (hnamed : Edge.Named es)
      (hsource : (Entries.field es "source").key? = some k) (hnode : k ∈ g.keys)
      (hkey : (Entries.field es "target").key? = none) :
      Unfit g (.dict i es) (.unhashable (Entries.field es "target").typeName)

/-- The node of a mapping that is taken for one, of the given kind. -/
def Node.ofNamed (es : Entries) (kind : NodeKind) : Except GraphError Node := do
  let data := (Entries.field es "data").orElse (.record [])
  let label := (← GraphError.lift (data.read "label")).orElse (.str "")
  let payload := (← GraphError.lift (data.read "nodeData")).orElse (.record [])
  let bindings ← GraphError.lift (data.read "inputBindings")
  let id ← GraphError.lift (NodeId.ofValue (Entries.field es "id"))
  return ⟨id, kind, label, payload, bindings⟩

theorem Node.ofValue_named {i : Option MapId} {es : Entries} (h : Node.Named es) :
    ∃ kind, Node.ofValue (.dict i es) = Node.ofNamed es kind := by
  obtain ⟨hid, s, kind, htype, hkind⟩ := h
  refine ⟨kind, ?_⟩
  unfold Node.ofValue Node.ofNamed
  simp [Value.read_dict, GraphError.lift, Except.mapError, bind, Except.bind, pure, Except.pure, hid, htype, hkind]

theorem Node.ofValue_not_named {i : Option MapId} {es : Entries} (h : ¬ Node.Named es) :
    ∃ e : GraphError, e.Declared ∧ Node.ofValue (.dict i es) = .error e := by
  unfold Node.ofValue
  simp only [Value.read_dict, GraphError.lift, Except.mapError, bind, Except.bind, pure, Except.pure]
  cases hid : (Entries.field es "id").truthy with
  | false => exact ⟨_, fun f => GraphError.noConfusion, rfl⟩
  | true =>
    -- what is missing is the kind
    simp only [Bool.not_true, Bool.false_eq_true, ↓reduceIte]
    split
    next => exact ⟨_, fun f => GraphError.noConfusion, rfl⟩
    next kind hkind =>
      refine (h ⟨hid, ?_⟩).elim
      split at hkind
      next s hs => exact ⟨s, kind, hs, hkind⟩
      next => cases hkind

theorem Value.orElse_record_isMapping {v : Value} (h : v.truthy = true → v.isMapping = true) :
    (v.orElse (.record [])).isMapping = true := by
  unfold Value.orElse
  cases htrue : v.truthy with
  | false => rfl
  | true => exact h htrue

/-- A named entry fails at its data, or else at its identifier. -/
theorem Node.ofNamed_fault_iff {i : Option MapId} {es : Entries} {kind : NodeKind} {f : Fault}
    (hnamed : Node.Named es) :
    Node.ofNamed es kind = .error (.fault f) ↔ Node.Unfit (.dict i es) f := by
  unfold Node.ofNamed
  by_cases hdata : (Entries.field es "data").truthy = true → (Entries.field es "data").isMapping = true
  · have hmap := Value.orElse_record_isMapping hdata
    obtain ⟨label, hlabel⟩ := Value.read_of_mapping "label" hmap
    obtain ⟨payload, hpayload⟩ := Value.read_of_mapping "nodeData" hmap
    obtain ⟨bindings, hbindings⟩ := Value.read_of_mapping "inputBindings" hmap
    have hid : Node.Unfit (.dict i es) f ↔ NodeId.ofValue (Entries.field es "id") = .error f := by
      rw [NodeId.ofValue_error_iff]
      constructor
      · rintro (⟨⟨⟩⟩ | ⟨_, htrue, hmapping⟩ | ⟨_, _, hkey⟩)
        · rw [hdata htrue] at hmapping
          cases hmapping
        · exact ⟨hkey, rfl⟩
      · rintro ⟨hkey, rfl⟩
        exact .id hnamed hdata hkey
    simp only [hlabel, hpayload, hbindings, hid]
    cases NodeId.ofValue (Entries.field es "id") <;>
      simp [GraphError.lift, Except.mapError, bind, Except.bind, pure, Except.pure]
  · obtain ⟨htrue, hmapping⟩ := Classical.not_imp.mp hdata
    rw [Bool.not_eq_true] at hmapping
    have hread : ((Entries.field es "data").orElse (.record [])).read "label" =
        .error (.noAttribute (Entries.field es "data").typeName "get") := by
      rw [Value.orElse, if_pos htrue]
      exact Value.read_error_iff.mpr ⟨hmapping, rfl⟩
    simp only [hread, GraphError.lift, Except.mapError, bind, Except.bind]
    constructor
    · rintro ⟨⟩
      exact .data hnamed htrue hmapping
    · rintro (⟨⟨⟩⟩ | _ | ⟨_, hgood, _⟩)
      · rfl
      · exact (hdata hgood).elim

theorem Node.ofValue_fault_iff {entry : Value} {f : Fault} :
    Node.ofValue entry = .error (.fault f) ↔ Node.Unfit entry f := by
  cases hentry : entry.isMapping with
  | false =>
    have hread : entry.read "id" = .error (.noAttribute entry.typeName "get") :=
      Value.read_error_iff.mpr ⟨hentry, rfl⟩
    unfold Node.ofValue
    simp only [hread, GraphError.lift, Except.mapError, bind, Except.bind]
    constructor
    · rintro ⟨⟩
      exact .entry hentry
    · rintro (_ | _ | _)
      · rfl
      · cases hentry
      · cases hentry
  | true =>
    obtain ⟨i, es, rfl⟩ := Value.eq_dict_of_isMapping hentry
    by_cases hnamed : Node.Named es
    · obtain ⟨kind, hkind⟩ := Node.ofValue_named (i := i) hnamed
      rw [hkind]
      exact Node.ofNamed_fault_iff hnamed
    · obtain ⟨e, hdeclared, he⟩ := Node.ofValue_not_named (i := i) hnamed
      rw [he]
      constructor
      · rintro ⟨⟩
        exact (hdeclared f rfl).elim
      · rintro (⟨⟨⟩⟩ | ⟨h, _, _⟩ | ⟨h, _, _⟩)
        · exact (hnamed h).elim
        · exact (hnamed h).elim

theorem Edge.ofValue_entry {entry : Value} (h : entry.isMapping = false) :
    Edge.ofValue entry = .error (.fault (.noAttribute entry.typeName "get")) := by
  have hread : entry.read "source" = .error (.noAttribute entry.typeName "get") :=
    Value.read_error_iff.mpr ⟨h, rfl⟩
  simp [Edge.ofValue, hread, GraphError.lift, Except.mapError, bind, Except.bind]

/-- The edge of a mapping that is taken for one. -/
def Edge.ofNamed (es : Entries) : Edge Value :=
  ⟨Entries.field es "source", Entries.field es "target", Entries.field es "sourceHandle",
    Entries.field es "targetHandle", Entries.field es "id"⟩

theorem Edge.ofValue_named {i : Option MapId} {es : Entries} (h : Edge.Named es) :
    Edge.ofValue (.dict i es) = .ok (Edge.ofNamed es) := by
  simp [Edge.ofValue, Edge.ofNamed, Value.read_dict, GraphError.lift, Except.mapError, bind, Except.bind, pure,
    Except.pure, h.1, h.2]

theorem Edge.ofValue_not_named {i : Option MapId} {es : Entries} (h : ¬ Edge.Named es) :
    Edge.ofValue (.dict i es) = .error (.withoutEnds (.dict i es)) := by
  unfold Edge.ofValue
  simp only [Value.read_dict, GraphError.lift, Except.mapError, bind, Except.bind]
  cases hsource : (Entries.field es "source").truthy with
  | false => rfl
  | true =>
    cases htarget : (Entries.field es "target").truthy with
    | false => rfl
    | true => exact (h ⟨hsource, htarget⟩).elim

namespace Graph

/-- The graph with the node of an entry. -/
def takeNode (g : Graph) (entry : Value) : Except GraphError Graph := do
  g.addNode (← Node.ofValue entry)

/-- The graph with the edge of an entry. -/
def takeEdge (g : Graph) (entry : Value) : Except GraphError Graph := do
  g.addEdge (← Edge.ofValue entry)

theorem takeNode_fault_iff {g : Graph} {entry : Value} {f : Fault} :
    g.takeNode entry = .error (.fault f) ↔ Node.Unfit entry f := by
  rw [takeNode, bind_error_iff, Node.ofValue_fault_iff]
  constructor
  · rintro (hentry | ⟨n, _, hadd⟩)
    · exact hentry
    · cases (Tables.addNode_error_iff.mp (addNode_error_iff.mp hadd)).2
  · exact .inl

theorem nodeOr_fault_iff {t : Tables} {refusal : GraphError} (hdeclared : refusal.Declared) {v : Value} {f : Fault} :
    t.nodeOr refusal v = .error (.fault f) ↔ v.key? = none ∧ f = .unhashable v.typeName := by
  rw [Tables.nodeOr, bind_error_iff, GraphError.lift_fault_iff, NodeId.ofValue_error_iff]
  refine or_iff_left ?_
  rintro ⟨i, -, h⟩
  split at h
  next => cases h
  next => exact hdeclared f (Except.error.inj h)

theorem addEdge_fault_iff {g : Graph} {e : Edge Value} {f : Fault} :
    g.addEdge e = .error (.fault f) ↔
      (e.source.key? = none ∧ f = .unhashable e.source.typeName) ∨
      ∃ k, e.source.key? = some k ∧ k ∈ g.keys ∧ e.target.key? = none ∧ f = .unhashable e.target.typeName := by
  have hsource : (GraphError.unknownSource e.source).Declared := nofun
  have htarget : (GraphError.unknownTarget e.target).Declared := nofun
  rw [addEdge_error_iff, g.sound.addEdge_error_iff, Tables.resolve, bind_error_iff, nodeOr_fault_iff hsource]
  refine or_congr_right ?_
  simp only [bind_error_iff, nodeOr_fault_iff htarget, Tables.nodeOr_ok_iff]
  constructor
  · rintro ⟨source, ⟨hsource, hnode⟩, htarget | ⟨target, -, h⟩⟩
    · exact ⟨source.key, NodeId.key_of_ofValue hsource, hnode, htarget⟩
    · cases h
  · rintro ⟨k, hkey, hnode, htarget⟩
    obtain ⟨source, hsource⟩ : ∃ source, NodeId.ofValue e.source = .ok source := by
      cases hsource : NodeId.ofValue e.source with
      | ok source => exact ⟨source, rfl⟩
      | error f' =>
        rw [(NodeId.ofValue_error_iff.mp hsource).1] at hkey
        cases hkey
    obtain rfl : k = source.key := Option.some.inj (hkey.symm.trans (NodeId.key_of_ofValue hsource))
    exact ⟨source, ⟨hsource, hnode⟩, .inl htarget⟩

theorem takeEdge_fault_iff {g : Graph} {entry : Value} {f : Fault} :
    g.takeEdge entry = .error (.fault f) ↔ Edge.Unfit g entry f := by
  unfold takeEdge
  cases hentry : entry.isMapping with
  | false =>
    rw [Edge.ofValue_entry hentry]
    constructor
    · rintro ⟨⟩
      exact .entry hentry
    · rintro (_ | _ | _)
      · rfl
      · cases hentry
      · cases hentry
  | true =>
    obtain ⟨i, es, rfl⟩ := Value.eq_dict_of_isMapping hentry
    by_cases hnamed : Edge.Named es
    · rw [Edge.ofValue_named hnamed]
      change g.addEdge (Edge.ofNamed es) = _ ↔ _
      rw [addEdge_fault_iff]
      constructor
      · rintro (⟨hkey, rfl⟩ | ⟨k, hsource, hnode, hkey, rfl⟩)
        · exact .source hnamed hkey
        · exact .target hnamed hsource hnode hkey
      · rintro (⟨⟨⟩⟩ | ⟨_, hkey⟩ | ⟨_, hsource, hnode, hkey⟩)
        · exact .inl ⟨hkey, rfl⟩
        · exact .inr ⟨_, hsource, hnode, hkey, rfl⟩
    · rw [Edge.ofValue_not_named hnamed]
      constructor
      · rintro ⟨⟩
      · rintro (⟨⟨⟩⟩ | ⟨h, _⟩ | ⟨h, _⟩)
        · exact (hnamed h).elim
        · exact (hnamed h).elim

/-! ## Documents -/

/-- The graph with all entries of a value, each taken in turn. -/
def takeAll (take : Graph → Value → Except GraphError Graph) (g : Graph) (entries : Value) :
    Except GraphError Graph := do
  (← GraphError.lift entries.itemsOrNone).foldlM take g

/-- The value ends the taking of its entries in a fault: it cannot be iterated
over, or an entry is unfit for the graph with all those before it. -/
inductive UnfitAll (take : Graph → Value → Except GraphError Graph)
    (Unfit : Graph → Value → Fault → Prop) (g : Graph) (entries : Value) : Fault → Prop
  | items (htrue : entries.truthy = true) (hitems : entries.items? = none) :
      UnfitAll take Unfit g entries (.notIterable entries.typeName)
  | entry {before after : List Value} {entry : Value} {g' : Graph} {f : Fault}
      (hitems : entries.itemsOrNone = .ok (before ++ entry :: after))
      (hbefore : before.foldlM take g = .ok g') (hentry : Unfit g' entry f) :
      UnfitAll take Unfit g entries f

theorem takeAll_fault_iff {take : Graph → Value → Except GraphError Graph}
    {Unfit : Graph → Value → Fault → Prop}
    (htake : ∀ g entry f, take g entry = .error (.fault f) ↔ Unfit g entry f)
    {g : Graph} {entries : Value} {f : Fault} :
    takeAll take g entries = .error (.fault f) ↔ UnfitAll take Unfit g entries f := by
  rw [takeAll, bind_error_iff, GraphError.lift_fault_iff, Value.itemsOrNone_error_iff]
  constructor
  · rintro (⟨htrue, hitems, rfl⟩ | ⟨items, hitems, hfold⟩)
    · exact .items htrue hitems
    · obtain ⟨before, entry, after, g', rfl, hbefore, hentry⟩ := foldlM_error_iff.mp hfold
      exact .entry (GraphError.lift_ok_iff.mp hitems) hbefore ((htake g' entry f).mp hentry)
  · rintro (⟨htrue, hitems⟩ | ⟨hitems, hbefore, hentry⟩)
    · exact .inl ⟨htrue, hitems, rfl⟩
    · exact .inr ⟨_, GraphError.lift_ok_iff.mpr hitems,
        foldlM_error_iff.mpr ⟨_, _, _, _, rfl, hbefore, (htake _ _ f).mpr hentry⟩⟩

/-- The document ends the reading of a graph in a fault: it is no mapping, or
its nodes are unfit, or its edges are unfit for the graph of its nodes. -/
inductive Unfit : Value → Fault → Prop
  | document {v : Value} (h : v.isMapping = false) : Unfit v (.noAttribute v.typeName "get")
  | nodes {i : Option MapId} {es : Entries} {f : Fault}
      (h : UnfitAll takeNode (fun _ => Node.Unfit) empty (Entries.field es "nodes") f) :
      Unfit (.dict i es) f
  | edges {i : Option MapId} {es : Entries} {g : Graph} {f : Fault}
      (hnodes : takeAll takeNode empty (Entries.field es "nodes") = .ok g)
      (h : UnfitAll takeEdge Edge.Unfit g (Entries.field es "edges") f) : Unfit (.dict i es) f

theorem ofDocument_dict (i : Option MapId) (es : Entries) :
    ofDocument (.dict i es) =
      (takeAll takeNode empty (Entries.field es "nodes") >>= fun g =>
        takeAll takeEdge g (Entries.field es "edges")) := by
  unfold ofDocument takeAll
  simp only [Value.read_dict, bind_assoc]
  rfl

theorem ofDocument_fault_iff {document : Value} {f : Fault} :
    ofDocument document = .error (.fault f) ↔ Unfit document f := by
  cases hmap : document.isMapping with
  | false =>
    have hread : document.read "nodes" = .error (.noAttribute document.typeName "get") :=
      Value.read_error_iff.mpr ⟨hmap, rfl⟩
    simp only [ofDocument, hread, GraphError.lift, Except.mapError, bind, Except.bind]
    constructor
    · rintro ⟨⟩
      exact .document hmap
    · rintro (_ | _ | _)
      · rfl
      · cases hmap
      · cases hmap
  | true =>
    obtain ⟨i, es, rfl⟩ := Value.eq_dict_of_isMapping hmap
    rw [ofDocument_dict, bind_error_iff, takeAll_fault_iff fun _ _ _ => takeNode_fault_iff]
    constructor
    · rintro (hnodes | ⟨g, hg, hedges⟩)
      · exact .nodes hnodes
      · exact .edges hg ((takeAll_fault_iff fun _ _ _ => takeEdge_fault_iff).mp hedges)
    · rintro (⟨⟨⟩⟩ | hnodes | ⟨hg, hedges⟩)
      · exact .inl hnodes
      · exact .inr ⟨_, hg, (takeAll_fault_iff fun _ _ _ => takeEdge_fault_iff).mpr hedges⟩

/-! ## Texts -/

/-- The text ends the reading of a graph in a fault: it writes an integer too
long to convert, or the stored record in it holds no mapping, or its document is
unfit. -/
inductive Unreadable (text : String) : Fault → Prop
  | digits {n : Nat} (h : Json.read text = .error (.tooManyDigits n)) : Unreadable text (.tooManyDigitsIn n)
  | record {i : Option MapId} {es : Entries} (h : Json.read text = .ok (.dict i es))
      (hmap : (unwrapRecord (.dict i es)).isMapping = false) :
      Unreadable text (.noAttribute (unwrapRecord (.dict i es)).typeName "get")
  | document {document : Value} {f : Fault} (h : documentOfText text .json = .ok document)
      (hunfit : Unfit document f) : Unreadable text f

theorem unwrapData_error_iff {v : Value} {f : Fault} :
    unwrapData v = .error f ↔ v.isMapping = false ∧ f = .noAttribute v.typeName "get" := by
  have hread : v.read "data" = .error f ↔ _ := Value.read_error_iff
  rw [← hread, unwrapData, bind_error_iff]
  refine or_iff_left ?_
  rintro ⟨a, -, h⟩
  split at h <;> cases h

theorem read_json_ok_iff {text : String} {v : Value} : Markup.json.read text = .ok v ↔ Json.read text = .ok v := by
  rcases hread : Json.read text with (_ | n) | v' <;> simp [Markup.read, hread]

theorem read_json_fault_iff {text : String} {f : Fault} :
    Markup.json.read text = .error (.fault f) ↔
      ∃ n, Json.read text = .error (.tooManyDigits n) ∧ f = .tooManyDigitsIn n := by
  rcases hread : Json.read text with (_ | n) | v' <;> simp [Markup.read, hread, eq_comm]

theorem documentOfText_fault_iff {text : String} {f : Fault} :
    documentOfText text .json = .error (.fault f) ↔
      (∃ n, Json.read text = .error (.tooManyDigits n) ∧ f = .tooManyDigitsIn n) ∨
      ∃ i es, Json.read text = .ok (.dict i es) ∧ (unwrapRecord (.dict i es)).isMapping = false ∧
        f = .noAttribute (unwrapRecord (.dict i es)).typeName "get" := by
  unfold documentOfText
  simp only [bind_error_iff, read_json_fault_iff, read_json_ok_iff]
  refine or_congr_right ⟨?_, ?_⟩
  · rintro ⟨v, hread, h⟩
    split at h
    next i es =>
      exact ⟨i, es, hread, unwrapData_error_iff.mp (GraphError.lift_fault_iff.mp h)⟩
    next => cases h
  · rintro ⟨i, es, hread, hmap⟩
    exact ⟨.dict i es, hread, GraphError.lift_fault_iff.mpr (unwrapData_error_iff.mpr hmap)⟩

theorem ofText_fault_iff {text : String} {f : Fault} :
    ofText text .json = .error (.fault f) ↔ Unreadable text f := by
  rw [ofText, bind_error_iff, documentOfText_fault_iff]
  constructor
  · rintro ((⟨n, hread, rfl⟩ | ⟨i, es, hread, hmap, rfl⟩) | ⟨document, hdocument, hunfit⟩)
    · exact .digits hread
    · exact .record hread hmap
    · exact .document hdocument (ofDocument_fault_iff.mp hunfit)
  · rintro (hread | ⟨hread, hmap⟩ | ⟨hdocument, hunfit⟩)
    · exact .inl (.inl ⟨_, hread, rfl⟩)
    · exact .inl (.inr ⟨_, _, hread, hmap, rfl⟩)
    · exact .inr ⟨_, hdocument, ofDocument_fault_iff.mpr hunfit⟩

/-- A text loads as a graph, whose edges end in nodes of it, or it is refused,
exactly if none of the shapes that nothing checks is met in it. -/
theorem loads_or_refused_iff (text : String) :
    ((∃ g, ofText text .json = .ok g ∧
        ∀ e ∈ g.edges, (∃ n ∈ g.nodes, n.id.key = e.source.key) ∧ ∃ n ∈ g.nodes, n.id.key = e.target.key) ∨
      ∃ e : GraphError, e.Declared ∧ ofText text .json = .error e) ↔
    ∀ f, ¬ Unreadable text f := by
  simp only [← ofText_fault_iff]
  constructor
  · rintro (⟨g, hg, -⟩ | ⟨e, hdeclared, he⟩) f hf
    · rw [hg] at hf
      cases hf
    · rw [he] at hf
      cases hf
      exact hdeclared f rfl
  · intro h
    cases hresult : ofText text .json with
    | error e => exact .inr ⟨e, fun f hf => h f (by rw [hresult, hf]), rfl⟩
    | ok g =>
      refine .inl ⟨g, rfl, fun e he => ?_⟩
      obtain ⟨hsource, htarget⟩ := g.ends_mem e he
      exact ⟨List.mem_map.mp hsource, List.mem_map.mp htarget⟩

/-- A record that holds a list in the place of its document is not refused. -/
theorem list_for_document_not_refused :
    ¬ ((∃ g, ofText "\x7b\"workflow_data\":[]\x7d" .json = .ok g) ∨
      ∃ e : GraphError, e.Declared ∧ ofText "\x7b\"workflow_data\":[]\x7d" .json = .error e) := by
  have hread : Json.read "\x7b\"workflow_data\":[]\x7d" = .ok (.dict none [(.str "workflow_data", .list [])]) := rfl
  have hfault : ofText "\x7b\"workflow_data\":[]\x7d" .json = .error (.fault (.noAttribute "list" "get")) :=
    ofText_fault_iff.mpr (.record hread rfl)
  rw [hfault]
  rintro (⟨g, ⟨⟩⟩ | ⟨e, hdeclared, ⟨⟩⟩)
  exact hdeclared _ rfl

end Graph
end Workflow
