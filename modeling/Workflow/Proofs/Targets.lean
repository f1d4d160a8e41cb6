import Workflow.Run.World

/-!
# Workflow.Proofs.Targets

Bindings whose targets do not get in each other's way.

To put a value at a path changes a shared mapping only where an earlier target
was a shared mapping on the way.  So where no target is a dotted prefix of
another one, the resolution of bindings writes to no shared mapping at all
(`resolve_writes`), and everything that is stored stays as it was stored.
-/

namespace Workflow

namespace Entries

/-! ## Steps of a path -/

/-- The mapping in which a path goes on behind a field: the one that is there, or
else a fresh one. -/
def next (es : Entries) (k : String) : Option MapId × Entries :=
  match es.field? k with
  | some (.dict id inner) => (id, inner)
  | _ => (none, [])

theorem next_setField (es : Entries) (k : String) (id : Option MapId) (inner : Entries) :
    (es.setField k (.dict id inner)).next k = (id, inner) := by
  simp [next, field?_setField_same]

/-- A fresh mapping is what putting the value into the empty mapping gives. -/
theorem freshPath_cons (depth : Nat) (v : Value) (k : String) (ks : List String) :
    freshPath (fun _ => none) depth v (k :: ks) = .dict none (setPath (fun _ => none) depth [] v (k :: ks)) := by
  cases ks with
  | nil => rfl
  | cons k' ks => rfl

/-- A value gets to a path through the mapping in which the path goes on. -/
theorem setPath_cons (depth : Nat) (es : Entries) (v : Value) (k k' : String) (ks : List String) :
    setPath (fun _ => none) depth es v (k :: k' :: ks) =
      es.setField k (.dict (es.next k).1 (setPath (fun _ => none) (depth + 1) (es.next k).2 v (k' :: ks))) := by
  have hunfold : setPath (fun _ => none) depth es v (k :: k' :: ks) = match es.field? k with
    | some (.dict id inner) => es.setField k (.dict id (setPath (fun _ => none) (depth + 1) inner v (k' :: ks)))
    | _ => es.setField k (freshPath (fun _ => none) (depth + 1) v (k' :: ks)) := rfl
  rw [hunfold]
  unfold next
  split
  · rfl
  · rw [freshPath_cons]

/-- Putting a value at a path sets the first field of the path, to something that
hangs only on the mapping in which the path goes on. -/
theorem exists_setPath_eq (depth : Nat) (v : Value) (k : String) (ks : List String) :
    ∃ f : Option MapId × Entries → Value, ∀ es,
      setPath (fun _ => none) depth es v (k :: ks) = es.setField k (f (es.next k)) := by
  cases ks with
  | nil => exact ⟨fun _ => v, fun _ => rfl⟩
  | cons k' ks =>
    exact ⟨fun x => .dict x.1 (setPath (fun _ => none) (depth + 1) x.2 v (k' :: ks)), fun es =>
      setPath_cons depth es v k k' ks⟩

/-! ## Paths without shared mappings -/

/-- No mapping on the way along a path is shared. -/
def Free : Entries → List String → Prop
  | _, [] => True
  | _, [_] => True
  | es, k :: ks => match es.field? k with
    | some (.dict id inner) => id = none ∧ Free inner ks
    | _ => True

theorem free_nil (q : List String) : Free [] q := by
  rcases q with _ | ⟨k, _ | ⟨k', ks⟩⟩ <;> exact trivial

theorem free_cons {es : Entries} {k k' : String} {ks : List String} :
    Free es (k :: k' :: ks) ↔ (es.next k).1 = none ∧ Free (es.next k).2 (k' :: ks) := by
  simp only [Free, next]
  split
  · rfl
  · exact ⟨fun _ => ⟨rfl, free_nil _⟩, fun _ => trivial⟩

/-- A value put at one path leaves another path free, unless the first leads to
a place on the second. -/
theorem Free.setPath {p q : List String} (hne : p ≠ []) (hp : ¬p <+: q) (v : Value) :
    ∀ {depth : Nat} {es : Entries}, Free es q → Free (Entries.setPath (fun _ => none) depth es v p) q := by
  induction p generalizing q with
  | nil => exact absurd rfl hne
  | cons k ps ih =>
      intro depth es h
      rcases q with _ | ⟨k', _ | ⟨k'', ks⟩⟩
      · exact trivial
      · exact trivial
      by_cases hk : k' = k
      · subst hk
        rcases ps with _ | ⟨p, ps⟩
        · exact absurd ⟨k'' :: ks, rfl⟩ hp
        have hrest : ¬p :: ps <+: k'' :: ks := fun ⟨rest, hrest⟩ => hp ⟨rest, congrArg (k' :: ·) hrest⟩
        obtain ⟨hnone, hinner⟩ := free_cons.mp h
        rw [setPath_cons, free_cons, next_setField]
        exact ⟨hnone, ih (by simp) hrest hinner⟩
      · obtain ⟨f, hf⟩ := exists_setPath_eq depth v k ps
        rw [hf]
        simp only [Free, field?_setField_other es _ hk]
        exact h

/-- Along a free path no shared mapping is written to. -/
theorem Free.pathWrite {q : List String} (v : Value) :
    ∀ {depth : Nat} {es : Entries}, Free es q → (Entries.pathWrite (fun _ => none) depth none es v q).1 = none := by
  induction q with
  | nil => exact fun _ => rfl
  | cons k ks ih =>
      intro depth es h
      rcases ks with _ | ⟨k', ks⟩
      · rfl
      unfold Entries.pathWrite
      split
      next id inner hfield =>
        simp only [Free, hfield] at h
        obtain ⟨rfl, hinner⟩ := h
        exact ih hinner
      next => rfl

end Entries

/-! ## Bindings -/

/-- Neither of two targets is a dotted prefix of the other. -/
def Value.Disjoint (v w : Value) : Prop :=
  ∀ a b, v = .str a → w = .str b → ¬segmentsOf a <+: segmentsOf b ∧ ¬segmentsOf b <+: segmentsOf a

/-- No target of the bindings is a dotted prefix of another one. -/
def Value.Separate (bindings : Value) : Prop :=
  ∀ id es, bindings = .dict id es → es.Pairwise fun x y => x.1.Disjoint y.1

/-- No node of the graph has a target that is a dotted prefix of another one. -/
def Graph.Separate (g : Graph) : Prop := ∀ n ∈ g.nodes, n.bindings.Separate

/-- Along a free path a value is put into the inputs, and nothing else happens. -/
theorem BindingState.put_of_free {st : BindingState} {path : List String} (h : st.inputs.Free path) (origin : Origin)
    (v : Value) : st.put origin path v = { st with inputs := Entries.setPath (fun _ => none) 0 st.inputs v path } := by
  have hnone := @Entries.Free.pathWrite _ v 0 _ h
  unfold BindingState.put
  split
  · rfl
  next heq =>
    rw [heq] at hnone
    cases hnone

theorem resolveFrom_given {origin : Origin} (st : BindingState) {outcomes : List BindingOutcome} {a e : String}
    {v : Value} (h : Expr.evaluate e st.context = .ok v) (rest : List (Value × Value)) :
    resolveFrom origin st outcomes ((.str a, .str e) :: rest) =
      resolveFrom origin (st.put origin (segmentsOf a) v) (outcomes ++ [⟨.str a, .str e, none⟩]) rest := by
  simp [resolveFrom, Expr.evaluateAny, h]

theorem resolveFrom_dropped {origin : Origin} (st : BindingState) {outcomes : List BindingOutcome} {a e : String}
    {err : Expr.EvalError} (h : Expr.evaluate e st.context = .error err) (rest : List (Value × Value)) :
    resolveFrom origin st outcomes ((.str a, .str e) :: rest) =
      resolveFrom origin st (outcomes ++ [⟨.str a, .str e, some err⟩]) rest := by
  simp [resolveFrom, Expr.evaluateAny, h]

theorem resolveBindings_of_context {origin : Origin} {bindings : Entries} {nodes : List Node}
    {outputs state context : Entries} (h : evalContext nodes outputs state (some ⟨origin, [stateName], 0⟩) = .ok context) (id : Option MapId) :
    resolveBindings origin (.dict id bindings) nodes outputs state =
      resolveFrom origin ⟨[], context, []⟩ [] bindings := by
  cases bindings with
  | nil => rfl
  | cons binding rest => simp [resolveBindings, Value.truthy, h]

theorem resolveFrom_writes (origin : Origin) {bindings : List (Value × Value)}
    (hseparate : bindings.Pairwise fun x y => x.1.Disjoint y.1) :
    ∀ (st : BindingState) (outcomes : List BindingOutcome),
      (∀ x ∈ bindings, ∀ a, x.1 = .str a → st.inputs.Free (segmentsOf a)) →
      (resolveFrom origin st outcomes bindings).writes = st.writes := by
  induction bindings with
  | nil => exact fun _ _ _ => rfl
  | cons x rest ih =>
      intro st outcomes hfree
      obtain ⟨target, expression⟩ := x
      obtain ⟨hfirst, hrest⟩ := List.pairwise_cons.mp hseparate
      have hlater : ∀ y ∈ rest, ∀ a, y.1 = .str a → st.inputs.Free (segmentsOf a) := fun y hy =>
        hfree y (List.mem_cons_of_mem _ hy)
      unfold resolveFrom
      split
      · rfl
      · exact ih hrest st _ hlater
      next v _ =>
        cases target with
        | str path =>
          dsimp only
          rw [BindingState.put_of_free (hfree _ List.mem_cons_self path rfl)]
          refine ih hrest _ _ fun y hy a ha => ?_
          exact (hlater y hy a ha).setPath (segmentsOf_ne_nil path) (hfirst y hy path a rfl ha).1 v
        | _ => rfl

theorem resolveBindings_writes (origin : Origin) {bindings : Value} (hseparate : bindings.Separate)
    (nodes : List Node) (outputs state : Entries) :
    (resolveBindings origin bindings nodes outputs state).writes = [] := by
  unfold resolveBindings
  split
  · rfl
  · split
    · rfl
    · cases bindings with
      | dict id es => exact resolveFrom_writes origin (hseparate id es rfl) _ _ fun _ _ _ _ => Entries.free_nil _
      | _ => rfl

namespace Run.World

theorem noteOutcomes_writes (sink : Sink) (n : Node) (os : List BindingOutcome) :
    ∀ w : World, (os.foldl (fun w o => noteOutcome w sink n o) w).writes = w.writes := by
  induction os with
  | nil => exact fun _ => rfl
  | cons o os ih =>
      intro w
      rw [List.foldl_cons, ih]
      unfold noteOutcome
      split <;> rfl

/-- Separate bindings write to nothing that others can see. -/
theorem resolve_writes (w : World) (plan : Plan) {n : Node} (hseparate : n.bindings.Separate) :
    (w.resolve plan n).1.writes = w.writes := by
  unfold resolve
  dsimp only
  rw [resolveBindings_writes _ hseparate, List.append_nil]
  split
  · exact noteOutcomes_writes ..
  · exact noteOutcomes_writes ..

end Run.World
end Workflow
