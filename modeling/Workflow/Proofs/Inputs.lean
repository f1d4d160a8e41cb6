import Workflow.Proofs.Selection

/-!
# Workflow.Proofs.Inputs

What the inputs of end, model and retrieval nodes are.

1. A binding that fails leaves no trace in the inputs, and what one has put there is never
   taken away.  So the inputs are empty exactly if every binding fails, and that can be
   asked of the context before the first one (`foldl_bindOne_nil_iff`).
2. A node of one of these kinds works with what its bindings give.  Only if that is empty
   it makes its inputs of the output of its first predecessor, as long as that is not false
   (`nothing_else_replaced`).  It makes no difference whether there are no bindings or all
   of them fail: failing bindings do not keep the output of the predecessor out
   (`failed_bindings_replaced`).
-/

namespace Workflow

/-! ## Bindings that give nothing -/

namespace Entries

variable {es : Entries} {v : Value}

theorem setField_ne_nil (es : Entries) (k : String) (v : Value) : es.setField k v ≠ [] := by
  cases es with
  | nil => exact List.cons_ne_nil _ _
  | cons e rest =>
    rw [setField, set]
    split <;> exact List.cons_ne_nil _ _

theorem setPath_ne_nil {path : List String} (hpath : path ≠ []) (idAt : Nat → Option MapId) (depth : Nat) :
    es.setPath idAt depth v path ≠ [] := by
  match path with
  | [k] => exact setField_ne_nil es k v
  | k :: l :: ks =>
    unfold setPath
    split <;> exact setField_ne_nil es k _

/-- There is no mapping to write to inside the empty one. -/
theorem pathWrite_nil (idAt : Nat → Option MapId) (depth : Nat) (id : Option MapId) (path : List String) :
    (pathWrite idAt depth id [] v path).1 = id := by
  match path with
  | [] | [_] | _ :: _ :: _ => rfl

end Entries

/-- A mapping without entries stays without them. -/
theorem Value.receiveEntries_ne_nil {es : Entries} (w : Write) (h : es ≠ []) : receiveEntries w es ≠ [] := by
  cases es with
  | nil => exact absurd rfl h
  | cons e rest => exact List.cons_ne_nil _ _

/-- Where a value has been put somewhere, the inputs are not empty. -/
theorem BindingState.put_ne_nil (st : BindingState) (origin : Origin) {path : List String} (hpath : path ≠ [])
    (v : Value) : (st.put origin path v).inputs ≠ [] := by
  have hnil : st.inputs = [] → (Entries.pathWrite (fun _ => none) 0 none st.inputs v path).1 = none := by
    intro h
    rw [h, Entries.pathWrite_nil]
  -- a value gets into a mapping that was there only if there was one
  unfold BindingState.put
  split
  case h_1 => exact Entries.setPath_ne_nil hpath _ _
  case h_2 heq =>
    rw [heq] at hnil
    exact Value.receiveEntries_ne_nil _ fun h => Option.some_ne_none _ (hnil h)

namespace Execute

open Run

variable {origin : Origin} {st : BindingState} {bindings : List (String × Value)}

/-- The binding has a value in the given context. -/
def Given (context : Entries) (binding : String × Value) : Prop := (Expr.value? binding.2 context).isSome = true

theorem bindOne_of_not_given {binding : String × Value} (h : ¬ Given st.context binding) :
    bindOne origin st binding = st := by
  have hnone : Expr.value? binding.2 st.context = none := by simpa [Given] using h
  rw [bindOne, hnone]

theorem bindOne_ne_nil_of_given {binding : String × Value} (h : Given st.context binding) :
    (bindOne origin st binding).inputs ≠ [] := by
  obtain ⟨v, hv⟩ := Option.isSome_iff_exists.mp h
  rw [bindOne, hv]
  exact st.put_ne_nil origin (segmentsOf_ne_nil _) v

theorem bindOne_ne_nil (h : st.inputs ≠ []) (binding : String × Value) : (bindOne origin st binding).inputs ≠ [] := by
  by_cases hgiven : Given st.context binding
  · exact bindOne_ne_nil_of_given hgiven
  · rwa [bindOne_of_not_given hgiven]

theorem foldl_bindOne_ne_nil (h : st.inputs ≠ []) (bindings : List (String × Value)) :
    (bindings.foldl (bindOne origin) st).inputs ≠ [] := by
  induction bindings generalizing st with
  | nil => exact h
  | cons binding rest ih => exact ih (bindOne_ne_nil h binding)

/-- The inputs are empty exactly if no binding has a value.  A binding that fails leaves the
context as it is, so up to the first that has one all see the context at the beginning. -/
theorem foldl_bindOne_nil_iff (h : st.inputs = []) :
    (bindings.foldl (bindOne origin) st).inputs = [] ↔ ∀ binding ∈ bindings, ¬ Given st.context binding := by
  induction bindings with
  | nil => simpa using h
  | cons binding rest ih =>
    rw [List.forall_mem_cons, List.foldl_cons]
    by_cases hgiven : Given st.context binding
    · exact iff_of_false (foldl_bindOne_ne_nil (bindOne_ne_nil_of_given hgiven) rest) fun hall => hall.1 hgiven
    · rw [bindOne_of_not_given hgiven, ih]
      exact (and_iff_right hgiven).symm

/-! ## Nodes with bindings -/

variable {plan : Plan} {n : Node} {w : World}

/-- The node declares these bindings, of targets to expressions. -/
inductive Declares (n : Node) : List (String × Value) → Prop
  | none (h : n.bindings.truthy = false) : Declares n []
  | some {i : Option MapId} (bindings : List (String × Value))
      (h : n.bindings = .dict i (bindings.map fun (target, e) => (.str target, e))) : Declares n bindings

theorem Declares.truthy (h : Declares n bindings) (hne : bindings ≠ []) : n.bindings.truthy = true := by
  cases h with
  | none => exact absurd rfl hne
  | some _ h =>
    rw [h]
    cases bindings with
    | nil => exact absurd rfl hne
    | cons => rfl

/-- Who makes the inputs of a node. -/
def originOf (w : World) (n : Node) : Origin := .bindings n.id.key (w.rounds n.id.key)

/-- What the bindings of a node see. -/
def bindingContext (plan : Plan) (n : Node) (w : World) : Except Fault Entries :=
  w.context plan.graph (some ⟨originOf w n, [stateName], 0⟩)

theorem truthy_adopt_dict (origin : Origin) (es : Entries) :
    ((Value.dict none es).adopt origin).truthy = !es.isEmpty := by
  cases es <;> rfl

/-- Bindings with texts for expressions, or what is false, are resolved to the end, and to
nothing exactly if none of them has a value. -/
theorem resolveBindings_of_declares (hdeclares : Declares n bindings)
    (htext : ∀ binding ∈ bindings, binding.2.isTextOrFalse = true) {nodes : List Node} {outputs state context : Entries}
    (hcontext : evalContext nodes outputs state (some ⟨origin, [stateName], 0⟩) = .ok context) :
    let r := resolveBindings origin n.bindings nodes outputs state
    r.failure = none ∧ (r.inputs = [] ↔ ∀ binding ∈ bindings, ¬ Given context binding) := by
  cases hdeclares with
  | none h =>
    have hempty : resolveBindings origin n.bindings nodes outputs state = .empty := by
      rw [resolveBindings, h]
      rfl
    rw [hempty]
    exact ⟨rfl, iff_of_true rfl (List.forall_mem_nil _)⟩
  | @some i _ h =>
    have hresolve : resolveBindings origin n.bindings nodes outputs state =
        resolveFrom origin ⟨[], context, []⟩ [] (bindings.map fun (target, e) => (.str target, e)) := by
      cases bindings with
      | nil =>
        rw [resolveBindings, h]
        rfl
      | cons binding rest =>
        have htrue : n.bindings.truthy = true := by rw [h]; rfl
        rw [resolveBindings, htrue, hcontext, h]
        rfl
    obtain ⟨hfailure, hinputs⟩ := resolveFrom_binds origin htext ⟨[], context, []⟩ []
    rw [hresolve]
    exact ⟨hfailure, hinputs ▸ foldl_bindOne_nil_iff rfl⟩

/-- A node has the inputs that its bindings are resolved to, where nothing stops them. -/
theorem resolve_of_no_failure (hnone : (resolveBindings (originOf w n) n.bindings plan.graph.nodes
    (w.lookEntries w.outputs) (w.lookEntries w.state)).failure = none) :
    ∃ v, w.resolve plan n = (v, .ok ((resolveBindings (originOf w n) n.bindings plan.graph.nodes
      (w.lookEntries w.outputs) (w.lookEntries w.state)).value (originOf w n))) := by
  unfold originOf at hnone ⊢
  unfold World.resolve
  simp only [hnone]
  exact ⟨_, rfl⟩

/-- So a node with such bindings always has inputs, which are empty exactly if none has a value. -/
theorem resolve_of_declares (hlabels : ∀ x ∈ plan.graph.nodes, x.label.key?.isSome = true)
    (hdeclares : Declares n bindings) (htext : ∀ binding ∈ bindings, binding.2.isTextOrFalse = true) (w : World) :
    ∃ context v resolved, bindingContext plan n w = .ok context ∧ w.resolve plan n = (v, .ok resolved) ∧
      (resolved.truthy = false ↔ ∀ binding ∈ bindings, ¬ Given context binding) := by
  obtain ⟨context, hcontext⟩ := exists_context hlabels w (some ⟨originOf w n, [stateName], 0⟩)
  obtain ⟨hfailure, hinputs⟩ := resolveBindings_of_declares hdeclares htext hcontext
  obtain ⟨v, hv⟩ := resolve_of_no_failure hfailure
  refine ⟨context, v, _, hcontext, hv, ?_⟩
  rw [Resolution.value, truthy_adopt_dict, ← hinputs]
  simp

/-! ## What nodes do with their inputs -/

/-- What a node makes of the output of its predecessor, and what it does with its inputs. -/
structure Manner where
  substitute : Value → Except Fault Value
  proceed : Value → Work Value

namespace Manner

/-- An end node passes its inputs on as they are, or as a message. -/
def finish (plan : Plan) (n : Node) (asJson : Bool) : Manner where
  substitute source := do
    if asJson then return .record [("data", source)]
    else return .record [("message", ← messageOf source)]
  proceed inputs := do
    Work.note plan n .info "Final inputs resolved" (.record [("input", inputs)])
    if asJson then return inputs
    let message ← Work.lift (inputs.read "message")
    let message ← if message.truthy then pure message else Work.lift ((jsonLine inputs).map .str)
    return .record [("message", message), ("timestamp", .int (← Work.get).now)]

/-- A model node asks with its inputs. -/
def model (plan : Plan) (n : Node) : Manner where
  substitute source := match source with
    | .str _ => .ok (.record [("userMessage", source)])
    | v => .ok v
  proceed inputs := do
    Work.note plan n .info "LLM inputs resolved" (.record [("input", inputs)])
    let request ← Work.lift (firstRequest n inputs (← Work.get).now)
    let reply ← converse plan n plan.turns request .null
    Work.lift (modelOutput n reply)

/-- A retrieval node searches with the query of its inputs. -/
def retrieval (plan : Plan) (n : Node) : Manner where
  substitute source := do return .record [("query", ← queryOf source)]
  proceed inputs := do
    Work.note plan n .info "Retrieval inputs resolved" (.record [("input", inputs)])
    let storage ← Work.lift (n.setting "storage_id")
    if !storage.truthy then Work.throw (.config .noStorage)
    let query ← Work.lift (inputs.read "query")
    let isText := match query with
      | .str s => !s.isEmpty
      | _ => false
    if !isText then Work.throw (.config .noQuery)
    let topK := (← Work.lift (n.setting "top_k")).orElse (.int 5)
    let searchType := (← Work.lift (n.setting "search_type")).orElse (.str "similarity")
    let filters ← Work.lift (searchFilters n searchType)
    Work.note plan n .info "Retrieval started"
      (.record [("storage_id", storage), ("query", query), ("top_k", topK)])
    Work.check (plan.reach .retrieval)
    let result := (← Work.call (.retrieval storage query topK searchType filters)).toValue
    match result.length? with
    | some length =>
      Work.note plan n .info "Retrieval completed" (.record [("result_length", .int length)])
      return result
    | none => Work.lift (.error (.noLength result.typeName))

end Manner

/-- What end, model and retrieval nodes do that do not fail before they look at their inputs. -/
inductive Acts (plan : Plan) (n : Node) : Manner → Prop
  | finish {outputType : Value} (hkind : n.kind = .finish) (htype : n.setting "output_type" = .ok outputType) :
      Acts plan n (.finish plan n (isWord (outputType.orElse (.str "TEXT")) "JSON"))
  | model (hkind : n.kind = .llm) (hpayload : n.payload.truthy = true) : Acts plan n (.model plan n)
  | retrieval (hkind : n.kind = .rag) : Acts plan n (.retrieval plan n)

/-- Such a node finds its inputs and goes on with them. -/
theorem perform_of_acts {m : Manner} (hacts : Acts plan (w.node n) m) (nesting : Nat) :
    perform plan nesting n w = (inputsOr plan (w.node n) m.substitute >>= m.proceed) w := by
  cases hacts with
  | @finish outputType hkind htype =>
    have hperform : perform plan nesting n w = (do
        let outputType ← Work.lift ((w.node n).setting "output_type")
        let m := Manner.finish plan (w.node n) (isWord (outputType.orElse (.str "TEXT")) "JSON")
        inputsOr plan (w.node n) m.substitute >>= m.proceed : Work Value) w := by
      rw [perform_eq, show n.kind = .finish from hkind]
      rfl
    rw [hperform, htype]
    rfl
  | model hkind hpayload =>
    have hperform : perform plan nesting n w = (do
        let m := Manner.model plan (w.node n)
        if !(w.node n).payload.truthy then Work.throw (.config .noModel)
        inputsOr plan (w.node n) m.substitute >>= m.proceed : Work Value) w := by
      rw [perform_eq, show n.kind = .llm from hkind]
      rfl
    rw [hperform, hpayload]
    rfl
  | retrieval hkind =>
    rw [perform_eq, show n.kind = .rag from hkind]
    rfl

/-- What comes of looking for inputs once the bindings have been resolved. -/
theorem inputsOr_eq {v : World} {resolved : Value} (fallback : Value → Except Fault Value)
    (hresolve : w.resolve plan n = (v, .ok resolved)) :
    let source := v.predecessorOutput plan.graph n.id.key
    inputsOr plan (w.node n) fallback w =
      Work.lift (if needsFallback n resolved && source.truthy then fallback source else .ok resolved) v := by
  intro source
  have hlook : inputsOr plan (w.node n) fallback w = (if needsFallback n resolved then do
        let source := (← Work.get).predecessorOutput plan.graph n.id.key
        if source.truthy then Work.lift (fallback source) else pure resolved
      else pure resolved : Work Value) v := by
    change Step.bind (Work.resolve plan n w) _ = _
    rw [Work.resolve, hresolve]
    rfl
  rw [hlook]
  cases needsFallback n resolved with
  | false => rfl
  | true =>
    change (if source.truthy then Work.lift (fallback source) else pure resolved : Work Value) v = _
    cases source.truthy <;> rfl

/-- Such a node goes on with what its bindings give, or with what it makes of a source. -/
theorem perform_inputs {m : Manner} {v : World} {resolved : Value} (hacts : Acts plan (w.node n) m)
    (hresolve : w.resolve plan n = (v, .ok resolved)) (nesting : Nat) :
    let source := v.predecessorOutput plan.graph n.id.key
    let inputs := if needsFallback n resolved && source.truthy then m.substitute source else .ok resolved
    perform plan nesting n w = (Work.lift inputs >>= m.proceed) v := by
  intro source inputs
  rw [perform_of_acts hacts, Work.bind_apply, inputsOr_eq m.substitute hresolve, Work.bind_apply]

/-! ## Which inputs they work with -/

/-- The inputs of a node with such bindings, which have been resolved.  They are made of the
output of a source only where no binding has a value. -/
inductive WorksWith (m : Manner) (bindings : List (String × Value)) (context : Entries) (resolved source : Value) :
    Except Fault Value → Prop
  | bound (hgiven : ∃ binding ∈ bindings, Given context binding) :
      WorksWith m bindings context resolved source (.ok resolved)
  | nothing (hnone : ∀ binding ∈ bindings, ¬ Given context binding) (hsource : source.truthy = false) :
      WorksWith m bindings context resolved source (.ok resolved)
  | replaced (hnone : ∀ binding ∈ bindings, ¬ Given context binding) (hempty : resolved.truthy = false)
      (hsource : source.truthy = true) : WorksWith m bindings context resolved source (m.substitute source)

/-- End, model and retrieval nodes work with exactly what their bindings give, whatever their
predecessor has put out, as long as one binding has a value. -/
theorem nothing_else_replaced {m : Manner} (hlabels : ∀ x ∈ plan.graph.nodes, x.label.key?.isSome = true)
    (hdeclares : Declares n bindings) (htext : ∀ binding ∈ bindings, binding.2.isTextOrFalse = true)
    (hacts : Acts plan (w.node n) m) (nesting : Nat) :
    ∃ context v resolved inputs, bindingContext plan n w = .ok context ∧ w.resolve plan n = (v, .ok resolved) ∧
      WorksWith m bindings context resolved (v.predecessorOutput plan.graph n.id.key) inputs ∧
      perform plan nesting n w = (Work.lift inputs >>= m.proceed) v := by
  obtain ⟨context, v, resolved, hcontext, hresolve, hempty⟩ := resolve_of_declares hlabels hdeclares htext w
  refine ⟨context, v, resolved, _, hcontext, hresolve, ?_, perform_inputs hacts hresolve nesting⟩
  by_cases hnone : ∀ binding ∈ bindings, ¬ Given context binding
  · have hfalse := hempty.mpr hnone
    have hneeds : needsFallback n resolved = true := by simp [needsFallback, hfalse]
    cases hsource : (v.predecessorOutput plan.graph n.id.key).truthy with
    | false => simpa using .nothing hnone hsource
    | true => simpa [hneeds] using .replaced hnone hfalse hsource
  · have hgiven : ∃ binding ∈ bindings, Given context binding := by simpa using hnone
    have htrue : resolved.truthy = true := by simpa using hempty.not.mpr hnone
    have hdeclared : n.bindings.truthy = true := hdeclares.truthy (by rintro rfl; simp at hnone)
    simpa [needsFallback, hdeclared, htrue] using .bound hgiven

/-! ## Bindings that all fail -/

/-- An end node with one binding. -/
def boundEnd (expression : String) : Node :=
  ⟨.ofString "e", .finish, .str "e", .record [("output_type", .str "JSON")], .record [("x", .str expression)]⟩

/-- A plan in which the end node comes after a node labelled `Draft`. -/
def draftPlan : Plan where
  graph := {
    nodes := [⟨.ofString "a", .state, .str "Draft", .record [], .null⟩, boundEnd "state"]
    edges := [⟨.ofString "a", .ofString "e", .null, .null, .null⟩]
    keys_nodup := by decide +kernel
    ends_mem := by decide +kernel }
  inputs := .record []
  sink := .silent
  kinds := NodeKind.all
  runsCode := false
  reach _ := .ok ()
  nesting := 0
  turns := 0

/-- A world in which that node has an output. -/
def draftWorld : World := { statefulWorld with outputs := [(.str "a", .str "draft")] }

/-- What the bindings of the end node see. -/
def draftContext : Entries :=
  [(.str "Draft", .str "draft"),
    (.str "state", .dict (some ⟨.bindings (Key.ofString "e") 0, ["state"], 0⟩) [(.str "k", .int 1)])]

theorem bindingContext_draft (expression : String) :
    bindingContext draftPlan (boundEnd expression) draftWorld = .ok draftContext := rfl

theorem draftPlan_labels : ∀ x ∈ draftPlan.graph.nodes, x.label.key?.isSome = true := by
  decide +kernel

theorem acts_boundEnd (expression : String) : Acts draftPlan (draftWorld.node (boundEnd expression))
    (.finish draftPlan (draftWorld.node (boundEnd expression)) true) := by
  have htype : (draftWorld.node (boundEnd expression)).setting "output_type" = .ok (.str "JSON") := rfl
  exact .finish rfl htype

theorem separate_boundEnd (expression : String) : (boundEnd expression).bindings.Separate := by
  rintro id es ⟨⟩
  exact List.pairwise_singleton _ _

theorem resolve_boundEnd (expression : String) : ∃ v resolved,
    draftWorld.resolve draftPlan (boundEnd expression) = (v, .ok resolved) ∧
      v.predecessorOutput draftPlan.graph (boundEnd expression).id.key = .str "draft" ∧
      (resolved.truthy = false ↔ ¬ Given draftContext ("x", .str expression)) := by
  have hdeclares : Declares (boundEnd expression) [("x", .str expression)] := .some _ rfl
  obtain ⟨context, v, resolved, hcontext, hresolve, hempty⟩ :=
    resolve_of_declares draftPlan_labels hdeclares (by simp [Value.isTextOrFalse]) draftWorld
  obtain rfl := Except.ok.inj ((bindingContext_draft expression).symm.trans hcontext)
  have haside : Aside True draftWorld (draftWorld.resolve draftPlan (boundEnd expression)).1 :=
    Aside.resolve draftWorld draftPlan fun _ => separate_boundEnd expression
  rw [hresolve] at haside
  obtain ⟨outputs, state, log, records, writes, clock⟩ := v
  obtain rfl : outputs = _ := haside.outputs
  obtain rfl : writes = _ := haside.writes trivial
  exact ⟨_, resolved, hresolve, rfl, by simpa using hempty⟩

theorem unknown_not_given : ¬ Given draftContext ("x", .str "y") := by
  have hnone : (Expr.evaluate "y" draftContext).toOption = none := by cbv
  cases hy : Expr.evaluate "y" draftContext with
  | error e => simp [Given, Expr.value?, Expr.evaluateAny, hy]
  | ok v => rw [hy] at hnone; cases hnone

/-- The node works with what its bindings give, even where that is nothing. -/
def KeepsToBindings (plan : Plan) (n : Node) (w : World) : Prop :=
  ∀ bindings m v resolved nesting, Declares n bindings → bindings ≠ [] → Acts plan (w.node n) m →
    w.resolve plan n = (v, .ok resolved) → perform plan nesting n w = m.proceed resolved v

/-- Where the only binding fails the output of the predecessor is substituted. -/
theorem failed_bindings_replaced : ¬ KeepsToBindings draftPlan (boundEnd "y") draftWorld := by
  intro h
  obtain ⟨v, resolved, hresolve, hsource, hempty⟩ := resolve_boundEnd "y"
  have hfalse : resolved.truthy = false := hempty.mpr unknown_not_given
  have hacts := acts_boundEnd "y"
  have hkept := h _ _ v resolved 0 (.some [("x", .str "y")] rfl) (List.cons_ne_nil _ _) hacts hresolve
  have hdone := perform_inputs hacts hresolve 0
  simp only [hsource, needsFallback, hfalse] at hdone
  rw [hdone] at hkept
  obtain ⟨-, hdata⟩ := Step.done.inj hkept
  rw [← hdata] at hfalse
  cases hfalse

/-- A binding that has a value keeps the output of the predecessor out. -/
theorem boundEnd_keeps : ∃ v u resolved, draftWorld.resolve draftPlan (boundEnd "state") = (v, .ok resolved) ∧
    perform draftPlan 0 (boundEnd "state") draftWorld = .done u resolved := by
  have hstate : Given draftContext ("x", .str "state") := by
    have hvalue : Expr.evaluate "state" draftContext = .ok _ := evaluate_state rfl
    simp [Given, Expr.value?, Expr.evaluateAny, hvalue]
  obtain ⟨context, v, resolved, inputs, hcontext, hresolve, hworks, hperform⟩ :=
    nothing_else_replaced draftPlan_labels (.some [("x", .str "state")] rfl) (by simp [Value.isTextOrFalse])
      (acts_boundEnd "state") 0
  obtain rfl := Except.ok.inj ((bindingContext_draft "state").symm.trans hcontext)
  cases hworks with
  | bound => exact ⟨v, _, resolved, hresolve, hperform⟩
  | nothing hnone => exact absurd hstate (hnone _ List.mem_cons_self)
  | replaced hnone => exact absurd hstate (hnone _ List.mem_cons_self)

end Execute
end Workflow
