import Workflow.Proofs.Ancestors
import Workflow.Proofs.Settling

/-!
# Workflow.Proofs.Views

What a node can see of a run.

A node reads the outputs of its ancestors, the initial inputs and the payloads
of nodes; the start node reads the time as well.  A `View` fixes all that.  Where
the bindings of a node evaluate alike whenever the outputs of its ancestors are
alike (`Graph.BindsAlike`), the outcome of its dispatch is settled by the view
(`dispatch_settles`), but for the time that the message of an end node carries.
While it is executed the node leaves alone what other nodes see of the run
(`Alone`).
-/

namespace Workflow

/-! ## Bindings that depend on ancestors -/

/-- The inputs that the bindings give, or why they give none. -/
def Resolution.answer (r : Resolution) : Except Fault Entries :=
  match r.failure with
  | some f => .error f
  | none => .ok r.inputs

/-- The bindings of the node evaluate alike against any two collections of outputs
that agree on its ancestors. -/
def Graph.BindsAlike (g : Graph) (n : Node) : Prop :=
  ∀ outputs outputs' : Entries, (∀ a, g.Precedes a n.id.key → Entries.get? outputs a = Entries.get? outputs' a) →
    (resolveBindings (.bindings n.id.key 1) n.bindings g.nodes outputs []).answer =
      (resolveBindings (.bindings n.id.key 1) n.bindings g.nodes outputs' []).answer

/-! ## Messages but for their times -/

namespace Entries

/-- What is stored under a key is erased with it. -/
theorem erase_set_same {name : Value} {k : Key} (h : name.key? = some k) (es : Entries) (v : Value) :
    (es.set name k v).erase k = es.erase k := by
  induction es with
  | nil => simp [set, erase, h]
  | cons entry es ih =>
      obtain ⟨k', v'⟩ := entry
      unfold erase at ih ⊢
      by_cases hk : k'.key? = some k
      · simp [set, hk]
      · simp [set, hk, ih]

theorem erase_set_other {name : Value} {k k₂ : Key} (h : name.key? = some k) (hne : k ≠ k₂) (es : Entries) (v : Value) :
    (es.set name k v).erase k₂ = (es.erase k₂).set name k v := by
  induction es with
  | nil => simp [set, erase, h, hne]
  | cons entry es ih =>
      obtain ⟨k', v'⟩ := entry
      unfold erase at ih ⊢
      by_cases hk : k'.key? = some k
      · simp [set, hk, hne]
      · by_cases hk₂ : k'.key? = some k₂
        · simp [set, hk₂, Ne.symm hne, ih]
        · simp [set, hk, hk₂, ih]

theorem erase_receiveEntries (x : Write) (es : Entries) (k : Key) :
    erase (Value.receiveEntries x es) k = Value.receiveEntries x (erase es k) := by
  induction es with
  | nil => rfl
  | cons entry es ih =>
      obtain ⟨k', v'⟩ := entry
      unfold erase at ih ⊢
      by_cases hk : k'.key? = some k
      · simp [Value.receiveEntries, hk, ih]
      · simp [Value.receiveEntries, hk, ih]

end Entries

/-- A message without the time at which it was made. -/
def Value.undated : Value → Value
  | .dict id es => .dict id (Entries.erase es (Key.ofString "timestamp"))
  | v => v

/-- What a write makes of a message but for its time does not hang on that time. -/
theorem Value.undated_receive (v : Value) (x : Write) : (v.receive x).undated = (v.undated.receive x).undated := by
  cases v with
  | dict id es =>
      have hidem : ∀ es : Entries, (es.erase (Key.ofString "timestamp")).erase (Key.ofString "timestamp") =
          es.erase (Key.ofString "timestamp") := fun es => by simp [Entries.erase]
      simp only [Value.undated, Value.receive, Value.dict.injEq, true_and]
      split
      · by_cases hfield : Key.ofString x.field = Key.ofString "timestamp"
        · unfold Entries.setField
          rw [hfield, Entries.erase_set_same (hfield ▸ Value.key?_str x.field),
            Entries.erase_set_same (hfield ▸ Value.key?_str x.field), Entries.erase_receiveEntries,
            Entries.erase_receiveEntries, hidem]
        · unfold Entries.setField
          rw [Entries.erase_set_other (Value.key?_str x.field) hfield,
            Entries.erase_set_other (Value.key?_str x.field) hfield, Entries.erase_receiveEntries,
            Entries.erase_receiveEntries, hidem]
      · rw [Entries.erase_receiveEntries, Entries.erase_receiveEntries, hidem]
  | _ => rfl

theorem Value.undated_receiveAll {a b : Value} (h : a.undated = b.undated) (xs : List Write) :
    (a.receiveAll xs).undated = (b.receiveAll xs).undated := by
  induction xs generalizing a b with
  | nil => exact h
  | cons x xs ih => exact ih (by rw [a.undated_receive, b.undated_receive, h])

namespace Run

namespace World

variable {w v : World}

/-- Is it an end node whose result carries the time? -/
def dates (w : World) (n : Node) : Bool :=
  n.kind = .finish && match (w.node n).setting "output_type" with
    | .ok type => !Execute.isWord (type.orElse (.str "TEXT")) "JSON"
    | .error _ => false

/-- The output of the node but for the time that it may carry. -/
def undated (w : World) (n : Node) (output : Value) : Value := if w.dates n then output.undated else output

theorem node_of_writes (h : w.writes = v.writes) (n : Node) : w.node n = v.node n := by
  unfold node look
  rw [h]

theorem undated_of_writes (h : w.writes = v.writes) (n : Node) : w.undated n = v.undated n := by
  have hdates : w.dates n = v.dates n := by
    unfold dates
    rw [node_of_writes h]
  funext output
  unfold undated
  rw [hdates]

theorem undated_of_kind {n : Node} (h : n.kind ≠ .finish) (output : Value) : w.undated n output = output := by
  simp [undated, dates, h]

/-- What is the same but for its time looks the same but for its time. -/
theorem undated_look (hwrites : w.writes = v.writes) {n : Node} {a b : Value} (h : w.undated n a = w.undated n b) :
    w.undated n (w.look a) = v.undated n (v.look b) := by
  have hlook : w.look = v.look := by
    unfold look
    rw [hwrites]
  rw [undated_of_writes hwrites] at h ⊢
  rw [hlook]
  unfold undated at h ⊢
  split at h
  next hdates =>
    rw [if_pos hdates, if_pos hdates]
    exact Value.undated_receiveAll h v.writes
  next hdates => rw [h]

theorem resolve_snd (w : World) (plan : Plan) (n : Node) :
    (w.resolve plan n).2 = (resolveBindings (.bindings n.id.key (w.rounds n.id.key)) n.bindings plan.graph.nodes
      (w.lookEntries w.outputs) (w.lookEntries w.state)).answer.map
        fun es => (Value.dict none es).adopt (.bindings n.id.key (w.rounds n.id.key)) := by
  unfold resolve Resolution.answer
  dsimp only
  generalize resolveBindings (.bindings n.id.key (w.rounds n.id.key)) n.bindings plan.graph.nodes
    (w.lookEntries w.outputs) (w.lookEntries w.state) = r
  cases r.failure with
  | none => rfl
  | some f => rfl

end World

/-! ## Views -/

/-- What a node can see of a run: the world in which the run began, and what is
known of the outputs of its ancestors. -/
structure View where
  plan : Plan
  node : Node
  first : World
  known : Key → Option Value

/-- The world looks to the node as in the view, after so many executions. -/
structure View.Shows (i : View) (round : Nat) (w : World) : Prop where
  writes : w.writes = i.first.writes
  state : w.state = []
  rounds : w.rounds i.node.id.key = round
  own : Entries.get? w.outputs i.node.id.key = none
  outputs : ∀ {a}, i.plan.graph.Precedes a i.node.id.key → Entries.get? w.outputs a = i.known a
  clock : i.node.kind = .start → w.clock = i.first.clock

namespace View.Shows

variable {i : View} {r : Nat} {w v : World}

theorem whisper (h : i.Shows r w) (hwhisper : Whisper w v) : i.Shows r v := by
  obtain ⟨es, hes, hremarks⟩ := hwhisper.log
  refine ⟨hwhisper.writes.trans h.writes, hwhisper.state.trans h.state, ?_, ?_, fun {a} ha => ?_, fun hkind => ?_⟩
  · rw [(tally_of_remarks hes hremarks _).1, h.rounds]
  · rw [hwhisper.outputs, h.own]
  · rw [hwhisper.outputs, h.outputs ha]
  · rw [hwhisper.clock, h.clock hkind]

/-- Only the start node looks at the clock. -/
theorem tick (hkind : i.node.kind ≠ .start) (h : i.Shows r w) {clock : Nat} : i.Shows r { w with clock } :=
  ⟨h.writes, h.state, h.rounds, h.own, h.outputs, fun hstart => absurd hstart hkind⟩

theorem begun (h : i.Shows 0 w) : i.Shows 1 (w.begun i.plan i.node) := by
  refine ⟨h.writes, h.state, ?_, h.own, h.outputs, h.clock⟩
  rw [(tally_begun i.plan w i.node _).1, h.rounds]
  simp

theorem congr {i' : View} (hplan : i'.plan = i.plan) (hnode : i'.node = i.node) (hfirst : i'.first = i.first)
    (hknown : ∀ a, i.plan.graph.Precedes a i.node.id.key → i'.known a = i.known a) :
    i'.Shows = i.Shows := by
  obtain ⟨plan, node, first, known⟩ := i
  obtain ⟨plan', node', first', known'⟩ := i'
  cases hplan
  cases hnode
  cases hfirst
  funext r w
  refine propext ⟨fun h => ?_, fun h => ?_⟩
  · exact ⟨h.writes, h.state, h.rounds, h.own, fun ha => (h.outputs ha).trans (hknown _ ha), h.clock⟩
  · exact ⟨h.writes, h.state, h.rounds, h.own, fun ha => (h.outputs ha).trans (hknown _ ha).symm, h.clock⟩

section

variable (hw : i.Shows r w) (hv : i.Shows r v)

include hw hv

theorem same_writes : w.writes = v.writes := hw.writes.trans hv.writes.symm

theorem same_look : w.look = v.look := by
  unfold World.look
  rw [hw.same_writes hv]

theorem same_node (n : Node) : w.node n = v.node n := World.node_of_writes (hw.same_writes hv) n

theorem same_output {a : Key} (ha : i.plan.graph.Precedes a i.node.id.key) : w.output? a = v.output? a := by
  unfold World.output?
  rw [hw.outputs ha, hv.outputs ha, hw.same_look hv]

theorem same_predecessorOutput :
    w.predecessorOutput i.plan.graph i.node.id.key = v.predecessorOutput i.plan.graph i.node.id.key := by
  unfold World.predecessorOutput
  split
  · rfl
  next e es hincoming =>
    have hmem : e ∈ i.plan.graph.incoming i.node.id.key := hincoming ▸ List.mem_cons_self
    obtain ⟨hedge, htarget⟩ := Graph.mem_incoming.mp hmem
    rw [hw.same_output hv (.single ⟨e, hedge, rfl, htarget⟩)]

end

end View.Shows

/-! ## What others see -/

/-- Of what other nodes than that of the key can see, nothing has changed but the
time. -/
structure Alone (k : Key) (w v : World) : Prop where
  writes : v.writes = w.writes
  state : v.state = w.state
  outputs : ∀ {a}, a ≠ k → Entries.get? v.outputs a = Entries.get? w.outputs a
  rounds : ∀ {a}, a ≠ k → v.rounds a = w.rounds a

namespace Alone

variable {k : Key} {w v : World}

theorem trans (u v w : World) (h₁ : Alone k u v) (h₂ : Alone k v w) : Alone k u w :=
  ⟨h₂.writes.trans h₁.writes, h₂.state.trans h₁.state, fun ha => (h₂.outputs ha).trans (h₁.outputs ha),
    fun ha => (h₂.rounds ha).trans (h₁.rounds ha)⟩

theorem tick (w : World) (clock : Nat) : Alone k w { w with clock } := ⟨rfl, rfl, fun _ => rfl, fun _ => rfl⟩

theorem of_whisper (w v : World) (h : Whisper w v) : Alone k w v := by
  obtain ⟨es, hes, hremarks⟩ := h.log
  exact ⟨h.writes, h.state, fun _ => by rw [h.outputs], fun _ => (tally_of_remarks hes hremarks _).1⟩

theorem begun (plan : Plan) (w : World) (n : Node) : Alone n.id.key w (w.begun plan n) := by
  refine ⟨rfl, rfl, fun _ => rfl, fun ha => ?_⟩
  rw [(tally_begun plan w n _).1, beq_false_of_ne (Ne.symm ha)]
  rfl

theorem completed (plan : Plan) (w : World) (n : Node) (output : Value) (elapsed : Nat) :
    Alone n.id.key w (w.completed plan n output elapsed) :=
  ⟨rfl, rfl, fun ha => Entries.get?_set_other n.id.key_eq ha, fun _ => (tally_completed plan w n output elapsed _).1⟩

end Alone

/-- From the given world on, the work of the node comes to the output foreseen, but
for the time that it may carry.  Where none is foreseen it does not come to one. -/
def View.Foresees (i : View) (answer : Call → Except Problem Reply) (e : Option Value) (w : World)
    (work : Step Value) : Prop :=
  work.Settles (i.Shows 1) answer (Alone i.node.id.key)
    (fun v output => Entries.get? v.outputs i.node.id.key = some output ∧ e = some (i.first.undated i.node output))
    (e = none) w

/-! ## What a node does, by its view -/

variable {i : View} {answer : Call → Except Problem Reply} {β : Type}

theorem View.note {n : Node} {phase : Phase} (message : String) (payload : Value)
    (hphase : phase.isRemark = true) :
    (Work.note i.plan n phase message payload).Determined (i.Shows 1) answer id :=
  .note (fun h => h.whisper) i.plan n message payload hphase

theorem View.current {α : Type} {n : Node} {next : Node → Work α} {f : α → β}
    (hnext : ∀ payload, (next { n with payload }).Determined (i.Shows 1) answer f) :
    (Work.current n >>= next).Determined (i.Shows 1) answer f :=
  .current (fun _ _ hw hv => hw.same_node hv n) fun _ _ => hnext _

/-- The inputs of the node are known. -/
theorem View.resolve (halike : i.plan.graph.BindsAlike i.node) (hseparate : i.node.bindings.Separate) (payload : Value) :
    (Work.resolve i.plan { i.node with payload }).Determined (i.Shows 1) answer id := by
  refine .of_seen fun w hw => ?_
  have hsame : ∀ v, i.Shows 1 v →
      (v.resolve i.plan { i.node with payload }).2 = (w.resolve i.plan { i.node with payload }).2 := by
    intro v hv
    have houtputs : ∀ a, i.plan.graph.Precedes a i.node.id.key →
        Entries.get? (v.lookEntries v.outputs) a = Entries.get? (w.lookEntries w.outputs) a := by
      intro a ha
      rw [v.get?_lookEntries, w.get?_lookEntries, hv.outputs ha, hw.outputs ha, hv.same_look hw]
    rw [World.resolve_snd, World.resolve_snd]
    dsimp only
    rw [hv.rounds, hw.rounds, hv.state, hw.state, World.lookEntries_nil, World.lookEntries_nil, halike _ _ houtputs]
  refine ⟨(w.resolve i.plan { i.node with payload }).2.toOption, fun v hv => ?_⟩
  have haside : Aside True v (v.resolve i.plan { i.node with payload }).1 := .resolve v i.plan fun _ => hseparate
  have hwhisper := Whisper.of_aside haside trivial
  rw [← hsame v hv]
  unfold Work.resolve
  cases hresolve : v.resolve i.plan { i.node with payload } with
  | mk u outcome =>
      rw [hresolve] at hwhisper
      cases outcome with
      | error fault => rfl
      | ok inputs => exact ⟨hwhisper, hv.whisper hwhisper, rfl⟩

end Run
end Workflow

namespace Workflow.Execute

open Run Run.Work

section

variable {i : View} {answer : Call → Except Problem Reply} {β : Type} {f : Value → β}

theorem start_determined (hkind : i.node.kind = .start) :
    (start i.plan i.node).Determined (i.Shows 1) answer f := by
  unfold start
  refine .get (fun w v hw hv => by rw [hw.same_look hv]) fun w _ => .bind (View.note _ _ rfl) fun _ => ?_
  refine .get (fun w v hw hv => ?_) fun w _ => .bind (.lift _) fun es => .pure _
  unfold World.now
  rw [hw.clock hkind, hv.clock hkind]

theorem inputsOr_determined (halike : i.plan.graph.BindsAlike i.node) (hseparate : i.node.bindings.Separate)
    (payload : Value) (fallback : Value → Except Fault Value) :
    (inputsOr i.plan { i.node with payload } fallback).Determined (i.Shows 1) answer id := by
  unfold inputsOr
  refine .bind (View.resolve halike hseparate payload) fun inputs => .ite ?_ (.pure inputs)
  refine .get (fun w v hw hv => ?_) fun w _ => .ite (.lift _) (.pure inputs)
  rw [hw.same_predecessorOutput hv]

/-- The result of an end node is known, but for the time that it may carry. -/
theorem finish_determined (halike : i.plan.graph.BindsAlike i.node) (hseparate : i.node.bindings.Separate)
    (hkind : i.node.kind = .finish)
    (hf : i.first.dates i.node = true → ∀ (message : Value) (a b : Int),
      f (.record [("message", message), ("timestamp", .int a)]) =
        f (.record [("message", message), ("timestamp", .int b)])) :
    (finish i.plan i.node).Determined (i.Shows 1) answer f := by
  unfold finish
  refine .current (fun w v hw hv => hw.same_node hv _) fun w hw => ?_
  have hnode : w.node i.node = i.first.node i.node := World.node_of_writes hw.writes _
  cases hsetting : (w.node i.node).setting "output_type" with
  | error fault => exact .throw _
  | ok type =>
      rw [Work.lift_ok]
      refine .bind (inputsOr_determined halike hseparate _ _) fun inputs => .bind (View.note _ _ rfl) fun _ => ?_
      by_cases hjson : isWord (type.orElse (.str "TEXT")) "JSON" = true
      · simpa only [hjson, if_true] using .pure inputs
      · have hdates : i.first.dates i.node = true := by simp [World.dates, hkind, ← hnode, hsetting, hjson]
        have hlast : ∀ message : Value, (Work.get >>= fun w => (pure (Value.record
            [("message", message), ("timestamp", .int w.now)]) : Work Value)).Determined (i.Shows 1) answer f :=
          fun message => .reading fun _ _ _ _ => hf hdates message _ _
        simp only [hjson]
        refine .bind (.lift _) fun message => .ite ?_ ?_
        · exact .bind (.pure _) fun message => hlast message
        · exact .bind (.lift _) fun message => hlast message

theorem upload_determined : (upload i.node).Determined (i.Shows 1) answer f := by
  unfold upload
  exact View.current fun payload => .bind (.lift _) fun file => .ite (.pure file) (.throw _)

theorem tool_determined (halike : i.plan.graph.BindsAlike i.node) (hseparate : i.node.bindings.Separate)
    (hkind : i.node.kind ≠ .start) : (tool i.plan i.node).Determined (i.Shows 1) answer f := by
  have hcall : ∀ c, (Work.call c).Determined (i.Shows 1) answer id := .call fun h => h.tick hkind
  unfold tool
  refine .bind (View.resolve halike hseparate i.node.payload) fun inputs => .bind (View.note _ _ rfl) fun _ => ?_
  refine View.current fun payload => .guard fun _ => .bind (.lift _) fun type => ?_
  refine .bind (.lift _) fun tool => .ite ?custom (.ite ?builtIn (.ite (.throw _) (.throw _)))
  case custom =>
    refine .guard fun _ => .bind (.lift _) fun name => .bind (.lift _) fun id => ?_
    exact .bind (.lift _) fun body => .bind (hcall _) fun reply => .pure _
  case builtIn =>
    refine .bind (.lift _) fun id => .guard fun _ => .bind (.check _) fun _ => ?_
    exact .bind (hcall _) fun reply => .pure _

theorem sourceEntry_determined {e : Edge NodeId} (he : e ∈ i.plan.graph.incoming i.node.id.key) :
    (sourceEntry i.plan e).Determined (i.Shows 1) answer id := by
  obtain ⟨hedge, htarget⟩ := Graph.mem_incoming.mp he
  unfold sourceEntry
  refine .get (fun w v hw hv => ?_) fun w _ => .bind (.lift _) fun source => ?_
  · rw [Graph.node_value]
    cases hsource : i.plan.graph.node? e.source.key with
    | none => rfl
    | some source =>
        have hprecedes : i.plan.graph.Precedes source.id.key i.node.id.key :=
          .single ⟨e, hedge, (Graph.node?_some hsource).2.symm, htarget⟩
        dsimp only
        rw [Work.lift_ok, Work.lift_ok, hw.same_output hv hprecedes, hw.same_node hv]
  · cases w.output? source.id.key with
    | none => exact .throw _
    | some output => exact .bind (.lift _) fun description => .pure _

theorem sourceEntries_determined : ∀ {es : List (Edge NodeId)}, es ⊆ i.plan.graph.incoming i.node.id.key →
    (sourceEntries i.plan es).Determined (i.Shows 1) answer id
  | [], _ => .pure []
  | _ :: _, hes => .bind (sourceEntry_determined (hes List.mem_cons_self)) fun _ =>
    .bind (sourceEntries_determined fun _ he => hes (List.mem_cons_of_mem _ he)) fun _ => .pure _

theorem transform_determined (hkind : i.node.kind ≠ .start) :
    (transform i.plan i.node).Determined (i.Shows 1) answer f := by
  unfold transform
  refine View.current fun payload => .bind (.lift _) fun request => .guard fun _ => .guard fun _ => ?_
  refine .bind (sourceEntries_determined (List.Subset.refl _)) fun sources => ?_
  split
  · exact .throw _
  · refine .bind (.lift _) fun target => View.current fun payload => .bind (View.note _ _ rfl) fun _ => ?_
    exact .bind (.check _) fun _ => .bind (.lift _) fun description => .bind (.lift _) fun schema =>
      .bind (.call (fun h => h.tick hkind) _) fun reply => .pure _

theorem retrieval_determined (halike : i.plan.graph.BindsAlike i.node) (hseparate : i.node.bindings.Separate)
    (hkind : i.node.kind ≠ .start) : (retrieval i.plan i.node).Determined (i.Shows 1) answer f := by
  unfold retrieval
  refine View.current fun payload => .bind (inputsOr_determined halike hseparate payload _) fun inputs => ?_
  refine .bind (View.note _ _ rfl) fun _ => .bind (.lift _) fun storage => .guard fun _ => ?_
  refine .bind (.lift _) fun query => .guard fun _ => .bind (.lift _) fun topK => .bind (.lift _) fun type => ?_
  refine .bind (.lift _) fun filters => .bind (View.note _ _ rfl) fun _ => .bind (.check _) fun _ => ?_
  refine .bind (.call (fun h => h.tick hkind) _) fun reply => ?_
  dsimp only
  split
  · exact .bind (View.note _ _ rfl) fun _ => .pure _
  · exact .lift _

theorem perform_determined (answer : Call → Except Problem Reply) (nesting : Nat) (hsimple : i.node.kind.isSimple = true)
    (halike : i.plan.graph.BindsAlike i.node) (hseparate : i.node.bindings.Separate)
    (hf : i.first.dates i.node = true → ∀ (message : Value) (a b : Int),
      f (.record [("message", message), ("timestamp", .int a)]) =
        f (.record [("message", message), ("timestamp", .int b)])) :
    (perform i.plan nesting i.node).Determined (i.Shows 1) answer f := by
  rw [perform_eq]
  cases hkind : i.node.kind with
  | start => exact start_determined hkind
  | tool => exact tool_determined halike hseparate (by simp [hkind])
  | transformer => exact transform_determined (by simp [hkind])
  | finish => exact finish_determined halike hseparate hkind hf
  | rag => exact retrieval_determined halike hseparate (by simp [hkind])
  | upload => exact upload_determined
  | llm | condition | state | loop =>
      rw [hkind] at hsimple
      cases hsimple

end

/-- The outcome of a dispatch is settled by what the node can see, and other nodes
see nothing of it but the output. -/
theorem dispatch_settles (i : View) (answer : Call → Except Problem Reply) (hsimple : i.node.kind.isSimple = true)
    (halike : i.plan.graph.BindsAlike i.node) (hseparate : i.node.bindings.Separate) :
    ∃ e : Option Value, ∀ w, i.Shows 0 w → i.Foresees answer e w (dispatch i.plan i.node w) := by
  by_cases hkinds : i.plan.kinds.contains i.node.kind = true
  case neg =>
    refine ⟨none, fun w _ => ?_⟩
    have hrefused : dispatch i.plan i.node w = .fail w (.own (.noExecutor i.node.kind i.node.id)) := by
      unfold dispatch dispatchWith
      simp only [hkinds]
      rfl
    rw [hrefused]
    rfl
  let f (output : Value) : Value := i.first.undated i.node (output.adopt (.result i.node.id.key 0))
  have hf : i.first.dates i.node = true → ∀ (message : Value) (a b : Int),
      f (.record [("message", message), ("timestamp", .int a)]) =
        f (.record [("message", message), ("timestamp", .int b)]) := by
    intro hdates message a b
    simp [f, World.undated, hdates, Value.record, Value.adopt, Value.number, Value.numberEntries, Value.undated,
      Entries.erase, List.filter_cons, Value.key?_str]
  obtain ⟨e, hperform⟩ := perform_determined answer i.plan.nesting hsimple halike hseparate hf
  refine ⟨e, fun w hw => ?_⟩
  unfold dispatch
  rw [dispatchWith_apply hkinds, hw.rounds]
  refine .after Alone.trans (Alone.begun i.plan w i.node)
    ((hperform _ hw.begun).bind_attempt Alone.of_whisper Alone.trans (fun v output h => ?_) fun _ _ _ hnone => hnone)
  exact ⟨.completed i.plan v i.node _ _, Entries.get?_set_same i.node.id.key_eq, h.2⟩

end Workflow.Execute
