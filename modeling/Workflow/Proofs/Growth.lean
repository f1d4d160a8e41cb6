import Workflow.Proofs.Asides

/-!
# Workflow.Proofs.Growth

A node only ever adds to the world: an output stays in its place once a node
has one, and the log is only appended to, never with an entry that reads like
the scheduler's word on an abandoned join.

`dispatch_keeps` sums up what the scheduler relies on: the world grows while a
node is executed, a result has been stored as the output of the node, and a
failure is one of the node or of its executor, never a bare fault.
-/

namespace Workflow.Run

/-! ## Growth -/

/-- A later world has all outputs that an earlier one had, and its log goes on
from the earlier log without a word on abandoned joins. -/
structure World.Grows (w v : World) : Prop where
  outputs : ∀ k, (Entries.get? w.outputs k).isSome → (Entries.get? v.outputs k).isSome
  log : ∃ es, v.log = w.log ++ es ∧ ∀ e ∈ es, e.tellsAbandonment = false

namespace World.Grows

theorem refl (w : World) : w.Grows w := ⟨fun _ h => h, [], by simp, by simp⟩

theorem trans (u v w : World) (h₁ : u.Grows v) (h₂ : v.Grows w) : u.Grows w := by
  obtain ⟨es, hes, hapart⟩ := h₁.log
  obtain ⟨fs, hfs, hapart'⟩ := h₂.log
  refine ⟨fun k hk => h₂.outputs k (h₁.outputs k hk), es ++ fs, ?_, ?_⟩
  · rw [hfs, hes, List.append_assoc]
  · intro e he
    rcases List.mem_append.mp he with h | h
    · exact hapart e h
    · exact hapart' e h

/-- What leaves outputs and log alone is growth. -/
theorem of_eq {w v : World} (houtputs : v.outputs = w.outputs) (hlog : v.log = w.log) : w.Grows v :=
  ⟨fun k hk => by rw [houtputs]; exact hk, [], by simp [hlog], by simp⟩

theorem note (w : World) (sink : Sink) (node : Value) (kind : String) (phase : Phase) {message : String}
    (payload : Value) (h : Apart message) : w.Grows (w.note sink node kind phase message payload) := by
  refine ⟨fun _ hk => hk, [⟨node, kind, phase, message, payload, w.clock⟩], rfl, ?_⟩
  intro e he
  rw [List.mem_singleton.mp he]
  exact h.differs

theorem setOutput (w : World) (id : NodeId) (v : Value) : w.Grows (w.setOutput id v) := by
  refine ⟨fun k hk => ?_, [], by simp [World.setOutput], by simp⟩
  by_cases hkey : k = id.key
  · subst hkey
    simp [World.setOutput, Entries.get?_set_same id.key_eq]
  · simpa [World.setOutput, Entries.get?_set_other id.key_eq hkey] using hk

/-- Remarks are growth. -/
theorem of_aside {still : Prop} {w v : World} (h : Aside still w v) : w.Grows v := by
  obtain ⟨es, hes, hremarks⟩ := h.log
  exact ⟨fun k hk => by rw [h.outputs]; exact hk, es, hes, fun e he => (hremarks e he).2⟩

end World.Grows

/-! ## Computations that only add -/

/-- Whatever happens while it waits, the computation only adds to the world;
if it fails, then in one of the given ways. -/
def Work.Grows {α : Type} (x : Work α) (F : Failure → Prop := fun _ => True) : Prop :=
  ∀ w, (x w).Keeps World.Grows (fun _ _ => True) (fun _ f => F f) w

namespace Work.Grows

variable {α β : Type} {F : Failure → Prop}

theorem bind {x : Work α} {next : α → Work β} (hx : x.Grows F) (hnext : ∀ a, (next a).Grows F) :
    (x >>= next).Grows F :=
  fun w => (hx w).bind World.Grows.trans fun v a _ => hnext a v

theorem pure (a : α) : (Pure.pure a : Work α).Grows F := fun w => ⟨.refl w, trivial⟩

theorem get : Work.get.Grows F := fun w => ⟨.refl w, trivial⟩

theorem modify {f : World → World} (h : ∀ w : World, w.Grows (f w)) : (Work.modify f).Grows F :=
  fun w => ⟨h w, trivial⟩

theorem throw {p : Problem} (h : F (.own p)) : (Work.throw p : Work α).Grows F :=
  fun w => ⟨.refl w, h⟩

theorem rethrow {f : Failure} (h : F f) : (Work.rethrow f : Work α).Grows F :=
  fun w => ⟨.refl w, h⟩

theorem lift (r : Except Fault α) : (Work.lift r).Grows := by
  cases r with
  | error f => exact throw trivial
  | ok a => exact pure a

theorem note (plan : Plan) (n : Node) (phase : Phase) {message : String} (payload : Value)
    (h : Apart message) : (Work.note plan n phase message payload).Grows F :=
  modify fun w => .note w _ _ _ _ _ h

/-- A computation that makes nothing but remarks only adds to the world. -/
theorem of_asides (still : Prop) {x : Work α} (hx : x.Asides still) : x.Grows :=
  fun w => ((hx w).relax fun _ _ => .of_aside).weaken (fun _ _ _ => trivial) fun _ _ _ => trivial

theorem ite {c : Prop} [Decidable c] {x y : Work α} (hx : x.Grows F) (hy : y.Grows F) :
    (if c then x else y).Grows F := by
  by_cases h : c
  · simpa [h] using hx
  · simpa [h] using hy

/-- A guard: where the condition holds the computation fails, and goes on else. -/
theorem guard {c : Prop} [Decidable c] {p : Problem} {rest : PUnit → Work β} (hp : F (.own p))
    (h : ∀ u, (rest u).Grows F) :
    (if c then (do let u ← Work.throw p; rest u) else rest PUnit.unit).Grows F :=
  ite (bind (throw hp) h) (h _)

/-- How a computation failed no longer matters once its failure is a result. -/
theorem attempt {G : Failure → Prop} {x : Work α} (hx : x.Grows G) : (Work.attempt x).Grows F :=
  fun w => (hx w).attempt.weaken (fun _ _ _ => trivial) (fun _ _ h => h)

end Work.Grows
end Workflow.Run

namespace Workflow.Execute

open Run Run.Work

/-! ## What nodes do -/

theorem applyUpdate_grows (plan : Plan) (n : Node) (origin : Origin) (u : Update) :
    (applyUpdate plan n origin u).Grows := by
  cases u with
  | keyless => exact .of_asides True (.record _ _ _)
  | skip key binding e =>
      exact .note _ _ _ _ (by simp [Apart])
  | set key value =>
      exact .bind (.lift _) fun k => .bind (.modify fun w => .of_eq rfl rfl) fun _ =>
        .note _ _ _ _ (by simp [Apart])

theorem applyUpdates_grows (plan : Plan) (n : Node) (context : Entries) (round : Nat) (updates : List Value) :
    ∀ index, (applyUpdates plan n context round index updates).Grows := by
  induction updates with
  | nil => exact fun _ => .pure _
  | cons update rest ih =>
      exact fun index => .bind (.lift _) fun u => .bind (applyUpdate_grows _ _ _ u) fun _ => ih _

theorem state_grows (plan : Plan) (n : Node) : (state plan n).Grows := by
  unfold state
  exact .bind .get fun w => .bind (.lift _) fun context => .bind (.lift _) fun updates =>
    .bind (applyUpdates_grows _ _ _ _ _ _) fun _ => .bind .get fun w => .pure _

theorem walk_grows (g : Graph) {dispatch : Node → Work Value} (hdispatch : ∀ n, (dispatch n).Grows) (loop : Node)
    (endHandle : Value) (room : Nat) : ∀ seen current, (walk g dispatch loop endHandle room seen current).Grows := by
  induction room with
  | zero =>
      intro seen current
      unfold walk
      exact .guard trivial fun _ => .throw trivial
  | succ room ih =>
      intro seen current
      unfold walk
      refine .guard trivial fun _ => .bind (.lift _) fun n => .bind (hdispatch n) fun output => ?_
      cases nextInPass g loop endHandle current n output with
      | error p => exact .throw trivial
      | ok next =>
          cases next with
          | none => exact .pure _
          | some next => exact ih _ _

theorem passes_grows (plan : Plan) (n : Node) (s : LoopSettings) {pass : Work Unit} (hpass : pass.Grows) (left : Nat) :
    ∀ done, (passes plan n s pass left done).Grows := by
  induction left with
  | zero => exact fun done => .bind (.note _ _ _ _ (by simp [Apart])) fun _ => .pure _
  | succ left ih =>
      intro done
      unfold passes
      refine .bind (.note _ _ _ _ (by simp [Apart, toString])) fun _ => .bind hpass fun _ => ?_
      refine .bind (.note _ _ _ _ (by simp [Apart, toString])) fun _ => .bind (.of_asides True (shouldExit_asides _ _ _)) fun stop => .ite ?_ (ih _)
      exact .bind (.note _ _ _ _ (by simp [Apart])) fun _ => .pure _

theorem loop_grows (plan : Plan) {dispatch : Node → Work Value} (hdispatch : ∀ n, (dispatch n).Grows) (n : Node) :
    (loop plan dispatch n).Grows := by
  unfold loop
  refine .bind (.of_asides True (.current n)) fun n => .bind (.lift _) fun s => .bind (.lift _) fun startHandle => ?_
  cases plan.graph.edgeAt? n.id.key startHandle with
  | none => exact .bind (.note _ _ _ _ (by simp [Apart])) fun _ => .pure _
  | some e =>
      exact passes_grows plan n s (.bind (.lift _) fun endHandle => walk_grows _ hdispatch _ _ _ _ _) _ _

/-! ## Executing a node -/

/-- Executing a node makes every failure one of a node. -/
theorem execute_grows (plan : Plan) {work : Work Value} (hwork : work.Grows) (n : Node) :
    (execute plan work n).Grows fun f => ∃ e, f = .node e := by
  unfold execute
  refine .bind .get fun w => .bind (.note _ _ _ _ ((apart_kindName n.kind).append _)) fun _ => ?_
  refine .bind .get fun v => .bind (.attempt hwork) fun r => ?_
  rcases r with (e | p) | output
  · have hmessage : Apart e.message := by
      unfold NodeError.message
      exact (((apart_kindName e.kind).append _).append _).append _ |>.append _
    exact .bind (.note _ _ _ _ hmessage) fun _ => .rethrow ⟨e, rfl⟩
  · have hmessage : Apart s!"{n.kind.name} node failed: {p.message}" :=
      ((apart_kindName n.kind).append _).append _
    exact .bind (.note _ _ _ _ hmessage) fun _ => .rethrow ⟨_, rfl⟩
  · refine .bind .get fun u => .bind (.note _ _ _ _ ?_) fun _ => .pure _
    exact (apart_kindName n.kind).append _

/-- How a dispatch fails: in a node, or for want of an executor. -/
def DispatchFailure (f : Failure) : Prop := (∃ e, f = .node e) ∨ ∃ kind id, f = .own (.noExecutor kind id)

/-- A node is executed by additions to the world only, and its result is in
its place among the outputs. -/
theorem dispatchWith_keeps (plan : Plan) {perform : Node → Work Value} (hperform : ∀ n, (perform n).Grows)
    (n : Node) (w : World) :
    (dispatchWith plan perform n w).Keeps World.Grows
      (fun v output => Entries.get? v.outputs n.id.key = some output) (fun _ f => DispatchFailure f) w := by
  have hexecute : (execute plan (perform n) n).Grows DispatchFailure := fun w =>
    (execute_grows plan (hperform n) n w).weaken (fun _ _ h => h) fun _ _ h => .inl h
  have hstore : ∀ (output : Value) (u : World), Step.Keeps World.Grows
      (fun v output => Entries.get? v.outputs n.id.key = some output) (fun _ f => DispatchFailure f) u
      (Step.done (u.setOutput n.id output) output) := fun output u =>
    ⟨.setOutput u n.id output, by simp [World.setOutput, Entries.get?_set_same n.id.key_eq]⟩
  unfold dispatchWith
  by_cases hkind : plan.kinds.contains n.kind
  · simp only [hkind]
    exact (hexecute w).bind World.Grows.trans fun u output _ => hstore output u
  · simp only [hkind]
    exact ⟨.refl w, .inr ⟨_, _, rfl⟩⟩

/-- Nodes of every kind only add to the world, loops if the nodes in their
bodies do. -/
theorem perform_grows (plan : Plan) (nesting : Nat) : ∀ n, (perform plan nesting n).Grows := by
  have hbase : ∀ (nesting : Nat) (n : Node), (n.kind = .loop → (perform plan nesting n).Grows) →
      (perform plan nesting n).Grows := by
    intro nesting n hloop
    by_cases hkind : n.kind = .loop
    · exact hloop hkind
    by_cases hstate : n.kind = .state
    · simpa only [perform_eq, hstate] using state_grows plan n
    · exact .of_asides False (perform_asides plan nesting False.elim hstate hkind)
  induction nesting with
  | zero =>
      refine fun n => hbase 0 n fun hkind => ?_
      simpa only [perform, hkind] using Work.Grows.throw trivial
  | succ nesting ih =>
      refine fun n => hbase (nesting + 1) n fun hkind => ?_
      have hbody : ∀ n, (dispatchWith plan (perform plan nesting) n).Grows := fun n w =>
        (dispatchWith_keeps plan ih n w).weaken (fun _ _ _ => trivial) (fun _ _ _ => trivial)
      simpa only [perform, hkind] using loop_grows plan hbody n

/-- A dispatch only adds to the world, stores its result as the output of its
node, and fails in one of the two ways of a dispatch. -/
theorem dispatch_keeps (plan : Plan) (n : Node) (w : World) :
    (dispatch plan n w).Keeps World.Grows
      (fun v output => Entries.get? v.outputs n.id.key = some output) (fun _ f => DispatchFailure f) w :=
  dispatchWith_keeps plan (perform_grows plan plan.nesting) n w

end Workflow.Execute
