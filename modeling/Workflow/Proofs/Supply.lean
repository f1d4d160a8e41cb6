import Workflow.Proofs.Graph
import Workflow.Proofs.Growth

/-!
# Workflow.Proofs.Supply

What a node finds of the outputs of its sources.

A world supplies a node if the source of every edge into it has an output.
Outputs never vanish, so the world goes on supplying the node as it grows.
In such a world a node never reads the output of a predecessor that has none
(`World.Supplies.predecessorOutput`), and a transformer does not fail for the
want of one (`dispatch_starves`).
-/

namespace Workflow

/-- Is it the problem of a source without an output? -/
def Problem.isNoSourceOutput : Problem → Bool
  | .config (.noSourceOutput _) => true
  | _ => false

/-- The problem behind a failure. -/
def Failure.problem : Failure → Problem
  | .node e => e.cause
  | .own p => p

namespace Run

/-! ## Supply -/

/-- The source of every edge into the node has an output. -/
def World.Supplies (w : World) (g : Graph) (k : Key) : Prop :=
  ∀ e ∈ g.incoming k, (Entries.get? w.outputs e.source.key).isSome

namespace World.Supplies

variable {w v : World} {g : Graph} {k : Key}

theorem grow (h : w.Supplies g k) (hgrows : w.Grows v) : v.Supplies g k :=
  fun e he => hgrows.outputs _ (h e he)

theorem output? (h : w.Supplies g k) {e : Edge NodeId} (he : e ∈ g.incoming k) :
    ∃ v, w.output? e.source.key = some v := by
  obtain ⟨v, hv⟩ := Option.isSome_iff_exists.mp (h e he)
  refine ⟨w.look v, ?_⟩
  unfold World.output?
  rw [hv]
  rfl

/-- What a node reads of its predecessor is the predecessor's output. -/
theorem predecessorOutput (h : w.Supplies g k) {e : Edge NodeId} {rest : List (Edge NodeId)}
    (hincoming : g.incoming k = e :: rest) : w.output? e.source.key = some (w.predecessorOutput g k) := by
  obtain ⟨v, hv⟩ := h.output? (hincoming ▸ List.mem_cons_self)
  unfold World.predecessorOutput
  rw [hincoming]
  dsimp only
  rw [hv]
  rfl

end World.Supplies

/-! ## How a computation ends -/

namespace Step

variable {α β : Type} {A : Problem → Prop} {F : Failure → Prop}

/-- Results have `Q` and failures have `F`, as long as collaborators refuse
with problems only that `A` allows. -/
def Ends (A : Problem → Prop) (Q : World → α → Prop) (F : Failure → Prop) : Step α → Prop
  | .done w a => Q w a
  | .fail _ f => F f
  | .call _ _ next => ∀ r w, (∀ p, r = .error p → A p) → Ends A Q F (next r w)
  | .tools _ _ next => ∀ r w, (∀ p, r = .error p → A p) → Ends A Q F (next r w)

theorem Ends.bind {Q : World → α → Prop} {P : World → β → Prop} {next : α → Work β}
    (hnext : ∀ w a, Q w a → Ends A P F (next a w)) : {s : Step α} → Ends A Q F s → Ends A P F (s.bind next)
  | .done w a, h => hnext w a h
  | .fail _ _, h => h
  | .call _ _ _, h => fun r w hr => (h r w hr).bind hnext
  | .tools _ _ _, h => fun r w hr => (h r w hr).bind hnext

theorem Ends.attempt {Q : World → α → Prop} {G : Failure → Prop} : {s : Step α} → Ends A Q F s →
    Ends A (fun w r => match r with | .ok a => Q w a | .error f => F f) G s.attempt
  | .done _ _, h => h
  | .fail _ _, h => h
  | .call _ _ _, h => fun r w hr => (h r w hr).attempt
  | .tools _ _ _, h => fun r w hr => (h r w hr).attempt

end Step

/-- The computation does not end for want of a source's output, unless some
collaborator answers just that. -/
def Step.NeverStarves {α : Type} (Q : World → α → Prop) (s : Step α) : Prop :=
  s.Ends (fun p => p.isNoSourceOutput = false) Q fun f => (Failure.problem f).isNoSourceOutput = false

/-- Begun in a world with `P` the computation does not end for want of a
source's output, and a result comes with `Q`. -/
def Work.NeverStarves {α : Type} (P : World → Prop) (x : Work α) (Q : World → Prop) : Prop :=
  ∀ w, P w → (x w).NeverStarves fun v _ => Q v

namespace Work.NeverStarves

variable {α β : Type} {P Q R : World → Prop}

theorem bind {x : Work α} {next : α → Work β} (hx : x.NeverStarves P Q) (hnext : ∀ a, (next a).NeverStarves Q R) :
    (x >>= next).NeverStarves P R :=
  fun w hw => (hx w hw).bind fun v a hv => hnext a v hv

theorem pure (a : α) : (Pure.pure a : Work α).NeverStarves P P := fun _ hw => hw

theorem get : Work.get.NeverStarves P P := fun _ hw => hw

theorem current_bind {n : Node} {next : Node → Work β} (h : ∀ n', n'.id = n.id → (next n').NeverStarves P Q) :
    (Work.current n >>= next).NeverStarves P Q :=
  fun w hw => h (w.node n) rfl w hw

theorem throw {p : Problem} (h : p.isNoSourceOutput = false) : (Work.throw p : Work α).NeverStarves P Q :=
  fun _ _ => h

theorem rethrow {f : Failure} (h : (Failure.problem f).isNoSourceOutput = false) :
    (Work.rethrow f : Work α).NeverStarves P Q := fun _ _ => h

theorem lift (r : Except Fault α) : (Work.lift r).NeverStarves P P := by
  cases r with
  | error f => exact throw rfl
  | ok a => exact pure a

theorem check {r : Except Problem α} (h : ∀ p, r = .error p → p.isNoSourceOutput = false) :
    (Work.check r).NeverStarves P P := by
  cases r with
  | error p => exact throw (h p rfl)
  | ok a => exact pure a

theorem call (c : Call) : (Work.call c).NeverStarves P fun _ => True :=
  fun _ _ _ w hr => check (P := fun _ => True) hr w trivial

theorem modify {f : World → World} (h : ∀ w, P w → P (f w)) : (Work.modify f).NeverStarves P P :=
  fun w hw => h w hw

theorem note {plan : Plan} {n : Node} {phase : Phase} {message : String} {payload : Value}
    (h : ∀ w, P w → P (w.note plan.sink n.id.value n.kind.name phase message payload)) :
    (Work.note plan n phase message payload).NeverStarves P P :=
  modify h

theorem ite {c : Prop} [Decidable c] {x y : Work α} (hx : x.NeverStarves P Q) (hy : y.NeverStarves P Q) :
    (if c then x else y).NeverStarves P Q := by
  by_cases h : c
  · simpa [h] using hx
  · simpa [h] using hy

/-- A guard: where the condition holds the computation fails, and goes on else. -/
theorem guard {c : Prop} [Decidable c] {p : Problem} {rest : PUnit → Work β} (hp : p.isNoSourceOutput = false)
    (h : ∀ u, (rest u).NeverStarves P Q) :
    (if c then (do let u ← Work.throw p; rest u) else rest PUnit.unit).NeverStarves P Q :=
  ite (bind (Q := P) (throw hp) h) (h _)

end Work.NeverStarves
end Run

namespace Execute

open Run Run.Work

variable {plan : Plan} {n : Node}

/-- Sources with outputs can be told to the service. -/
theorem sourceEntry_starves {e : Edge NodeId} (he : e ∈ plan.graph.incoming n.id.key) :
    (sourceEntry plan e).NeverStarves (·.Supplies plan.graph n.id.key) (·.Supplies plan.graph n.id.key) := by
  intro w hw
  obtain ⟨output, houtput⟩ := hw.output? he
  unfold sourceEntry
  change Step.NeverStarves _ (Step.bind (Work.lift (plan.graph.node e.source.value) w) _)
  rw [Graph.node_value]
  cases hnode : plan.graph.node? e.source.key with
  | none => exact rfl
  | some source =>
      rw [← (Graph.node?_some hnode).2] at houtput
      change Step.NeverStarves _ (Step.bind (Step.done w source) _)
      dsimp only [Step.bind]
      rw [houtput]
      exact (NeverStarves.bind (.lift _) fun description => .pure _) w hw

theorem sourceEntries_starves : ∀ {es : List (Edge NodeId)}, es ⊆ plan.graph.incoming n.id.key →
    (sourceEntries plan es).NeverStarves (·.Supplies plan.graph n.id.key) (·.Supplies plan.graph n.id.key)
  | [], _ => .pure []
  | _ :: _, hes =>
      .bind (sourceEntry_starves (hes List.mem_cons_self)) fun _ =>
        .bind (sourceEntries_starves fun _ hi => hes (List.mem_cons_of_mem _ hi)) fun _ => .pure _

/-- A transformer with outputs at all its sources does not fail for want of one. -/
theorem transform_starves (hreach : ∀ p, plan.reach .transform = .error p → p.isNoSourceOutput = false) :
    (transform plan n).NeverStarves (·.Supplies plan.graph n.id.key) fun _ => True := by
  unfold transform
  refine .current_bind fun n' hid => .bind (.lift _) fun request => .guard rfl fun _ => .guard rfl fun _ => ?_
  rw [hid]
  refine .bind (sourceEntries_starves (List.Subset.refl _)) fun sources => ?_
  cases plan.graph.outgoing n.id.key with
  | nil => exact .throw rfl
  | cons e es =>
      refine .bind (.lift _) fun target => .current_bind fun target _ => .bind (.note fun _ hw => hw) fun _ => ?_
      exact .bind (.check hreach) fun _ => .bind (.lift _) fun description => .bind (.lift _) fun schema =>
        .bind (.call _) fun reply => .pure _

theorem execute_starves {g : Graph} {k : Key} {work : Work Value}
    (hwork : work.NeverStarves (·.Supplies g k) fun _ => True) :
    (execute plan work n).NeverStarves (·.Supplies g k) fun _ => True := by
  unfold execute
  refine .bind .get fun w => .bind (.note fun _ hw => hw) fun _ => .bind .get fun v => fun u hu => ?_
  refine (hwork u hu).attempt.bind fun u' r hr => ?_
  rcases r with (e | p) | output
  · exact NeverStarves.bind (P := fun _ => True) (.note fun _ h => h) (fun _ => .rethrow hr) u' trivial
  · exact NeverStarves.bind (P := fun _ => True) (.note fun _ h => h)
      (fun _ => .rethrow (f := .node ⟨n.id, n.kind, p⟩) hr) u' trivial
  · exact NeverStarves.bind (P := fun _ => True) .get
      (fun _ => .bind (.note fun _ h => h) fun _ => .pure _) u' trivial

/-- So its dispatch does not fail for want of an output either, unless the
service itself says so. -/
theorem dispatch_starves (plan : Plan) (hkind : n.kind = .transformer)
    (hreach : ∀ p, plan.reach .transform = .error p → p.isNoSourceOutput = false) :
    (dispatch plan n).NeverStarves (·.Supplies plan.graph n.id.key) fun _ => True := by
  unfold dispatch dispatchWith
  refine .guard rfl fun _ => .bind ?_ fun output => .bind (.modify fun _ _ => trivial) fun _ => .pure output
  refine execute_starves ?_
  rw [perform_eq, hkind]
  exact transform_starves hreach

end Execute
end Workflow
