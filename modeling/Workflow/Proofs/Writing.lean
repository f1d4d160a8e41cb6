import Workflow.Proofs.Deeds
import Workflow.Proofs.Growth
import Workflow.Proofs.Nesting

/-!
# Workflow.Proofs.Writing

Writes to shared mappings are added, and never taken back.

While a node is executed, a loop and the nodes of its body included, the writes
so far stay where they are and further ones follow (`dispatchWith_writes`).  So
the worlds on the way of an execution have seen the first of the writes that
there are at its end, and what holds whichever of these have been made holds all
along.
-/

namespace Workflow.Run

/-! ## Further writes -/

/-- What had been written by the first world has been written by the second. -/
def World.Writes (w v : World) : Prop := w.writes <+: v.writes

namespace World.Writes

theorem refl (w : World) : w.Writes w := List.prefix_refl _

theorem trans (u v w : World) (h₁ : u.Writes v) (h₂ : v.Writes w) : u.Writes w := List.IsPrefix.trans h₁ h₂

theorem of_eq {w v : World} (h : v.writes = w.writes) : w.Writes v := by
  unfold World.Writes
  rw [h]

/-- The bindings of a node may write. -/
theorem resolve (w : World) (plan : Plan) (n : Node) : w.Writes (w.resolve plan n).1 := by
  have hnotes : ∀ (os : List BindingOutcome) (w : World),
      (os.foldl (fun w o => World.noteOutcome w plan.sink n o) w).writes = w.writes := by
    intro os
    induction os with
    | nil => exact fun w => rfl
    | cons o os ih =>
        intro w
        rw [List.foldl_cons, ih]
        exact (@Aside.noteOutcome True w plan.sink n o).writes trivial
  unfold World.resolve
  dsimp only
  split
  next => exact ⟨_, by rw [hnotes]⟩
  next => exact ⟨_, by rw [hnotes]⟩

end World.Writes

/-- Whatever happens while it waits, the computation only adds writes. -/
def Work.Writes {α : Type} (x : Work α) : Prop :=
  ∀ w, (x w).Keeps World.Writes (fun _ _ => True) (fun _ _ => True) w

namespace Work.Writes

variable {α β : Type}

theorem bind {x : Work α} {next : α → Work β} (hx : x.Writes) (hnext : ∀ a, (next a).Writes) : (x >>= next).Writes :=
  fun w => (hx w).bind World.Writes.trans fun v a _ => hnext a v

/-- A computation that makes nothing but remarks writes nothing. -/
theorem of_asides {x : Work α} (hx : x.Asides True) : x.Writes := fun w =>
  ((hx w).relax fun _ _ h => .of_eq (h.writes trivial)).weaken (fun _ _ _ => trivial) fun _ _ _ => trivial

theorem pure (a : α) : (Pure.pure a : Work α).Writes := .of_asides (.pure a)

theorem get : Work.get.Writes := .of_asides .get

theorem throw (p : Problem) : (Work.throw p : Work α).Writes := .of_asides (.throw p)

theorem lift (r : Except Fault α) : (Work.lift r).Writes := .of_asides (.lift r)

theorem check (r : Except Problem α) : (Work.check r).Writes := .of_asides (.check r)

theorem call (c : Call) : (Work.call c).Writes := .of_asides (.call c)

theorem modify {f : World → World} (h : ∀ w : World, w.Writes (f w)) : (Work.modify f).Writes :=
  fun w => ⟨h w, trivial⟩

theorem note (plan : Plan) (n : Node) (phase : Phase) (message : String) (payload : Value) :
    (Work.note plan n phase message payload).Writes := modify fun _ => .of_eq rfl

theorem ite {c : Prop} [Decidable c] {x y : Work α} (hx : x.Writes) (hy : y.Writes) : (if c then x else y).Writes := by
  by_cases h : c
  · simpa [h] using hx
  · simpa [h] using hy

/-- A guard: where the condition holds the computation fails, and goes on else. -/
theorem guard {c : Prop} [Decidable c] {p : Problem} {rest : PUnit → Work β} (h : ∀ u, (rest u).Writes) :
    (if c then (do let u ← Work.throw p; rest u) else rest PUnit.unit).Writes := ite (bind (throw p) h) (h _)

/-- The rest of a computation need only be looked at for the nodes that `current`
answers. -/
theorem bind_current {n : Node} {next : Node → Work β} (hnext : ∀ n, (next n).Writes) :
    (Work.current n >>= next).Writes := bind (.of_asides (.current n)) hnext

theorem resolve (plan : Plan) (n : Node) : (Work.resolve plan n).Writes := by
  intro w
  have h := World.Writes.resolve w plan n
  unfold Work.resolve
  cases hr : w.resolve plan n with
  | mk v r =>
      rw [hr] at h
      cases r with
      | error f => exact ⟨h, trivial⟩
      | ok a => exact ⟨h, trivial⟩

end Work.Writes
end Workflow.Run

namespace Workflow.Execute

open Run Run.Work

/-! ## What nodes do -/

theorem inputsOr_writes (plan : Plan) (n : Node) (fallback : Value → Except Fault Value) :
    (inputsOr plan n fallback).Writes := by
  unfold inputsOr
  refine .bind (.resolve plan n) fun inputs => .ite ?_ (.pure inputs)
  exact .bind .get fun w => .ite (.lift _) (.pure inputs)

theorem finish_writes (plan : Plan) (n : Node) : (finish plan n).Writes := by
  unfold finish
  refine .bind_current fun n => .bind (.lift _) fun type => .bind (inputsOr_writes plan n _) fun inputs => ?_
  refine .bind (.note _ _ _ _ _) fun _ => .ite (.pure _) ?_
  refine .bind (.lift _) fun message => .ite ?_ ?_
  · exact .bind (.pure _) fun message => .bind .get fun w => .pure _
  · exact .bind (.lift _) fun message => .bind .get fun w => .pure _

theorem tool_writes (plan : Plan) (n : Node) : (tool plan n).Writes := by
  unfold tool
  refine .bind (.resolve plan n) fun inputs => .bind (.note _ _ _ _ _) fun _ => ?_
  refine .bind_current fun n => .guard fun _ => .bind (.lift _) fun type => ?_
  refine .bind (.lift _) fun tool => .ite ?custom (.ite ?builtIn (.ite (.throw _) (.throw _)))
  case custom =>
    refine .guard fun _ => .bind (.lift _) fun name => .bind (.lift _) fun id => ?_
    exact .bind (.lift _) fun body => .bind (.call _) fun reply => .pure _
  case builtIn =>
    refine .bind (.lift _) fun id => .guard fun _ => .bind (.check _) fun _ => ?_
    exact .bind (.call _) fun reply => .pure _

theorem model_writes (plan : Plan) (n : Node) : (model plan n).Writes := by
  unfold model
  refine .bind_current fun n => .guard fun _ => .bind (inputsOr_writes plan n _) fun inputs => ?_
  refine .bind (.note _ _ _ _ _) fun _ => .bind .get fun w => .bind (.lift _) fun request => ?_
  exact .bind (.of_asides (converse_asides _ _ _ _ _)) fun reply => .lift _

theorem retrieval_writes (plan : Plan) (n : Node) : (retrieval plan n).Writes := by
  unfold retrieval
  refine .bind_current fun n => .bind (inputsOr_writes plan n _) fun inputs => ?_
  refine .bind (.note _ _ _ _ _) fun _ => .bind (.lift _) fun storage => .guard fun _ => ?_
  refine .bind (.lift _) fun query => .guard fun _ => .bind (.lift _) fun topK => .bind (.lift _) fun type => ?_
  refine .bind (.lift _) fun filters => .bind (.note _ _ _ _ _) fun _ => .bind (.check _) fun _ => ?_
  refine .bind (.call _) fun reply => ?_
  dsimp only
  split
  · exact .bind (.note _ _ _ _ _) fun _ => .pure _
  · exact .lift _

theorem state_writes (plan : Plan) (n : Node) : (state plan n).Writes := by
  intro w
  obtain ⟨v, -, -, hdone, h, -⟩ | ⟨v, f, hfail, h⟩ := state_revises plan n w
  · rw [hdone]
    exact ⟨.of_eq h.writes, trivial⟩
  · rw [hfail]
    exact ⟨.of_eq h.writes, trivial⟩

/-! ## Loops -/

theorem walk_writes (g : Graph) {dispatch : Node → Work Value} (hdispatch : ∀ n, (dispatch n).Writes) (loop : Node)
    (endHandle : Value) (room : Nat) : ∀ seen current, (walk g dispatch loop endHandle room seen current).Writes := by
  induction room with
  | zero =>
      intro seen current
      unfold walk
      exact .guard fun _ => .throw _
  | succ room ih =>
      intro seen current
      unfold walk
      refine .guard fun _ => .bind (.lift _) fun n => .bind (hdispatch n) fun output => ?_
      cases nextInPass g loop endHandle current n output with
      | error p => exact .throw _
      | ok next =>
          cases next with
          | none => exact .pure _
          | some next => exact ih _ _

theorem walkBody_writes (g : Graph) {dispatch : Node → Work Value} (hdispatch : ∀ n, (dispatch n).Writes) (loop : Node)
    (first : NodeId) : (walkBody g dispatch loop first).Writes :=
  .bind (.lift _) fun endHandle => walk_writes g hdispatch loop endHandle _ _ _

theorem passes_writes (plan : Plan) (n : Node) (s : LoopSettings) {pass : Work Unit} (hpass : pass.Writes) (left : Nat) :
    ∀ done, (passes plan n s pass left done).Writes := by
  induction left with
  | zero => exact fun done => .bind (.note _ _ _ _ _) fun _ => .pure _
  | succ left ih =>
      intro done
      unfold passes
      refine .bind (.note _ _ _ _ _) fun _ => .bind hpass fun _ => .bind (.note _ _ _ _ _) fun _ => ?_
      refine .bind (.of_asides (shouldExit_asides _ _ _)) fun stop => .ite ?_ (ih _)
      exact .bind (.note _ _ _ _ _) fun _ => .pure _

theorem loop_writes (plan : Plan) {dispatch : Node → Work Value} (hdispatch : ∀ n, (dispatch n).Writes) (n : Node) :
    (loop plan dispatch n).Writes := by
  unfold loop
  refine .bind_current fun n => .bind (.lift _) fun s => .bind (.lift _) fun startHandle => ?_
  cases plan.graph.edgeAt? n.id.key startHandle with
  | none => exact .bind (.note _ _ _ _ _) fun _ => .pure _
  | some e => exact passes_writes plan n s (walkBody_writes _ hdispatch _ _) _ _

/-! ## Executing a node -/

theorem dispatchWith_writes (plan : Plan) {perform : Node → Work Value} {n : Node} (hperform : (perform n).Writes) :
    (dispatchWith plan perform n).Writes := by
  intro w
  cases hkind : plan.kinds.contains n.kind with
  | false =>
      unfold dispatchWith
      simp only [hkind]
      exact ⟨.refl w, trivial⟩
  | true =>
      rw [dispatchWith_apply hkind]
      have hbegun : w.Writes (w.begun plan n) := .of_eq rfl
      refine .after World.Writes.trans hbegun (((hperform _).attempt).bind World.Writes.trans fun v r _ => ?_)
      cases r with
      | ok output => exact ⟨.of_eq rfl, trivial⟩
      | error f => exact ⟨.of_eq rfl, trivial⟩

/-- Nodes of every kind only add writes, loops if the nodes in their bodies do. -/
theorem perform_writes (plan : Plan) (nesting : Nat) : ∀ n, (perform plan nesting n).Writes := by
  induction nesting with
  | zero =>
      intro n
      rw [perform_eq]
      cases n.kind with
      | start => exact .of_asides (start_asides plan n)
      | tool => exact tool_writes plan n
      | llm => exact model_writes plan n
      | transformer => exact .of_asides (transform_asides plan n)
      | finish => exact finish_writes plan n
      | rag => exact retrieval_writes plan n
      | condition => exact .of_asides (condition_asides plan n)
      | state => exact state_writes plan n
      | upload => exact .of_asides (upload_asides n)
      | loop => exact .throw _
  | succ nesting ih =>
      intro n
      by_cases hkind : n.kind = .loop
      · rw [perform_eq, hkind]
        exact loop_writes plan (fun m => dispatchWith_writes plan (ih m)) n
      · rw [perform_not_loop hkind, ← perform_not_loop hkind nesting]
        exact ih n

end Workflow.Execute
