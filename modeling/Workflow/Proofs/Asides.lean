import Workflow.Execute.Dispatch
import Workflow.Proofs.Targets
import Workflow.Proofs.Work

/-!
# Workflow.Proofs.Asides

What a node does beside its result.

A node that is neither a loop nor a state node only makes remarks: it logs what
it is doing, or that something is odd, and it records the same.  Outputs, state
and clock stay as they are, and where the targets of its bindings are separate
nothing is written to shared mappings either (`Aside`).  It fails with problems
of its own only.

None of its remarks reads like the scheduler's word on an abandoned join, so
such entries can be counted in the log of a run.
-/

namespace Workflow.Run

/-! ## Entries about abandoned joins -/

/-- The words with which the scheduler reports an abandoned join. -/
def abandonedWords : List Char := "Join abandoned".toList

/-- Does an entry report an abandoned join? -/
def LogEntry.tellsAbandonment (e : LogEntry) : Bool := abandonedWords.isPrefixOf e.message.toList

/-- A text that cannot be taken for a report of an abandoned join, as its first
letter is another one. -/
def Apart (s : String) : Prop := ∃ c cs, s.toList = c :: cs ∧ c ≠ 'J'

theorem Apart.append {s : String} (h : Apart s) (t : String) : Apart (s ++ t) := by
  obtain ⟨c, cs, hs, hc⟩ := h
  exact ⟨c, cs ++ t.toList, by simp [hs], hc⟩

theorem abandonedWords_eq : abandonedWords = 'J' :: "oin abandoned".toList := by
  decide

theorem Apart.differs {s : String} (h : Apart s) : abandonedWords.isPrefixOf s.toList = false := by
  obtain ⟨c, cs, hs, hc⟩ := h
  rw [hs, abandonedWords_eq, List.isPrefixOf]
  simp [Ne.symm hc]

theorem apart_kindName (k : NodeKind) : Apart k.name := by
  cases k <;> simp [Apart, NodeKind.name]

/-! ## Remarks -/

/-- Is an entry of this phase a remark, and no word on how an execution goes? -/
def Phase.isRemark : Phase → Bool
  | .info | .warning => true
  | _ => false

/-- Only remarks and records have been added, and where all is still nothing
has been written to shared mappings. -/
structure Aside (still : Prop) (w v : World) : Prop where
  outputs : v.outputs = w.outputs
  state : v.state = w.state
  clock : v.clock = w.clock
  log : ∃ es, v.log = w.log ++ es ∧ ∀ e ∈ es, e.phase.isRemark = true ∧ e.tellsAbandonment = false
  writes : still → v.writes = w.writes

namespace Aside

variable {still : Prop}

/-- Adding records, and nothing else. -/
theorem records (w : World) (records : List Record) : Aside still w { w with records } :=
  ⟨rfl, rfl, rfl, ⟨[], by simp, by simp⟩, fun _ => rfl⟩

theorem refl (w : World) : Aside still w w := records w w.records

theorem trans (u v w : World) (h₁ : Aside still u v) (h₂ : Aside still v w) : Aside still u w := by
  obtain ⟨es, hes, hremarks⟩ := h₁.log
  obtain ⟨fs, hfs, hremarks'⟩ := h₂.log
  refine ⟨h₂.outputs.trans h₁.outputs, h₂.state.trans h₁.state, h₂.clock.trans h₁.clock, ⟨es ++ fs, ?_, ?_⟩,
    fun h => (h₂.writes h).trans (h₁.writes h)⟩
  · rw [hfs, hes, List.append_assoc]
  · intro e he
    rcases List.mem_append.mp he with h | h
    · exact hremarks e h
    · exact hremarks' e h

theorem note (w : World) (sink : Sink) (node : Value) (kind : String) {phase : Phase} {message : String}
    (payload : Value) (hphase : phase.isRemark = true) (h : Apart message) :
    Aside still w (w.note sink node kind phase message payload) := by
  refine ⟨rfl, rfl, rfl, ⟨[⟨node, kind, phase, message, payload, w.clock⟩], rfl, ?_⟩, fun _ => rfl⟩
  intro e he
  rw [List.mem_singleton.mp he]
  exact ⟨hphase, h.differs⟩

theorem noteOutcome (w : World) (sink : Sink) (n : Node) (o : BindingOutcome) :
    Aside still w (w.noteOutcome sink n o) := by
  unfold World.noteOutcome
  cases o.error with
  | none => exact records ..
  | some e =>
      refine trans _ _ _ (records ..) (note _ _ _ _ _ rfl ?_)
      exact Apart.append (Apart.append ⟨_, _, rfl, by decide⟩ _) _

/-- What is known of the writes may be known from elsewhere. -/
theorem withWrites {w v : World} (h : Aside still w v) {writes : List Write} (hwrites : still → writes = w.writes) :
    Aside still w { v with writes } :=
  ⟨h.outputs, h.state, h.clock, h.log, hwrites⟩

theorem resolve (w : World) (plan : Plan) {n : Node} (h : still → n.bindings.Separate) :
    Aside still w (w.resolve plan n).1 := by
  have hfold : ∀ (os : List BindingOutcome) (w : World),
      Aside still w (os.foldl (fun w o => World.noteOutcome w plan.sink n o) w) := by
    intro os
    induction os with
    | nil => exact refl
    | cons o os ih => exact fun w => trans _ _ _ (noteOutcome w plan.sink n o) (ih _)
  have hwrites : still → (w.resolve plan n).1.writes = w.writes := fun hs => w.resolve_writes plan (h hs)
  unfold World.resolve at *
  dsimp only at *
  split
  next heq =>
    rw [heq] at hwrites
    exact (hfold _ w).withWrites hwrites
  next heq =>
    rw [heq] at hwrites
    exact (hfold _ w).withWrites hwrites

end Aside

/-! ## Computations that only make remarks -/

/-- Whatever happens while it waits, the computation makes nothing but remarks;
if it fails, then with a problem of its own. -/
def Work.Asides {α : Type} (still : Prop) (x : Work α) : Prop :=
  ∀ w, (x w).Keeps (Aside still) (fun _ _ => True) (fun _ f => ∃ p, f = .own p) w

namespace Work.Asides

variable {α β : Type} {still : Prop}

theorem bind {x : Work α} {next : α → Work β} (hx : x.Asides still) (hnext : ∀ a, (next a).Asides still) :
    (x >>= next).Asides still :=
  fun w => (hx w).bind Aside.trans fun v a _ => hnext a v

/-- The rest of a computation need only be looked at for the nodes that
`current` answers: the node itself with a payload of some kind. -/
theorem bind_current {n : Node} {next : Node → Work β} (hnext : ∀ payload, (next { n with payload }).Asides still) :
    (Work.current n >>= next).Asides still :=
  fun w => hnext _ w

theorem pure (a : α) : (Pure.pure a : Work α).Asides still := fun w => ⟨.refl w, trivial⟩

theorem get : Work.get.Asides still := fun w => ⟨.refl w, trivial⟩

theorem current (n : Node) : (Work.current n).Asides still := fun w => ⟨.refl w, trivial⟩

theorem throw (p : Problem) : (Work.throw p : Work α).Asides still := fun w => ⟨.refl w, p, rfl⟩

theorem lift (r : Except Fault α) : (Work.lift r).Asides still := by
  cases r with
  | error f => exact throw _
  | ok a => exact pure a

theorem check (r : Except Problem α) : (Work.check r).Asides still := by
  cases r with
  | error p => exact throw p
  | ok a => exact pure a

theorem call (c : Call) : (Work.call c).Asides still := fun w => ⟨.refl w, fun r u => check r u⟩

theorem tools {tasks : List ToolTask} (h : ∀ task ∈ tasks, task.Quiet) : (Work.tools tasks).Asides still :=
  fun w => ⟨.refl w, h, fun r u => check r u⟩

theorem note (plan : Plan) (n : Node) {phase : Phase} {message : String} (payload : Value)
    (h : Apart message) (hphase : phase.isRemark = true) :
    (Work.note plan n phase message payload).Asides still :=
  fun w => ⟨.note w _ _ _ _ hphase h, trivial⟩

theorem record (logger : Logger) (level : Level) (message : String) :
    (Work.record logger level message).Asides still :=
  fun w => ⟨.records w _, trivial⟩

theorem resolve (plan : Plan) {n : Node} (hn : still → n.bindings.Separate) :
    (Work.resolve plan n).Asides still := by
  intro w
  have h := Aside.resolve w plan hn
  unfold Work.resolve
  cases hr : w.resolve plan n with
  | mk v r =>
      rw [hr] at h
      cases r with
      | error f => exact ⟨h, _, rfl⟩
      | ok a => exact ⟨h, trivial⟩

theorem ite {c : Prop} [Decidable c] {x y : Work α} (hx : x.Asides still) (hy : y.Asides still) :
    (if c then x else y).Asides still := by
  by_cases h : c
  · simpa [h] using hx
  · simpa [h] using hy

/-- A guard: where the condition holds the computation fails, and goes on else. -/
theorem guard {c : Prop} [Decidable c] {p : Problem} {rest : PUnit → Work β} (h : ∀ u, (rest u).Asides still) :
    (if c then (do let u ← Work.throw p; rest u) else rest PUnit.unit).Asides still :=
  ite (bind (throw p) h) (h _)

end Work.Asides
end Workflow.Run

namespace Workflow.Execute

open Run Run.Work

/-! ## What nodes do -/

section

variable {still : Prop}

theorem start_asides (plan : Plan) (n : Node) : (start plan n).Asides still := by
  unfold start
  refine .bind .get fun w => .bind (.note _ _ _ (by simp [Apart]) rfl) fun _ => .bind .get fun v => ?_
  exact .bind (.lift _) fun es => .pure _

theorem inputsOr_asides (plan : Plan) (n : Node) (hn : still → n.bindings.Separate)
    (fallback : Value → Except Fault Value) : (inputsOr plan n fallback).Asides still := by
  unfold inputsOr
  refine .bind (.resolve plan hn) fun inputs => .ite ?_ (.pure inputs)
  exact .bind .get fun w => .ite (.lift _) (.pure inputs)

theorem finish_asides (plan : Plan) {n : Node} (hn : still → n.bindings.Separate) : (finish plan n).Asides still := by
  unfold finish
  refine .bind_current fun payload => .bind (.lift _) fun type => .bind (inputsOr_asides plan { n with payload } hn _) fun inputs => ?_
  refine .bind (.note _ _ _ (by simp [Apart]) rfl) fun _ => .ite (.pure _) ?_
  refine .bind (.lift _) fun message => .ite ?_ ?_
  · exact .bind (.pure _) fun message => .bind .get fun w => .pure _
  · exact .bind (.lift _) fun message => .bind .get fun w => .pure _

theorem upload_asides (n : Node) : (upload n).Asides still := by
  unfold upload
  exact .bind_current fun payload => .bind (.lift _) fun file => .ite (.pure file) (.throw _)

theorem tool_asides (plan : Plan) {n : Node} (hn : still → n.bindings.Separate) : (tool plan n).Asides still := by
  unfold tool
  refine .bind (.resolve plan hn) fun inputs => .bind (.note _ _ _ (by simp [Apart]) rfl) fun _ => ?_
  refine .bind_current fun payload => .guard fun _ => .bind (.lift _) fun type => ?_
  refine .bind (.lift _) fun tool => .ite ?custom (.ite ?builtIn (.ite (.throw _) (.throw _)))
  case custom =>
    refine .guard fun _ => .bind (.lift _) fun name => .bind (.lift _) fun id => ?_
    exact .bind (.lift _) fun body => .bind (.call _) fun reply => .pure _
  case builtIn =>
    refine .bind (.lift _) fun id => .guard fun _ => .bind (.check _) fun _ => ?_
    exact .bind (.call _) fun reply => .pure _

theorem startTool_quiet (plan : Plan) (n : Node) (c : ToolCall) (w : World) :
    ∃ records, (startTool plan n c w).1 = { w with records } := by
  unfold startTool
  dsimp only
  split
  · exact ⟨w.records, rfl⟩
  · exact ⟨w.records, rfl⟩
  · exact ⟨_, rfl⟩

theorem converse_asides (plan : Plan) (n : Node) (turns : Nat) :
    ∀ request checkpoint, (converse plan n turns request checkpoint).Asides still := by
  induction turns with
  | zero => exact fun _ _ => .throw _
  | succ turns ih =>
      intro request checkpoint
      unfold converse
      refine .bind (.check _) fun _ => .bind (.call _) fun reply => .ite (.pure _) ?_
      refine .bind (.note _ _ _ (by simp [Apart]) rfl) fun _ => .bind (.tools ?_) fun messages => ih _ _
      intro task htask w
      obtain ⟨c, _, rfl⟩ := List.mem_map.mp htask
      exact startTool_quiet plan n c w

theorem model_asides (plan : Plan) {n : Node} (hn : still → n.bindings.Separate) : (model plan n).Asides still := by
  unfold model
  refine .bind_current fun payload => .guard fun _ => .bind (inputsOr_asides plan { n with payload } hn _) fun inputs => ?_
  refine .bind (.note _ _ _ (by simp [Apart]) rfl) fun _ => .bind .get fun w => .bind (.lift _) fun request => ?_
  exact .bind (converse_asides _ _ _ _ _) fun reply => .lift _

theorem sourceEntry_asides (plan : Plan) (e : Edge NodeId) : (sourceEntry plan e).Asides still := by
  unfold sourceEntry
  refine .bind .get fun w => .bind (.lift _) fun source => ?_
  cases w.output? source.id.key with
  | none => exact .throw _
  | some output => exact .bind (.lift _) fun description => .pure _

theorem sourceEntries_asides (plan : Plan) (es : List (Edge NodeId)) : (sourceEntries plan es).Asides still := by
  induction es with
  | nil => exact .pure []
  | cons e es ih => exact .bind (sourceEntry_asides plan e) fun v => .bind ih fun vs => .pure _

theorem transform_asides (plan : Plan) (n : Node) : (transform plan n).Asides still := by
  unfold transform
  refine .bind_current fun payload => .bind (.lift _) fun request => .guard fun _ => .guard fun _ => ?_
  refine .bind (sourceEntries_asides _ _) fun sources => ?_
  split
  · exact .throw _
  · refine .bind (.lift _) fun target => .bind_current fun payload => .bind (.note _ _ _ ?_ rfl) fun _ => ?_
    · simp [Apart, toString]
    · exact .bind (.check _) fun _ => .bind (.lift _) fun description => .bind (.lift _) fun schema =>
        .bind (.call _) fun reply => .pure _

theorem retrieval_asides (plan : Plan) {n : Node} (hn : still → n.bindings.Separate) :
    (retrieval plan n).Asides still := by
  unfold retrieval
  refine .bind_current fun payload => .bind (inputsOr_asides plan { n with payload } hn _) fun inputs => ?_
  refine .bind (.note _ _ _ (by simp [Apart]) rfl) fun _ => .bind (.lift _) fun storage => .guard fun _ => ?_
  refine .bind (.lift _) fun query => .guard fun _ => .bind (.lift _) fun topK => .bind (.lift _) fun type => ?_
  refine .bind (.lift _) fun filters => .bind (.note _ _ _ (by simp [Apart]) rfl) fun _ => .bind (.check _) fun _ => ?_
  refine .bind (.call _) fun reply => ?_
  dsimp only
  split
  · exact .bind (.note _ _ _ (by simp [Apart]) rfl) fun _ => .pure _
  · exact .lift _

theorem selectFrom_asides (plan : Plan) (n : Node) (context : Entries) (conditions : List Value) :
    ∀ index, (selectFrom plan n context index conditions).Asides still := by
  induction conditions with
  | nil =>
      intro index
      unfold selectFrom
      exact .bind (.lift _) fun default => .bind (.note _ _ _ (by simp [Apart]) rfl) fun _ => .pure _
  | cons condition rest ih =>
      intro index
      unfold selectFrom
      refine .bind (.lift _) fun text => .ite ?_ ?_
      · exact .bind (.record _ _ _) fun _ => ih _
      · cases Expr.evaluate text context with
        | error e => exact .bind (.note _ _ _ (by simp [Apart, toString]) rfl) fun _ => ih _
        | ok v =>
            refine .ite ?_ (ih _)
            exact .bind (.lift _) fun handle => .bind (.lift _) fun label =>
              .bind (.note _ _ _ (by simp [Apart, toString]) rfl) fun _ => .pure _

theorem condition_asides (plan : Plan) (n : Node) : (condition plan n).Asides still := by
  unfold condition
  exact .bind .get fun w => .bind (.lift _) fun context => .bind (.lift _) fun conditions =>
    selectFrom_asides _ _ _ _ _

theorem shouldExit_asides (plan : Plan) (n : Node) (expression : Value) : (shouldExit plan n expression).Asides still := by
  unfold shouldExit
  refine .ite (.pure _) (.bind .get fun w => .bind (.lift _) fun context => ?_)
  split
  · exact .pure _
  · exact .lift _
  · exact .bind (.note _ _ _ (by simp [Apart]) rfl) fun _ => .pure _

/-- The work of a node by its kind, whatever the nesting. -/
theorem perform_eq (plan : Plan) (nesting : Nat) (n : Node) :
    perform plan nesting n = match n.kind with
      | .start => start plan n
      | .tool => tool plan n
      | .llm => model plan n
      | .transformer => transform plan n
      | .finish => finish plan n
      | .rag => retrieval plan n
      | .condition => condition plan n
      | .state => state plan n
      | .upload => upload n
      | .loop => match nesting with
        | 0 => Work.throw .tooDeep
        | nesting + 1 => loop plan (dispatchWith plan (perform plan nesting)) n := by
  cases hkind : n.kind <;> cases nesting <;> simp only [perform, hkind]

/-- Nodes other than loops and state nodes make nothing but remarks. -/
theorem perform_asides (plan : Plan) (nesting : Nat) {n : Node} (hn : still → n.bindings.Separate)
    (hstate : n.kind ≠ .state) (hloop : n.kind ≠ .loop) : (perform plan nesting n).Asides still := by
  rw [perform_eq]
  cases hkind : n.kind with
  | start => exact start_asides plan n
  | tool => exact tool_asides plan hn
  | llm => exact model_asides plan hn
  | transformer => exact transform_asides plan n
  | finish => exact finish_asides plan hn
  | rag => exact retrieval_asides plan hn
  | condition => exact condition_asides plan n
  | upload => exact upload_asides n
  | state => exact absurd hkind hstate
  | loop => exact absurd hkind hloop

end
end Workflow.Execute
