import Workflow.Proofs.Graph
import Workflow.Proofs.Growth
import Workflow.Proofs.Revisions

/-!
# Workflow.Proofs.Deeds

What the execution of a node does to the world.

An execution is opened by a START entry and closed by a COMPLETE entry, and the
output is stored along with the latter.  In between it makes remarks, and a
loop opens and closes the executions of its body.  A state node does all this in
one go.  A `Deed` is one of these acts; it changes the stack of executions that
are open, the innermost first.

`dispatch_does` reads a dispatch as a sequence of deeds.  Where it fails
(`Lapse`), every execution that is open logs the failure at once, the first of
them in the words of the failure's own reason.  What a run logs, stores and
answers is derived from deeds and lapses alone.
-/

namespace Workflow.Run

/-! ## Entries -/

/-- The output that the entry about a completed execution tells of. -/
def LogEntry.output (e : LogEntry) : Value :=
  match e.payload with
  | .dict _ es => Entries.field es "output"
  | _ => .null

/-- The entry says of the failing node what went wrong in it. -/
structure LogEntry.Blames (e : LogEntry) (err : NodeError) : Prop where
  phase : e.phase = .error
  node : e.node = err.id.value
  reason : e.payload.field? "error" = some (.str err.reason)

/-- What the execution of a node says as it begins. -/
def startEntry (n : Node) (time : Nat) : LogEntry :=
  ⟨n.id.value, n.kind.name, .start, s!"{n.kind.name} node started", .null, time⟩

/-- What the execution of a node says of its result, after so many seconds. -/
def completeEntry (n : Node) (output : Value) (elapsed time : Nat) : LogEntry :=
  ⟨n.id.value, n.kind.name, .complete, s!"{n.kind.name} node completed",
    .record [("output", output), ("duration_ms", .int (1000 * elapsed))], time⟩

/-- What the execution of a node says of a failure in it. -/
def failureEntry (n : Node) (f : Failure) (time : Nat) : LogEntry :=
  match f with
  | .node e => ⟨n.id.value, n.kind.name, .error, e.message,
      .record [("error", .str e.message), ("failed_node", e.id.value)], time⟩
  | .own p => ⟨n.id.value, n.kind.name, .error, s!"{n.kind.name} node failed: {p.message}",
      .record [("error", .str p.message)], time⟩

theorem failureEntry_phase (n : Node) (f : Failure) (time : Nat) : (failureEntry n f time).phase = .error := by
  cases f <;> rfl

theorem failureEntry_time (n : Node) (f : Failure) (time : Nat) : (failureEntry n f time).time = time := by
  cases f <;> rfl

/-- A failure that is nobody's yet becomes that of the node, which says why. -/
theorem failureEntry_blames (n : Node) (p : Problem) (time : Nat) :
    (failureEntry n (.own p) time).Blames ⟨n.id, n.kind, p⟩ := ⟨rfl, rfl, rfl⟩

namespace World

/-- The execution of a node has begun. -/
def begun (w : World) (plan : Plan) (n : Node) : World := w.addEntry plan.sink (startEntry n w.clock)

/-- The execution of a node is done, after so many seconds. -/
def completed (w : World) (plan : Plan) (n : Node) (output : Value) (elapsed : Nat) : World :=
  (w.addEntry plan.sink (completeEntry n output elapsed w.clock)).setOutput n.id output

/-- The execution of a node has failed. -/
def failed (w : World) (plan : Plan) (n : Node) (f : Failure) : World := w.addEntry plan.sink (failureEntry n f w.clock)

end World

/-! ## Deeds -/

/-- A state node has been executed: the state has been revised, and nothing but
its own remarks stands between the beginning and the end of its execution. -/
structure Revision (plan : Plan) (n : Node) (w v : World) (output : Value) : Prop where
  revised : ∃ u context updates, Remarked n.id (w.begun plan n) u ∧
    Execute.updateContext plan (w.begun plan n) n = .ok context ∧
    Execute.updatesOf (w.begun plan n) n = .ok updates ∧
    Execute.revise context n.id.key ((w.begun plan n).rounds n.id.key) 0 w.state updates = .ok u.state ∧
    output = (Value.dict none (u.lookEntries u.state)).adopt (.result n.id.key (w.rounds n.id.key)) ∧
    v = u.completed plan n output 0

/-- One act of an execution, with the executions that are open before and after it. -/
inductive Deed (plan : Plan) : List Node → World → List Node → World → Prop
  | aside {S w v} : Aside plan.graph.Separate w v → Deed plan S w S v
  | begin {S w n} : n ∈ plan.graph.nodes → n.kind ≠ .state → Deed plan S w (n :: S) (w.begun plan n)
  | complete {S w n output elapsed} : n ∈ plan.graph.nodes → n.kind ≠ .state →
      Deed plan (n :: S) w S (w.completed plan n output elapsed)
  | revise {S w v n output} : n ∈ plan.graph.nodes → n.kind = .state → Revision plan n w v output →
      Deed plan S w S v

/-- One act after the other. -/
inductive Deeds (plan : Plan) : List Node → World → List Node → World → Prop
  | refl {S w} : Deeds plan S w S w
  | tail {S w T u M v} : Deeds plan S w T u → Deed plan T u M v → Deeds plan S w M v

/-- An execution comes to a bad end: those that are open say so at once. -/
structure Lapse (u v : World) (f : Failure) : Prop where
  outputs : v.outputs = u.outputs
  clock : v.clock = u.clock
  log : ∃ es, v.log = u.log ++ es ∧
    (∀ e ∈ es, e.phase ≠ .complete ∧ e.time = u.clock) ∧
    match f with
    | .own _ => ∀ e ∈ es, e.phase ≠ .error
    | .node err => ∃ e ∈ es, e.Blames err

namespace Deeds

variable {plan : Plan} {S T M : List Node} {u v w : World}

theorem single (h : Deed plan S w T v) : Deeds plan S w T v := .tail .refl h

theorem trans (h₁ : Deeds plan S w T u) (h₂ : Deeds plan T u M v) : Deeds plan S w M v := by
  induction h₂ with
  | refl => exact h₁
  | tail _ hlast ih => exact .tail ih hlast

theorem aside (h : Aside plan.graph.Separate w v) : Deeds plan S w S v := .single (.aside h)

/-- What every deed preserves is preserved by deeds. -/
theorem induct {I : List Node → World → Prop} (hdeed : ∀ {S w T v}, Deed plan S w T v → I S w → I T v)
    (h : Deeds plan S w T v) (hI : I S w) : I T v := by
  induction h with
  | refl => exact hI
  | tail _ hlast ih => exact hdeed hlast ih

end Deeds

namespace Lapse

/-- To fail with a problem of its own an execution need not say anything. -/
theorem own (w : World) (p : Problem) : Lapse w w (.own p) := ⟨rfl, rfl, [], by simp, by simp, by simp⟩

/-- The execution of a node in which something fails says so, and passes it on. -/
theorem failed {u v : World} {f : Failure} (h : Lapse u v f) (plan : Plan) (n : Node) :
    Lapse u (v.failed plan n f) (.node (f.leave n.id n.kind)) := by
  obtain ⟨es, hes, hlog, hblame⟩ := h.log
  refine ⟨h.outputs, h.clock, es ++ [failureEntry n f v.clock], ?_, ?_, ?_⟩
  · rw [← List.append_assoc, ← hes]
    rfl
  · intro e he
    rcases List.mem_append.mp he with he | he
    · exact hlog e he
    · rw [List.mem_singleton.mp he]
      refine ⟨?_, (failureEntry_time ..).trans h.clock⟩
      rw [failureEntry_phase]
      exact nofun
  · cases f with
    | node err =>
        obtain ⟨e, he, hblames⟩ := hblame
        exact ⟨e, List.mem_append_left _ he, hblames⟩
    | own p => exact ⟨_, List.mem_append_right _ List.mem_cons_self, failureEntry_blames ..⟩

/-- A state node that fails has made its remarks. -/
theorem of_remarked {plan : Plan} {n : Node} {w v : World} (h : Remarked n.id (w.begun plan n) v) (p : Problem) :
    Lapse w v (.own p) := by
  obtain ⟨es, hes, hremarks⟩ := h.log
  refine ⟨h.outputs, h.clock, startEntry n w.clock :: es, ?_, ?_, ?_⟩
  · rw [hes]
    exact List.append_assoc w.log [startEntry n w.clock] es
  · intro e he
    rcases List.mem_cons.mp he with rfl | he
    · exact ⟨nofun, rfl⟩
    · obtain ⟨_, htime, hremark⟩ := hremarks e he
      refine ⟨fun hphase => ?_, htime⟩
      rw [hphase] at hremark
      cases hremark
  · intro e he hphase
    rcases List.mem_cons.mp he with rfl | he
    · cases hphase
    · have hremark := (hremarks e he).2.2
      rw [hphase] at hremark
      cases hremark

end Lapse

/-! ## Computations as deeds -/

namespace Step

variable {α β : Type} {plan : Plan} {D : List Node → World → World → α → Prop} {F : Failure → Prop}
  {S T M : List Node} {u v w : World}

/-- Up to every wait there are deeds only, and after it the computation goes on
with what is open then.  A result is reached as `D` says, and a failure, which
has `F`, by a lapse. -/
def Does (plan : Plan) (D : List Node → World → World → α → Prop) (F : Failure → Prop) :
    List Node → World → Step α → Prop
  | S, w, .done v a => D S w v a
  | S, w, .fail v f => F f ∧ ∃ T u, Deeds plan S w T u ∧ Lapse u v f
  | S, w, .call v _ next => ∃ T, Deeds plan S w T v ∧ ∀ r u, Does plan D F T u (next r u)
  | S, w, .tools v tasks next =>
    ∃ T, Deeds plan S w T v ∧ (∀ task ∈ tasks, task.Quiet) ∧ ∀ r u, Does plan D F T u (next r u)

/-- The result is reached by deeds, with the given executions open. -/
def Leaves (plan : Plan) (M S : List Node) (w v : World) (_ : α) : Prop := Deeds plan S w M v

/-- A result that is reached from some world is also reached from before the
deeds that led there. -/
def Absorbs (plan : Plan) (D : List Node → World → World → α → Prop) : Prop :=
  ∀ S w T u v a, Deeds plan S w T u → D T u v a → D S w v a

theorem leaves_absorbs (plan : Plan) (M : List Node) : Absorbs plan (Leaves plan M : _ → _ → _ → α → Prop) :=
  fun _ _ _ _ _ _ h h' => h.trans h'

theorem Does.after (hD : Absorbs plan D) {s : Step α} (h : Deeds plan S w T u) (hs : Does plan D F T u s) :
    Does plan D F S w s := by
  cases s with
  | done v a => exact hD _ _ _ _ _ _ h hs
  | fail v f =>
      obtain ⟨hf, T', u', hdeeds, hlapse⟩ := hs
      exact ⟨hf, T', u', h.trans hdeeds, hlapse⟩
  | call v c next =>
      obtain ⟨T', hdeeds, hnext⟩ := hs
      exact ⟨T', h.trans hdeeds, hnext⟩
  | tools v tasks next =>
      obtain ⟨T', hdeeds, hnext⟩ := hs
      exact ⟨T', h.trans hdeeds, hnext⟩

/-- Less may be asked of results and failures. -/
theorem Does.weaken {E : List Node → World → World → α → Prop} {G : Failure → Prop}
    (hDE : ∀ S w v a, D S w v a → E S w v a) (hFG : ∀ f, F f → G f) :
    {s : Step α} → {S : List Node} → {w : World} → Does plan D F S w s → Does plan E G S w s
  | .done _ _, _, _, h => hDE _ _ _ _ h
  | .fail _ _, _, _, h => ⟨hFG _ h.1, h.2⟩
  | .call _ _ _, _, _, ⟨T, hdeeds, h⟩ => ⟨T, hdeeds, fun r u => (h r u).weaken hDE hFG⟩
  | .tools _ _ _, _, _, ⟨T, hdeeds, hquiet, h⟩ => ⟨T, hdeeds, hquiet, fun r u => (h r u).weaken hDE hFG⟩

/-- A second computation may go on with what a first one leaves open. -/
theorem Does.bind {E : List Node → World → World → β → Prop} (hE : Absorbs plan E) {next : α → Work β}
    (hnext : ∀ a v, Does plan E F M v (next a v)) :
    {s : Step α} → {S : List Node} → {w : World} → Does plan (Leaves plan M) F S w s →
      Does plan E F S w (s.bind next)
  | .done v a, _, _, h => (hnext a v).after hE h
  | .fail _ _, _, _, h => h
  | .call _ _ _, _, _, ⟨T, hdeeds, h⟩ => ⟨T, hdeeds, fun r u => (h r u).bind hE hnext⟩
  | .tools _ _ _, _, _, ⟨T, hdeeds, hquiet, h⟩ => ⟨T, hdeeds, hquiet, fun r u => (h r u).bind hE hnext⟩

/-- Where a computation ends well or badly the end is dealt with: a result by
what follows it, a failure by what makes another failure of it. -/
theorem Does.bind_attempt {E : List Node → World → World → β → Prop} {G : Failure → Prop} (hE : Absorbs plan E)
    {next : Except Failure α → Work β} (hok : ∀ a v, Does plan E G M v (next (.ok a) v))
    (herror : ∀ f u v, Lapse u v f → ∃ v' f', next (.error f) v = .fail v' f' ∧ G f' ∧ Lapse u v' f') :
    {s : Step α} → {S : List Node} → {w : World} → Does plan (Leaves plan M) F S w s →
      Does plan E G S w (s.attempt.bind next)
  | .done v a, _, _, h => (hok a v).after hE h
  | .fail v f, _, _, ⟨_, T, u, hdeeds, hlapse⟩ => by
      obtain ⟨v', f', heq, hf', hlapse'⟩ := herror f u v hlapse
      change Does plan E G _ _ (next (.error f) v)
      rw [heq]
      exact ⟨hf', T, u, hdeeds, hlapse'⟩
  | .call _ _ _, _, _, ⟨T, hdeeds, h⟩ => ⟨T, hdeeds, fun r u => (h r u).bind_attempt hE hok herror⟩
  | .tools _ _ _, _, _, ⟨T, hdeeds, hquiet, h⟩ =>
      ⟨T, hdeeds, hquiet, fun r u => (h r u).bind_attempt hE hok herror⟩

/-- A computation that makes nothing but remarks leaves open what was open. -/
theorem Does.of_keeps : {s : Step α} → {w : World} →
    s.Keeps (Aside plan.graph.Separate) (fun _ _ => True) (fun _ f => ∃ p, f = .own p) w →
      Does plan (Leaves plan M) (fun _ => True) M w s
  | .done _ _, _, h => .aside h.1
  | .fail v _, _, ⟨h, p, hp⟩ => ⟨trivial, M, v, .aside h, hp ▸ .own v p⟩
  | .call _ _ _, _, h => ⟨M, .aside h.1, fun r u => .of_keeps (h.2 r u)⟩
  | .tools _ _ _, _, h => ⟨M, .aside h.1, h.2.1, fun r u => .of_keeps (h.2.2 r u)⟩

end Step

/-- From any world on, and whatever is open, the computation leaves just that open. -/
def Work.Does {α : Type} (plan : Plan) (x : Work α) : Prop :=
  ∀ S w, (x w).Does plan (Step.Leaves plan S) (fun _ => True) S w

namespace Work.Does

variable {α β : Type} {plan : Plan}

theorem bind {x : Work α} {next : α → Work β} (hx : x.Does plan) (hnext : ∀ a, (next a).Does plan) :
    (x >>= next).Does plan :=
  fun S w => (hx S w).bind (Step.leaves_absorbs plan S) fun a v => hnext a S v

theorem of_asides {x : Work α} (hx : x.Asides plan.graph.Separate) : x.Does plan :=
  fun _ w => .of_keeps (hx w)

theorem ite {c : Prop} [Decidable c] {x y : Work α} (hx : x.Does plan) (hy : y.Does plan) :
    (if c then x else y).Does plan := by
  by_cases h : c
  · simpa [h] using hx
  · simpa [h] using hy

/-- A guard: where the condition holds the computation fails, and goes on else. -/
theorem guard {c : Prop} [Decidable c] {p : Problem} {rest : PUnit → Work β} (h : (rest PUnit.unit).Does plan) :
    (if c then (do let u ← Work.throw p; rest u) else rest PUnit.unit).Does plan :=
  ite (fun S w => ⟨trivial, S, w, .refl, .own w p⟩) h

/-- A remark, and what follows it. -/
theorem note {n : Node} {phase : Phase} {message : String} {payload : Value} {next : Unit → Work β}
    (hmessage : Apart message) (hphase : phase.isRemark = true) (hnext : (next ()).Does plan) :
    (Work.note plan n phase message payload >>= next).Does plan :=
  bind (of_asides (.note plan n payload hmessage hphase)) fun _ => hnext

/-- An operation on values, and what follows it where it succeeds. -/
theorem lift {r : Except Fault α} {next : α → Work β} (hnext : ∀ a, r = .ok a → (next a).Does plan) :
    (Work.lift r >>= next).Does plan := by
  cases r with
  | error f => exact fun S w => ⟨trivial, S, w, .refl, .own w (.fault f)⟩
  | ok a => exact hnext a rfl

end Work.Does
end Workflow.Run

namespace Workflow.Execute

open Run

variable {plan : Plan}

/-! ## Loops -/

theorem walk_does {dispatch : Node → Work Value} (hdispatch : ∀ n ∈ plan.graph.nodes, (dispatch n).Does plan)
    (loop : Node) (endHandle : Value) (room : Nat) :
    ∀ seen current, (walk plan.graph dispatch loop endHandle room seen current).Does plan := by
  induction room with
  | zero =>
      intro seen current
      unfold walk
      exact .of_asides (.guard fun _ => .throw _)
  | succ room ih =>
      intro seen current
      unfold walk
      refine .guard (.lift fun n hn => .bind (hdispatch n (Graph.mem_nodes_of_node hn)) fun output => ?_)
      split
      · exact .of_asides (.pure _)
      · exact ih _ _
      · exact .of_asides (.throw _)

theorem passes_does (n : Node) (s : LoopSettings) {pass : Work Unit} (hpass : pass.Does plan) (left : Nat) :
    ∀ done, (passes plan n s pass left done).Does plan := by
  induction left with
  | zero => exact fun done => .note (by simp [Apart]) rfl (.of_asides (.pure _))
  | succ left ih =>
      intro done
      unfold passes
      refine .note (by simp [Apart, toString]) rfl (.bind hpass fun _ => .note (by simp [Apart, toString]) rfl ?_)
      refine .bind (.of_asides (shouldExit_asides _ _ _)) fun stop => .ite ?_ (ih _)
      exact .note (by simp [Apart]) rfl (.of_asides (.pure _))

theorem loop_does {dispatch : Node → Work Value} (hdispatch : ∀ n ∈ plan.graph.nodes, (dispatch n).Does plan)
    (n : Node) : (loop plan dispatch n).Does plan := by
  unfold loop
  refine .bind (.of_asides (.current n)) fun n => .lift fun s _ => .lift fun startHandle _ => ?_
  split
  · exact .note (by simp [Apart]) rfl (.of_asides (.pure _))
  · exact passes_does n s (.lift fun endHandle _ => walk_does hdispatch _ _ _ _ _) _ _

/-! ## Executing a node -/

/-- How the execution of a node ends: with an entry about its result, which is
stored as its output, or with one about its failure. -/
def conclude (plan : Plan) (n : Node) (origin : Origin) (started : Nat) : Except Failure Value → Work Value
  | .ok output => fun w =>
    .done (w.completed plan n (output.adopt origin) (w.clock - started)) (output.adopt origin)
  | .error f => fun w => .fail (w.failed plan n f) (.node (f.leave n.id n.kind))

/-- A dispatch in three parts: the beginning, the work, and the end. -/
theorem dispatchWith_apply {perform : Node → Work Value} {n : Node} (hkind : plan.kinds.contains n.kind = true)
    (w : World) :
    dispatchWith plan perform n w = (perform n (w.begun plan n)).attempt.bind
      (conclude plan n (.result n.id.key (w.rounds n.id.key)) w.clock) := by
  unfold dispatchWith
  simp only [hkind]
  refine (Step.bind_assoc _ _ ((perform n (w.begun plan n)).attempt)).trans ?_
  refine congrArg (Step.bind _) (funext fun r => funext fun v => ?_)
  rcases r with (e | p) | output <;> rfl

/-- The execution of a node is closed, with the given ones still open: the last
deed completes it, or it is that of a state node. -/
def Closes (plan : Plan) (n : Node) (M S : List Node) (w v : World) (output : Value) : Prop :=
  ∃ T u, Deeds plan S w T u ∧
    ((n.kind ≠ .state ∧ T = n :: M ∧ ∃ elapsed, v = u.completed plan n output elapsed) ∨
      (n.kind = .state ∧ T = M ∧ Revision plan n u v output))

theorem closes_absorbs (n : Node) (M : List Node) : Step.Absorbs plan (Closes plan n M) := by
  rintro S w S' w' v a hbefore ⟨T, u, hdeeds, hlast⟩
  exact ⟨T, u, hbefore.trans hdeeds, hlast⟩

/-- The deed that closes an execution. -/
theorem Closes.deed {n : Node} (hn : n ∈ plan.graph.nodes) {M S : List Node} {w v : World} {output : Value}
    (h : Closes plan n M S w v output) :
    ∃ T u, Deeds plan S w T u ∧ Deed plan T u M v ∧
      ∃ e, v.log.getLast? = some e ∧ e.phase = .complete ∧ e.node = n.id.value ∧ e.output = output := by
  have hlast : ∀ (u : World) (elapsed : Nat), ∃ e, (u.completed plan n output elapsed).log.getLast? = some e ∧
      e.phase = .complete ∧ e.node = n.id.value ∧ e.output = output := fun u elapsed =>
    ⟨_, List.getLast?_concat, rfl, rfl, rfl⟩
  obtain ⟨T, u, hdeeds, ⟨hkind, rfl, elapsed, rfl⟩ | ⟨hkind, rfl, hrevision⟩⟩ := h
  · exact ⟨_, u, hdeeds, .complete hn hkind, hlast u elapsed⟩
  · obtain ⟨u', _, _, _, _, _, _, _, rfl⟩ := hrevision.revised
    exact ⟨_, u, hdeeds, .revise hn hkind hrevision, hlast u' 0⟩

/-- How the dispatch of a node fails: in a node, or because nodes of its kind
cannot be executed. -/
def Fails (plan : Plan) (n : Node) (f : Failure) : Prop :=
  (∃ e, f = .node e) ∨ n.kind ∉ plan.kinds ∧ f = .own (.noExecutor n.kind n.id)

theorem Fails.dispatchFailure {n : Node} {f : Failure} (h : Fails plan n f) : DispatchFailure f :=
  h.imp_right fun ⟨_, hf⟩ => ⟨_, _, hf⟩

/-- A dispatch opens and closes the execution of its node, if the work in
between leaves open what it finds open. -/
theorem dispatchWith_does {perform : Node → Work Value} {n : Node} (hn : n ∈ plan.graph.nodes)
    (hperform : n.kind ≠ .state → (perform n).Does plan) (hstate : n.kind = .state → perform n = state plan n)
    (S : List Node) (w : World) :
    (dispatchWith plan perform n w).Does plan (Closes plan n S) (Fails plan n) S w := by
  by_cases hkinds : plan.kinds.contains n.kind = true
  case neg =>
    have hrefused : dispatchWith plan perform n w = .fail w (.own (.noExecutor n.kind n.id)) := by
      unfold dispatchWith
      simp only [hkinds]
      rfl
    rw [hrefused]
    exact ⟨.inr ⟨by simpa using hkinds, rfl⟩, S, w, .refl, .own w _⟩
  rw [dispatchWith_apply hkinds]
  have hfailed : ∀ f u v, Lapse u v f → ∃ v' f',
      conclude plan n (.result n.id.key (w.rounds n.id.key)) w.clock (.error f) v = .fail v' f' ∧
        Fails plan n f' ∧ Lapse u v' f' :=
    fun f u v hlapse => ⟨_, _, rfl, .inl ⟨_, rfl⟩, hlapse.failed plan n⟩
  by_cases hkind : n.kind = .state
  · rw [hstate hkind]
    rcases state_revises plan n (w.begun plan n) with
      ⟨v, context, updates, hdone, hremarked, hcontext, hupdates, hrevise⟩ | ⟨v, f, hfail, hremarked⟩
    · rw [hdone]
      refine ⟨S, w, .refl, .inr ⟨hkind, rfl, v, context, updates, hremarked, hcontext, hupdates, hrevise, rfl, ?_⟩⟩
      have hclock : v.clock - w.clock = 0 := by
        rw [hremarked.clock]
        exact Nat.sub_self w.clock
      rw [hclock]
    · rw [hfail]
      exact ⟨.inl ⟨_, rfl⟩, S, w, .refl, (Lapse.of_remarked hremarked _).failed plan n⟩
  · refine Step.Does.bind_attempt (closes_absorbs n S) (fun output v => ?_) (fun f u v => hfailed f u v)
      ((hperform hkind (n :: S) (w.begun plan n)).after (Step.leaves_absorbs plan (n :: S)) (.single (.begin hn hkind)))
    exact ⟨_, v, .refl, .inl ⟨hkind, rfl, _, rfl⟩⟩

/-- Nodes of every kind but state nodes leave open what they find open. -/
theorem perform_does (nesting : Nat) :
    ∀ n ∈ plan.graph.nodes, n.kind ≠ .state → (perform plan nesting n).Does plan := by
  induction nesting with
  | zero =>
      intro n hn hstate
      by_cases hloop : n.kind = .loop
      · simpa only [perform_eq, hloop] using .of_asides (.throw _)
      · exact .of_asides (perform_asides plan 0 (fun h => h n hn) hstate hloop)
  | succ nesting ih =>
      intro n hn hstate
      by_cases hloop : n.kind = .loop
      · have hbody : ∀ m ∈ plan.graph.nodes, (dispatchWith plan (perform plan nesting) m).Does plan := by
          intro m hm S w
          refine (dispatchWith_does hm (ih m hm) (fun hkind => by rw [perform_eq, hkind]) S w).weaken ?_
            fun _ _ => trivial
          intro S' w' v output hcloses
          obtain ⟨T, u, hdeeds, hdeed, _⟩ := hcloses.deed hm
          exact hdeeds.tail hdeed
        simpa only [perform_eq, hloop] using loop_does hbody n
      · exact .of_asides (perform_asides plan _ (fun h => h n hn) hstate hloop)

/-- A dispatch of the scheduler opens the execution of its node and closes it. -/
theorem dispatch_does {n : Node} (hn : n ∈ plan.graph.nodes) (S : List Node) (w : World) :
    (dispatch plan n w).Does plan (Closes plan n S) (Fails plan n) S w :=
  dispatchWith_does hn (perform_does plan.nesting n hn) (fun hkind => by rw [perform_eq, hkind]) S w

end Workflow.Execute
