import Mathlib.Data.List.Forall2
import Workflow.Proofs.Asides
import Workflow.Run.Runner

/-!
# Workflow.Proofs.Observers

The sink of the log only observes.

1. Two worlds are alike if they differ in their records at most.  `Step.Alike` and
   `Work.Alike` say that computations stay alike as long as they are started, and
   taken up again, in worlds that are alike; `Machine.Alike` says it of machines.
2. Nobody reads the records, and a sink leaves nothing else.  So what a node does is
   alike whatever the sink (`dispatch_alike`), and so is a step of the scheduler
   (`Machine.Alike.step`).
3. Two runs that differ in the sink therefore differ in the records at most
   (`sink_only_observes`).
-/

namespace Workflow.Run

variable {α β σ : Type}

/-! ## Worlds -/

/-- The worlds differ in their records at most. -/
def World.Alike (w v : World) : Prop := ∃ records, v = { w with records }

namespace World.Alike

variable {w v : World}

/-- Entries are the same whatever sink they are sent to. -/
theorem note (h : w.Alike v) (sink sink' : Sink) (node : Value) (kind : String) (phase : Phase) (message : String)
    (payload : Value) :
    (w.note sink node kind phase message payload).Alike (v.note sink' node kind phase message payload) := by
  obtain ⟨records, rfl⟩ := h
  exact ⟨_, rfl⟩

theorem record (h : w.Alike v) (logger : Logger) (level : Level) (message : String) :
    (w.record logger level message).Alike (v.record logger level message) := by
  obtain ⟨records, rfl⟩ := h
  exact ⟨_, rfl⟩

theorem withRecords (h : w.Alike v) (records : List Record) :
    World.Alike { w with records := w.records ++ records } { v with records := v.records ++ records } := by
  obtain ⟨_, rfl⟩ := h
  exact ⟨_, rfl⟩

theorem noteOutcome (h : w.Alike v) (sink sink' : Sink) (n : Node) (o : BindingOutcome) :
    (w.noteOutcome sink n o).Alike (v.noteOutcome sink' n o) := by
  unfold World.noteOutcome
  split
  · exact h.record ..
  · exact (h.record ..).note ..

theorem noteOutcomes (h : w.Alike v) (sink sink' : Sink) (n : Node) (os : List BindingOutcome) :
    (os.foldl (fun w o => World.noteOutcome w sink n o) w).Alike
      (os.foldl (fun w o => World.noteOutcome w sink' n o) v) := by
  induction os generalizing w v with
  | nil => exact h
  | cons o os ih => exact ih (h.noteOutcome sink sink' n o)

/-- What bindings resolve to does not hang on the records either. -/
theorem resolve (h : w.Alike v) (plan : Plan) (sink : Sink) (n : Node) :
    (w.resolve plan n).1.Alike (v.resolve { plan with sink } n).1 ∧
      (w.resolve plan n).2 = (v.resolve { plan with sink } n).2 := by
  have hnoted := fun os => h.noteOutcomes plan.sink sink n os
  obtain ⟨records, rfl⟩ := h
  simp only [World.resolve, World.rounds, World.lookEntries] at *
  generalize resolveBindings _ n.bindings plan.graph.nodes _ _ = r
  obtain ⟨records', hrecords⟩ := hnoted r.outcomes
  rw [hrecords]
  cases r.failure with
  | none => exact ⟨⟨records', rfl⟩, rfl⟩
  | some f => exact ⟨⟨records', rfl⟩, rfl⟩

end World.Alike

/-! ## Computations -/

/-- The tool calls begin alike, and make the same of an answer. -/
structure ToolTask.Alike (task task' : ToolTask) : Prop where
  world : ∀ {w v : World}, w.Alike v → (task.start w).1.Alike (task'.start v).1
  call : ∀ {w v : World}, w.Alike v → (task.start w).2 = (task'.start v).2
  finish : task.finish = task'.finish

/-- The computations have come equally far in worlds that are alike, and go on so
whenever they are taken up in worlds that are alike. -/
inductive Step.Alike : Step α → Step α → Prop
  | done {w v : World} {a : α} (h : w.Alike v) : Alike (.done w a) (.done v a)
  | fail {w v : World} {f : Failure} (h : w.Alike v) : Alike (.fail w f) (.fail v f)
  | call {w v : World} {c : Call} {next next' : Except Problem Reply → World → Step α} (h : w.Alike v)
      (hnext : ∀ r w v, w.Alike v → Alike (next r w) (next' r v)) : Alike (.call w c next) (.call v c next')
  | tools {w v : World} {tasks tasks' : List ToolTask} {next next' : Except Problem (List Value) → World → Step α}
      (h : w.Alike v) (htasks : List.Forall₂ ToolTask.Alike tasks tasks')
      (hnext : ∀ r w v, w.Alike v → Alike (next r w) (next' r v)) : Alike (.tools w tasks next) (.tools v tasks' next')

/-- The computations do alike in worlds that are alike. -/
def Work.Alike (x y : Work α) : Prop := ∀ w v, World.Alike w v → (x w).Alike (y v)

theorem Step.Alike.bind {s s' : Step α} {next next' : α → Work β} (h : s.Alike s')
    (hnext : ∀ a, (next a).Alike (next' a)) : (s.bind next).Alike (s'.bind next') := by
  induction h with
  | done h => exact hnext _ _ _ h
  | fail h => exact .fail h
  | call h _ ih => exact .call h ih
  | tools h htasks _ ih => exact .tools h htasks ih

theorem Step.Alike.attempt {s s' : Step α} (h : s.Alike s') : s.attempt.Alike s'.attempt := by
  induction h with
  | done h => exact .done h
  | fail h => exact .done h
  | call h _ ih => exact .call h ih
  | tools h htasks _ ih => exact .tools h htasks ih

namespace Work.Alike

theorem bind {x y : Work α} {next next' : α → Work β} (h : x.Alike y) (hnext : ∀ a, (next a).Alike (next' a)) :
    (x >>= next).Alike (y >>= next') :=
  fun w v hw => (h w v hw).bind hnext

theorem pure (a : α) : (Pure.pure a : Work α).Alike (Pure.pure a) := fun _ _ hw => .done hw

theorem throw (p : Problem) : (Work.throw p : Work α).Alike (Work.throw p) := fun _ _ hw => .fail hw

theorem rethrow (f : Failure) : (Work.rethrow f : Work α).Alike (Work.rethrow f) := fun _ _ hw => .fail hw

/-- What is read off the world does not hang on the records. -/
theorem get {next next' : World → Work α} (hnext : ∀ w records, (next w).Alike (next' { w with records })) :
    (Work.get >>= next).Alike (Work.get >>= next') := by
  rintro w v ⟨records, rfl⟩
  exact hnext w records _ _ ⟨records, rfl⟩

theorem current (n : Node) : (Work.current n).Alike (Work.current n) := by
  rintro w v ⟨records, rfl⟩
  exact .done ⟨records, rfl⟩

theorem lift (r : Except Fault α) : (Work.lift r).Alike (Work.lift r) := by
  cases r with
  | error f => exact throw _
  | ok a => exact pure a

theorem check (r : Except Problem α) : (Work.check r).Alike (Work.check r) := by
  cases r with
  | error p => exact throw p
  | ok a => exact pure a

theorem call (c : Call) : (Work.call c).Alike (Work.call c) :=
  fun _ _ hw => .call hw check

theorem tools {tasks tasks' : List ToolTask} (h : List.Forall₂ ToolTask.Alike tasks tasks') :
    (Work.tools tasks).Alike (Work.tools tasks') :=
  fun _ _ hw => .tools hw h check

theorem attempt {x y : Work α} (h : x.Alike y) : (Work.attempt x).Alike (Work.attempt y) :=
  fun w v hw => (h w v hw).attempt

theorem modify {f : World → World} (h : ∀ w records, (f w).Alike (f { w with records })) :
    (Work.modify f).Alike (Work.modify f) := by
  rintro w v ⟨records, rfl⟩
  exact .done (h w records)

theorem note (plan : Plan) (sink : Sink) (n : Node) (phase : Phase) (message : String) (payload : Value) :
    (Work.note plan n phase message payload).Alike (Work.note { plan with sink } n phase message payload) :=
  fun _ _ hw => .done (hw.note ..)

theorem record (logger : Logger) (level : Level) (message : String) :
    (Work.record logger level message).Alike (Work.record logger level message) :=
  fun _ _ hw => .done (hw.record ..)

theorem resolve (plan : Plan) (sink : Sink) (n : Node) :
    (Work.resolve plan n).Alike (Work.resolve { plan with sink } n) := by
  intro w v hw
  obtain ⟨hworld, hinputs⟩ := hw.resolve plan sink n
  unfold Work.resolve
  cases hr : w.resolve plan n with
  | mk w' r =>
    cases hr' : v.resolve { plan with sink } n with
    | mk v' r' =>
      rw [hr, hr'] at hworld hinputs
      cases hinputs
      cases r with
      | error f => exact .fail hworld
      | ok a => exact .done hworld

theorem ite {c : Prop} [Decidable c] {x x' y y' : Work α} (hx : x.Alike x') (hy : y.Alike y') :
    (if c then x else y).Alike (if c then x' else y') := by
  split
  · exact hx
  · exact hy

/-- A guard: where the condition holds the computation fails, and goes on else. -/
theorem guard {c : Prop} [Decidable c] {p : Problem} {rest rest' : PUnit → Work β}
    (h : ∀ u, (rest u).Alike (rest' u)) :
    (if c then (do let u ← Work.throw p; rest u) else rest PUnit.unit).Alike
      (if c then (do let u ← Work.throw p; rest' u) else rest' PUnit.unit) :=
  ite (bind (throw p) h) (h _)

end Work.Alike
end Workflow.Run

namespace Workflow.Execute

open Run Run.Work

/-! ## What nodes do -/

section

variable (plan : Plan) (sink : Sink)

theorem start_alike (n : Node) : (start plan n).Alike (start { plan with sink } n) := by
  unfold start
  refine .get fun w records => .bind (.note _ _ _ _ _ _) fun _ => .get fun v records => ?_
  exact .bind (.lift _) fun es => .pure _

theorem inputsOr_alike (n : Node) (fallback : Value → Except Fault Value) :
    (inputsOr plan n fallback).Alike (inputsOr { plan with sink } n fallback) := by
  unfold inputsOr
  refine .bind (.resolve _ _ _) fun inputs => .ite ?_ (.pure inputs)
  exact .get fun w records => .ite (.lift _) (.pure inputs)

theorem finish_alike (n : Node) : (finish plan n).Alike (finish { plan with sink } n) := by
  unfold finish
  refine .bind (.current n) fun n => .bind (.lift _) fun type => .bind (inputsOr_alike _ _ _ _) fun inputs => ?_
  refine .bind (.note _ _ _ _ _ _) fun _ => .ite (.pure _) (.bind (.lift _) fun message => .ite ?_ ?_)
  · exact .bind (.pure _) fun message => .get fun w records => .pure _
  · exact .bind (.lift _) fun message => .get fun w records => .pure _

theorem upload_alike (n : Node) : (upload n).Alike (upload n) := by
  unfold upload
  exact .bind (.current n) fun n => .bind (.lift _) fun file => .ite (.pure file) (.throw _)

theorem tool_alike (n : Node) : (tool plan n).Alike (tool { plan with sink } n) := by
  unfold tool
  refine .bind (.resolve _ _ _) fun inputs => .bind (.note _ _ _ _ _ _) fun _ => .bind (.current n) fun n => ?_
  refine .guard fun _ => .bind (.lift _) fun type => .bind (.lift _) fun tool => ?_
  refine .ite ?custom (.ite ?builtIn (.ite (.throw _) (.throw _)))
  case custom =>
    refine .guard fun _ => .bind (.lift _) fun name => .bind (.lift _) fun id => ?_
    exact .bind (.lift _) fun body => .bind (.call _) fun reply => .pure _
  case builtIn =>
    refine .bind (.lift _) fun id => .guard fun _ => .bind (.check _) fun _ => ?_
    exact .bind (.call _) fun reply => .pure _

theorem toolTask_alike (n : Node) (c : ToolCall) :
    (toolTask plan n c).Alike (toolTask { plan with sink } n c) := by
  have hstart : ∀ {w v : World}, w.Alike v → (startTool plan n c w).1.Alike (startTool { plan with sink } n c v).1 ∧
      (startTool plan n c w).2 = (startTool { plan with sink } n c v).2 := by
    rintro w v ⟨records, rfl⟩
    simp only [startTool, World.node, World.look]
    split
    · exact ⟨⟨records, rfl⟩, rfl⟩
    · exact ⟨⟨records, rfl⟩, rfl⟩
    · exact ⟨⟨_, rfl⟩, rfl⟩
  exact ⟨fun hw => (hstart hw).1, fun hw => (hstart hw).2, rfl⟩

theorem converse_alike (n : Node) (turns : Nat) :
    ∀ request checkpoint,
      (converse plan n turns request checkpoint).Alike (converse { plan with sink } n turns request checkpoint) := by
  induction turns with
  | zero => exact fun _ _ => .throw _
  | succ turns ih =>
    intro request checkpoint
    unfold converse
    refine .bind (.check _) fun _ => .bind (.call _) fun reply => .ite (.pure _) ?_
    refine .bind (.note _ _ _ _ _ _) fun _ => .bind (.tools ?_) fun messages => ih _ _
    rw [List.forall₂_map_left_iff, List.forall₂_map_right_iff]
    exact List.forall₂_same.mpr fun c _ => toolTask_alike plan sink n c

theorem model_alike (n : Node) : (model plan n).Alike (model { plan with sink } n) := by
  unfold model
  refine .bind (.current n) fun n => .guard fun _ => .bind (inputsOr_alike _ _ _ _) fun inputs => ?_
  refine .bind (.note _ _ _ _ _ _) fun _ => .get fun w records => .bind (.lift _) fun request => ?_
  exact .bind (converse_alike _ _ _ _ _ _) fun reply => .lift _

theorem sourceEntry_alike (e : Edge NodeId) : (sourceEntry plan e).Alike (sourceEntry { plan with sink } e) := by
  unfold sourceEntry
  refine .get fun w records => .bind (.lift _) fun source => ?_
  have houtput : World.output? { w with records } source.id.key = w.output? source.id.key := rfl
  rw [houtput]
  cases w.output? source.id.key with
  | none => exact .throw _
  | some output => exact .bind (.lift _) fun description => .pure _

theorem sourceEntries_alike (es : List (Edge NodeId)) :
    (sourceEntries plan es).Alike (sourceEntries { plan with sink } es) := by
  induction es with
  | nil => exact .pure []
  | cons e es ih => exact .bind (sourceEntry_alike plan sink e) fun v => .bind ih fun vs => .pure _

theorem transform_alike (n : Node) : (transform plan n).Alike (transform { plan with sink } n) := by
  unfold transform
  refine .bind (.current n) fun n => .bind (.lift _) fun request => .guard fun _ => .guard fun _ => ?_
  refine .bind (sourceEntries_alike _ _ _) fun sources => ?_
  dsimp only
  cases plan.graph.outgoing n.id.key with
  | nil => exact .throw _
  | cons e es =>
    refine .bind (.lift _) fun target => .bind (.current target) fun target => .bind (.note _ _ _ _ _ _) fun _ => ?_
    exact .bind (.check _) fun _ => .bind (.lift _) fun description => .bind (.lift _) fun schema =>
      .bind (.call _) fun reply => .pure _

theorem retrieval_alike (n : Node) : (retrieval plan n).Alike (retrieval { plan with sink } n) := by
  unfold retrieval
  refine .bind (.current n) fun n => .bind (inputsOr_alike _ _ _ _) fun inputs => .bind (.note _ _ _ _ _ _) fun _ => ?_
  refine .bind (.lift _) fun storage => .guard fun _ => .bind (.lift _) fun query => .guard fun _ => ?_
  refine .bind (.lift _) fun topK => .bind (.lift _) fun type => .bind (.lift _) fun filters => ?_
  refine .bind (.note _ _ _ _ _ _) fun _ => .bind (.check _) fun _ => .bind (.call _) fun reply => ?_
  dsimp only
  split
  · exact .bind (.note _ _ _ _ _ _) fun _ => .pure _
  · exact .lift _

theorem selectFrom_alike (n : Node) (context : Entries) (conditions : List Value) :
    ∀ index, (selectFrom plan n context index conditions).Alike
      (selectFrom { plan with sink } n context index conditions) := by
  induction conditions with
  | nil => exact fun index => .bind (.lift _) fun default => .bind (.note _ _ _ _ _ _) fun _ => .pure _
  | cons condition rest ih =>
    intro index
    unfold selectFrom
    refine .bind (.lift _) fun text => .ite ?_ ?_
    · exact .bind (.record _ _ _) fun _ => ih _
    · cases Expr.evaluate text context with
      | error e => exact .bind (.note _ _ _ _ _ _) fun _ => ih _
      | ok v =>
        refine .ite ?_ (ih _)
        exact .bind (.lift _) fun handle => .bind (.lift _) fun label => .bind (.note _ _ _ _ _ _) fun _ => .pure _

theorem condition_alike (n : Node) : (condition plan n).Alike (condition { plan with sink } n) := by
  unfold condition
  exact .get fun w records => .bind (.lift _) fun context => .bind (.lift _) fun conditions =>
    selectFrom_alike _ _ _ _ _ _

theorem applyUpdate_alike (n : Node) (origin : Origin) (u : Update) :
    (applyUpdate plan n origin u).Alike (applyUpdate { plan with sink } n origin u) := by
  cases u with
  | keyless => exact .record _ _ _
  | skip key binding e => exact .note _ _ _ _ _ _
  | set key value =>
    exact .bind (.lift _) fun k => .bind (.modify fun w records => ⟨records, rfl⟩) fun _ => .note _ _ _ _ _ _

theorem applyUpdates_alike (n : Node) (context : Entries) (round : Nat) (updates : List Value) :
    ∀ index, (applyUpdates plan n context round index updates).Alike
      (applyUpdates { plan with sink } n context round index updates) := by
  induction updates with
  | nil => exact fun _ => .pure _
  | cons update rest ih =>
    exact fun index => .bind (.lift _) fun u => .bind (applyUpdate_alike _ _ _ _ u) fun _ => ih _

theorem state_alike (n : Node) : (state plan n).Alike (state { plan with sink } n) := by
  unfold state
  exact .get fun w records => .bind (.lift _) fun context => .bind (.lift _) fun updates =>
    .bind (applyUpdates_alike _ _ _ _ _ _ _) fun _ => .get fun w records => .pure _

theorem shouldExit_alike (n : Node) (expression : Value) :
    (shouldExit plan n expression).Alike (shouldExit { plan with sink } n expression) := by
  unfold shouldExit
  refine .ite (.pure _) (.get fun w records => .bind (.lift _) fun context => ?_)
  split
  · exact .pure _
  · exact .lift _
  · exact .bind (.note _ _ _ _ _ _) fun _ => .pure _

theorem walk_alike (g : Graph) {dispatch dispatch' : Node → Work Value}
    (hdispatch : ∀ n, (dispatch n).Alike (dispatch' n)) (loop : Node) (endHandle : Value) (room : Nat) :
    ∀ seen current, (walk g dispatch loop endHandle room seen current).Alike
      (walk g dispatch' loop endHandle room seen current) := by
  induction room with
  | zero =>
    intro seen current
    unfold walk
    exact .guard fun _ => .throw _
  | succ room ih =>
    intro seen current
    unfold walk
    refine .guard fun _ => .bind (.lift _) fun n => .bind (hdispatch n) fun output => ?_
    cases nextInPass g loop endHandle current n output with
    | error p => exact .throw _
    | ok next =>
      cases next with
      | none => exact .pure _
      | some next => exact ih _ _

theorem passes_alike (n : Node) (s : LoopSettings) {pass pass' : Work Unit} (hpass : pass.Alike pass') (left : Nat) :
    ∀ done, (passes plan n s pass left done).Alike (passes { plan with sink } n s pass' left done) := by
  induction left with
  | zero => exact fun done => .bind (.note _ _ _ _ _ _) fun _ => .pure _
  | succ left ih =>
    intro done
    unfold passes
    refine .bind (.note _ _ _ _ _ _) fun _ => .bind hpass fun _ => .bind (.note _ _ _ _ _ _) fun _ => ?_
    refine .bind (shouldExit_alike _ _ _ _) fun stop => .ite ?_ (ih _)
    exact .bind (.note _ _ _ _ _ _) fun _ => .pure _

theorem loop_alike {dispatch dispatch' : Node → Work Value} (hdispatch : ∀ n, (dispatch n).Alike (dispatch' n))
    (n : Node) : (loop plan dispatch n).Alike (loop { plan with sink } dispatch' n) := by
  unfold loop
  refine .bind (.current n) fun n => .bind (.lift _) fun s => .bind (.lift _) fun startHandle => ?_
  cases plan.graph.edgeAt? n.id.key startHandle with
  | none => exact .bind (.note _ _ _ _ _ _) fun _ => .pure _
  | some e =>
    exact passes_alike plan sink n s (.bind (.lift _) fun endHandle => walk_alike _ hdispatch _ _ _ _ _) _ _

theorem execute_alike {work work' : Work Value} (hwork : work.Alike work') (n : Node) :
    (execute plan work n).Alike (execute { plan with sink } work' n) := by
  unfold execute
  refine .get fun w records => .bind (.note _ _ _ _ _ _) fun _ => .get fun v records => ?_
  refine .bind (.attempt hwork) fun r => ?_
  rcases r with (e | p) | output
  · exact .bind (.note _ _ _ _ _ _) fun _ => .rethrow _
  · exact .bind (.note _ _ _ _ _ _) fun _ => .rethrow _
  · exact .get fun w records => .bind (.note _ _ _ _ _ _) fun _ => .pure _

theorem dispatchWith_alike {perform perform' : Node → Work Value} (hperform : ∀ n, (perform n).Alike (perform' n))
    (n : Node) : (dispatchWith plan perform n).Alike (dispatchWith { plan with sink } perform' n) := by
  unfold dispatchWith
  refine .guard fun _ => .bind (execute_alike plan sink (hperform n) n) fun output => ?_
  exact .bind (.modify fun w records => ⟨records, rfl⟩) fun _ => .pure _

theorem perform_alike (nesting : Nat) :
    ∀ n, (perform plan nesting n).Alike (perform { plan with sink } nesting n) := by
  induction nesting using Nat.strongRecOn with
  | _ nesting ih =>
    intro n
    rw [perform_eq, perform_eq]
    cases n.kind with
    | start => exact start_alike plan sink n
    | tool => exact tool_alike plan sink n
    | llm => exact model_alike plan sink n
    | transformer => exact transform_alike plan sink n
    | finish => exact finish_alike plan sink n
    | rag => exact retrieval_alike plan sink n
    | condition => exact condition_alike plan sink n
    | state => exact state_alike plan sink n
    | upload => exact upload_alike n
    | loop =>
      cases nesting with
      | zero => exact .throw _
      | succ nesting => exact loop_alike plan sink (dispatchWith_alike plan sink (ih nesting nesting.lt_succ_self)) n

/-- What a node does, and what comes of it, does not hang on the sink. -/
theorem dispatch_alike (n : Node) : (dispatch plan n).Alike (dispatch { plan with sink } n) :=
  dispatchWith_alike plan sink (perform_alike plan sink plan.nesting) n

end
end Workflow.Execute

namespace Workflow.Run

variable {σ : Type}

/-! ## Machines -/

/-- The task that an event is about. -/
def Event.task : Event → Nat
  | .start t => t
  | .pass t => t
  | .answer t _ => t
  | .ended t _ => t
  | .settled t _ _ => t

/-- The tasks are there for the same, with computations that are alike. -/
inductive Job.Alike : Job → Job → Prop
  | visit (id : NodeId) (parent : Option Nat) : Alike (.visit id parent) (.visit id parent)
  | whole {work work' : Work Value} (h : work.Alike work') : Alike (.whole work) (.whole work')
  | tool (parent index : Nat) {task task' : ToolTask} (h : task.Alike task') :
      Alike (.tool parent index task) (.tool parent index task')

/-- The tasks are equally far, and what they wait to do is alike. -/
inductive Stage.Alike : Stage → Stage → Prop
  | queued : Alike .queued .queued
  | parked : Alike .parked .parked
  | calling {next next' : Except Problem Reply → World → Step Value}
      (h : ∀ r w v, w.Alike v → (next r w).Alike (next' r v)) : Alike (.calling next) (.calling next')
  | gathering (slots : List (Option Value)) {next next' : Except Problem (List Value) → World → Step Value}
      (h : ∀ r w v, w.Alike v → (next r w).Alike (next' r v)) : Alike (.gathering slots next) (.gathering slots next')
  | waiting (left : Nat) : Alike (.waiting left) (.waiting left)
  | over : Alike .over .over

theorem Stage.Alike.unfilled {tasks tasks' : List ToolTask} (h : List.Forall₂ ToolTask.Alike tasks tasks')
    {next next' : Except Problem (List Value) → World → Step Value}
    (hnext : ∀ r w v, w.Alike v → (next r w).Alike (next' r v)) :
    Stage.Alike (.gathering (tasks.map fun _ => none) next) (.gathering (tasks'.map fun _ => none) next') := by
  rw [List.map_const', List.map_const', ← h.length_eq]
  exact .gathering _ hnext

/-- The tasks are alike in what they are for and in how far they are. -/
structure Task.Alike (task task' : Task) : Prop where
  job : task.job.Alike task'.job
  stage : task.stage.Alike task'.stage

/-- The machines differ in the records of their worlds at most, and their tasks are
alike one by one. -/
def Machine.Alike (m m' : Machine σ) : Prop :=
  ∃ records tasks, List.Forall₂ Task.Alike m.tasks tasks ∧ m' = { m with world := { m.world with records }, tasks }

/-- The setups differ in the sink at most, and what nodes do is alike. -/
structure Setup.Alike (s s' : Setup σ) : Prop where
  plan : ∃ sink, s'.plan = { s.plan with sink }
  dispatch : ∀ n, (s.dispatch n).Alike (s'.dispatch n)
  serve : s'.serve = s.serve

namespace Machine.Alike

variable {m m' : Machine σ}

theorem world (h : m.Alike m') : m.world.Alike m'.world := by
  obtain ⟨records, tasks, htasks, rfl⟩ := h
  exact ⟨records, rfl⟩

theorem joins (h : m.Alike m') : m'.joins = m.joins := by
  obtain ⟨records, tasks, htasks, rfl⟩ := h
  rfl

/-- Worlds that are alike may take the places of those of the machines. -/
theorem withWorld (h : m.Alike m') {w v : World} (hw : w.Alike v) :
    Machine.Alike { m with world := w } { m' with world := v } := by
  obtain ⟨records, tasks, htasks, rfl⟩ := h
  obtain ⟨records, rfl⟩ := hw
  exact ⟨records, tasks, htasks, rfl⟩

/-- Both machines have a task at a place, or neither has. -/
theorem taskAt (h : m.Alike m') (t : Nat) :
    (m.tasks[t]? = none ∧ m'.tasks[t]? = none) ∨
      ∃ task task', m.tasks[t]? = some task ∧ m'.tasks[t]? = some task' ∧ task.Alike task' := by
  obtain ⟨records, tasks, htasks, rfl⟩ := h
  dsimp only
  generalize m.tasks = ts at *
  induction htasks generalizing t with
  | nil => exact .inl ⟨rfl, rfl⟩
  | cons htask _ ih =>
    cases t with
    | zero => exact .inr ⟨_, _, rfl, rfl, htask⟩
    | succ t => exact ih t

/-! ### Small changes -/

theorem setStage (h : m.Alike m') (t : Nat) {stage stage' : Stage} (hstage : stage.Alike stage') :
    (m.setStage t stage).Alike (m'.setStage t stage') := by
  obtain ⟨records, tasks, htasks, rfl⟩ := h
  refine ⟨records, _, ?_, rfl⟩
  unfold Machine.setStage
  dsimp only
  generalize m.tasks = ts at *
  induction htasks generalizing t with
  | nil => simp
  | cons htask htasks ih =>
    cases t with
    | zero => exact .cons ⟨htask.job, hstage⟩ htasks
    | succ t => exact .cons htask (ih t)

theorem addTasks (h : m.Alike m') {jobs jobs' : List Job} (hjobs : List.Forall₂ Job.Alike jobs jobs') :
    (m.addTasks jobs).Alike (m'.addTasks jobs') := by
  obtain ⟨records, tasks, htasks, rfl⟩ := h
  unfold Machine.addTasks
  dsimp only
  rw [← hjobs.length_eq, ← htasks.length_eq]
  refine ⟨records, _, List.rel_append htasks ?_, rfl⟩
  rw [List.forall₂_map_left_iff, List.forall₂_map_right_iff]
  exact hjobs.imp fun _ _ hjob => ⟨hjob, .queued⟩

theorem push (h : m.Alike m') (es : List Event) : (m.push es).Alike (m'.push es) := by
  obtain ⟨records, tasks, htasks, rfl⟩ := h
  exact ⟨records, tasks, htasks, rfl⟩

theorem record (h : m.Alike m') (level : Level) (message : String) :
    (m.record level message).Alike (m'.record level message) :=
  h.withWorld (h.world.record ..)

theorem warn (h : m.Alike m') (plan : Plan) (sink : Sink) (node : Value) (kind message : String) (payload : Value) :
    (m.warn plan node kind message payload).Alike (m'.warn { plan with sink } node kind message payload) :=
  h.withWorld (h.world.note ..)

theorem sleep (h : m.Alike m') (t delay : Nat) (outcome : Except Problem Reply) :
    (m.sleep t delay outcome).Alike (m'.sleep t delay outcome) := by
  obtain ⟨records, tasks, htasks, rfl⟩ := h
  exact ⟨records, tasks, htasks, rfl⟩

theorem addActive (h : m.Alike m') (n : Int) : (m.addActive n).Alike (m'.addActive n) := by
  obtain ⟨records, tasks, htasks, rfl⟩ := h
  exact ⟨records, tasks, htasks, rfl⟩

/-! ### Gates -/

theorem setJoin (h : m.Alike m') (j : Join) : (m.setJoin j).Alike (m'.setJoin j) := by
  obtain ⟨records, tasks, htasks, rfl⟩ := h
  unfold Machine.setJoin
  dsimp only
  split
  · exact ⟨records, tasks, htasks, rfl⟩
  · exact ⟨records, tasks, htasks, rfl⟩

theorem wake (h : m.Alike m') (j : Join) : (m.wake j).Alike (m'.wake j) := by
  unfold Machine.wake
  split
  · exact (h.setJoin _).push _
  · exact h.setJoin j

theorem abandon (h : m.Alike m') (plan : Plan) (sink : Sink) (j : Join) :
    (m.abandon plan j).Alike (m'.abandon { plan with sink } j) := by
  unfold Machine.abandon
  split
  · exact h
  · exact ((h.record _ _).warn _ _ _ _ _ _).wake _

theorem checkStalled (h : m.Alike m') (plan : Plan) (sink : Sink) :
    (m.checkStalled plan).Alike (m'.checkStalled { plan with sink }) := by
  have hfold : ∀ (js : List Join) {m m' : Machine σ}, m.Alike m' →
      (js.foldl (Machine.abandon plan) m).Alike (js.foldl (Machine.abandon { plan with sink }) m') := by
    intro js
    induction js with
    | nil => exact fun h => h
    | cons j js ih => exact fun h => ih (h.abandon plan sink j)
  have hactive : m'.active = m.active := by
    obtain ⟨records, tasks, htasks, rfl⟩ := h
    rfl
  unfold Machine.checkStalled
  rw [hactive, h.joins]
  split
  · exact h
  · exact hfold _ h

/-! ### Visits -/

theorem conclude (h : m.Alike m') (failure : Option Failure) : (m.conclude failure).Alike (m'.conclude failure) := by
  obtain ⟨records, tasks, htasks, rfl⟩ := h
  cases failure with
  | some f => exact ⟨records, tasks, htasks, rfl⟩
  | none => exact ⟨_, tasks, htasks, rfl⟩

theorem endVisit (h : m.Alike m') (plan : Plan) (sink : Sink) (t : Nat) (failure : Option Failure) :
    (m.endVisit plan t failure).Alike (m'.endVisit { plan with sink } t failure) := by
  have hstalled := ((h.setStage t .over).addActive (-1)).checkStalled plan sink
  unfold Machine.endVisit
  dsimp only
  obtain ⟨hnone, hnone'⟩ | ⟨⟨job, stage⟩, ⟨job', stage'⟩, hsome, hsome', htask⟩ := hstalled.taskAt t
  · rw [hnone, hnone']
    exact hstalled.conclude failure
  · rw [hsome, hsome']
    cases htask.job with
    | visit id parent =>
      cases parent with
      | none => exact hstalled.conclude failure
      | some parent => exact hstalled.push _
    | whole => exact hstalled.conclude failure
    | tool => exact hstalled.conclude failure

theorem fanOut (h : m.Alike m') (t : Nat) (targets : List NodeId) :
    (m.fanOut t targets).Alike (m'.fanOut t targets) := by
  refine ((h.setStage t (.waiting _)).addActive _).addTasks ?_
  rw [List.forall₂_map_left_iff, List.forall₂_map_right_iff]
  exact List.forall₂_same.mpr fun id _ => .visit id _

theorem afterNode (h : m.Alike m') (plan : Plan) (sink : Sink) (t : Nat) (id : NodeId) (n : Node) (output : Value) :
    (m.afterNode plan t id n output).Alike (m'.afterNode { plan with sink } t id n output) := by
  have hresult : Machine.Alike { m with result := output } { m' with result := output } := by
    obtain ⟨records, tasks, htasks, rfl⟩ := h
    exact ⟨records, tasks, htasks, rfl⟩
  have hlook : ∀ v, m'.world.look v = m.world.look v := by
    obtain ⟨records, tasks, htasks, rfl⟩ := h
    exact fun _ => rfl
  unfold Machine.afterNode
  dsimp only
  rw [hlook]
  split
  · exact hresult.endVisit plan sink t none
  split
  · split
    · exact h.fanOut t _
    · exact ((h.record _ _).warn _ _ _ _ _ _).endVisit plan sink t none
  · split
    · exact (h.record _ _).endVisit plan sink t none
    · exact h.fanOut t _

/-! ### Work -/

theorem finishWork (h : m.Alike m') (plan : Plan) (sink : Sink) (t : Nat) (outcome : Except Failure Value) :
    (m.finishWork plan t outcome).Alike (m'.finishWork { plan with sink } t outcome) := by
  have hover : Machine.Alike { m.setStage t .over with outcome := some outcome }
      { m'.setStage t .over with outcome := some outcome } := by
    obtain ⟨records, tasks, htasks, heq⟩ := h.setStage t .over
    exact ⟨records, tasks, htasks, by rw [heq]⟩
  unfold Machine.finishWork
  obtain ⟨hnone, hnone'⟩ | ⟨⟨job, stage⟩, ⟨job', stage'⟩, hsome, hsome', htask⟩ := h.taskAt t
  · rw [hnone, hnone']
    exact hover
  · rw [hsome, hsome']
    cases htask.job with
    | visit id parent =>
      cases outcome with
      | error f => exact h.endVisit plan sink t (some f)
      | ok v =>
        dsimp only
        split
        · exact h.afterNode plan sink t id _ v
        · exact h.endVisit plan sink t none
    | whole => exact hover
    | tool => exact hover

variable {s s' : Setup σ}

/-- A call is served the same, and leaves machines that are alike. -/
theorem serve (h : m.Alike m') (hs : s.Alike s') {w v : World} (hw : w.Alike v) (c : Call) :
    s'.serve m'.services v.clock c = s.serve m.services w.clock c := by
  obtain ⟨records, tasks, htasks, rfl⟩ := h
  obtain ⟨records, rfl⟩ := hw
  rw [hs.serve]

theorem afterCall (h : m.Alike m') {w v : World} (hw : w.Alike v) (services : σ) :
    Machine.Alike { m with world := w, services } { m' with world := v, services } := by
  obtain ⟨records, tasks, htasks, rfl⟩ := h
  obtain ⟨records, rfl⟩ := hw
  exact ⟨records, tasks, htasks, rfl⟩

theorem jobs_alike (t : Nat) {tasks tasks' : List ToolTask} (h : List.Forall₂ ToolTask.Alike tasks tasks')
    (first : Nat) :
    List.Forall₂ Job.Alike (tasks.mapIdx fun i task => .tool t (i + first) task)
      (tasks'.mapIdx fun i task => .tool t (i + first) task) := by
  induction h generalizing first with
  | nil => exact .nil
  | cons htask _ ih =>
    simp only [List.mapIdx_cons, Nat.add_assoc]
    exact .cons (.tool t _ htask) (ih _)

theorem proceed (hs : s.Alike s') (t : Nat) {x y : Step Value} (hxy : x.Alike y) (h : m.Alike m') :
    (Machine.proceed s t x m).Alike (Machine.proceed s' t y m') := by
  obtain ⟨sink, hplan⟩ := hs.plan
  induction hxy generalizing m m' with
  | done hw =>
    unfold Machine.proceed
    rw [hplan]
    exact (h.withWorld hw).finishWork s.plan sink t _
  | fail hw =>
    unfold Machine.proceed
    rw [hplan]
    exact (h.withWorld hw).finishWork s.plan sink t _
  | @call w v c next next' hw hnext ih =>
    unfold Machine.proceed
    rw [h.serve hs hw c]
    rcases s.serve m.services w.clock c with ⟨services, served⟩
    have hserved := hw.withRecords served.records
    dsimp only
    split
    · exact ih _ _ _ hserved (h.afterCall hserved services)
    · exact ((h.afterCall hserved services).sleep t _ _).setStage t (.calling hnext)
  | @tools w v tasks tasks' next next' hw htasks hnext ih =>
    cases htasks with
    | nil =>
      unfold Machine.proceed
      exact ih _ _ _ hw h
    | cons htask htasks =>
      have htasks := List.Forall₂.cons htask htasks
      unfold Machine.proceed
      exact ((h.withWorld hw).setStage t (.unfilled htasks hnext)).addTasks (jobs_alike t htasks 0)

theorem enter (hs : s.Alike s') (h : m.Alike m') (t : Nat) (id : NodeId) :
    (m.enter s t id).Alike (m'.enter s' t id) := by
  obtain ⟨sink, hplan⟩ := hs.plan
  unfold Machine.enter
  rw [hplan]
  dsimp only
  split
  · exact h.endVisit s.plan sink t none
  · refine proceed hs t (hs.dispatch _ _ _ h.world) ?_
    obtain ⟨records, tasks, htasks, rfl⟩ := h
    exact ⟨records, tasks, htasks, rfl⟩

theorem addParked (h : m.Alike m') (t : Nat) (id : NodeId) : (m.addParked t id).Alike (m'.addParked t id) := by
  obtain ⟨records, tasks, htasks, heq⟩ := h.setStage t .parked
  unfold Machine.addParked
  rw [h.joins]
  exact ⟨records, tasks, htasks, by rw [heq]⟩

theorem passGate (h : m.Alike m') (plan : Plan) (sink : Sink) (t : Nat) (id : NodeId) :
    (m.passGate plan t id).Alike (m'.passGate { plan with sink } t id) := by
  have hactive := h.addActive 1
  unfold Machine.passGate
  dsimp only
  rw [hactive.joins]
  split
  · exact (hactive.record _ _).endVisit plan sink t none
  · exact hactive.endVisit plan sink t none

theorem park (h : m.Alike m') (plan : Plan) (sink : Sink) (t : Nat) (id : NodeId) :
    (m.park plan t id).Alike (m'.park { plan with sink } t id) := by
  have hstalled := (h.addActive (-1)).checkStalled plan sink
  unfold Machine.park Machine.isOpen
  dsimp only
  rw [hstalled.joins]
  split
  · exact hstalled.passGate plan sink t id
  · exact hstalled.addParked t id

theorem arrive (hs : s.Alike s') (h : m.Alike m') (t : Nat) (id : NodeId) (required : Nat) :
    (m.arrive s t id required).Alike (m'.arrive s' t id required) := by
  obtain ⟨sink, hplan⟩ := hs.plan
  unfold Machine.arrive Machine.join
  rw [h.joins, hplan]
  dsimp only
  split
  · exact enter hs ((h.wake _).record _ _) t id
  · exact (h.setJoin _).park s.plan sink t id

theorem beginVisit (hs : s.Alike s') (h : m.Alike m') (t : Nat) (id : NodeId) (gated : Bool) :
    (m.beginVisit s t id gated).Alike (m'.beginVisit s' t id gated) := by
  obtain ⟨sink, hplan⟩ := hs.plan
  have hvisited : m'.visited = m.visited := by
    obtain ⟨records, tasks, htasks, rfl⟩ := h
    rfl
  unfold Machine.beginVisit
  rw [hvisited, hplan]
  dsimp only
  split
  · exact h.endVisit s.plan sink t none
  split
  · exact h.endVisit s.plan sink t _
  · split
    · exact arrive hs h t id _
    · exact enter hs h t id

/-! ### Tool calls -/

theorem settle (h : m.Alike m') (t parent index : Nat) (outcome : Except Problem Value) :
    (m.settle t parent index outcome).Alike (m'.settle t parent index outcome) :=
  (h.setStage t .over).push _

theorem beginTool (hs : s.Alike s') (h : m.Alike m') (t parent index : Nat) {task task' : ToolTask}
    (htask : task.Alike task') : (m.beginTool s t parent index task).Alike (m'.beginTool s' t parent index task') := by
  have hworld := htask.world h.world
  have hcall := htask.call h.world
  unfold Machine.beginTool
  generalize task.start m.world = started at *
  generalize task'.start m'.world = started' at *
  obtain ⟨w, r⟩ := started
  obtain ⟨v, r'⟩ := started'
  cases hcall
  cases r with
  | error p => exact (h.withWorld hworld).settle t parent index _
  | ok c =>
    simp only [h.serve hs hworld c, htask.finish]
    have hserved := hworld.withRecords (s.serve m.services w.clock c).2.records
    split
    · exact (h.afterCall hserved _).settle t parent index _
    · exact (h.afterCall hserved _).sleep t _ _

/-! ### Events -/

/-- An event that is about no task changes nothing. -/
theorem handle_of_none (s : Setup σ) {m : Machine σ} {e : Event} (h : m.tasks[e.task]? = none) :
    m.handle s e = m := by
  cases e <;> simp only [Machine.handle, Event.task] at h ⊢ <;> rw [h]

theorem handle (hs : s.Alike s') (h : m.Alike m') (e : Event) : (m.handle s e).Alike (m'.handle s' e) := by
  obtain ⟨sink, hplan⟩ := hs.plan
  obtain ⟨hnone, hnone'⟩ | ⟨⟨job, stage⟩, ⟨job', stage'⟩, hsome, hsome', hjob, hstage⟩ := h.taskAt e.task
  · rw [handle_of_none s hnone, handle_of_none s' hnone']
    exact h
  cases e with
  | start t =>
    simp only [Machine.handle, Event.task] at hsome hsome' ⊢
    rw [hsome, hsome']
    cases hjob with
    | visit id parent => exact beginVisit hs h t id _
    | whole hwork => exact proceed hs t (hwork _ _ h.world) h
    | tool parent index htask => exact beginTool hs h t parent index htask
  | pass t =>
    simp only [Machine.handle, Event.task] at hsome hsome' ⊢
    rw [hsome, hsome', hplan]
    cases hjob with
    | visit id parent => exact h.passGate s.plan sink t id
    | _ => exact h
  | answer t outcome =>
    simp only [Machine.handle, Event.task] at hsome hsome' ⊢
    rw [hsome, hsome']
    cases hjob with
    | tool parent index htask =>
      dsimp only
      rw [htask.finish]
      exact h.settle t parent index _
    | _ =>
      cases hstage with
      | calling hnext => exact proceed hs t (hnext _ _ _ h.world) h
      | _ => exact h
  | ended t failure =>
    simp only [Machine.handle, Event.task] at hsome hsome' ⊢
    rw [hsome, hsome', hplan]
    cases hstage with
    | waiting left =>
      dsimp only
      split
      · exact (h.addActive 1).endVisit s.plan sink t failure
      · exact h.setStage t (.waiting _)
    | _ => exact h
  | settled t index outcome =>
    simp only [Machine.handle, Event.task] at hsome hsome' ⊢
    rw [hsome, hsome']
    cases hstage with
    | gathering slots hnext =>
      cases outcome with
      | error p => exact proceed hs t (hnext _ _ _ h.world) h
      | ok v =>
        dsimp only
        split
        · exact proceed hs t (hnext _ _ _ h.world) h
        · exact h.setStage t (.gathering _ hnext)
    | _ => exact h

/-- Machines that are alike take the same step, if they take one. -/
theorem step (hs : s.Alike s') (h : m.Alike m') :
    (m.step s = none ∧ m'.step s' = none) ∨
      ∃ n n', m.step s = some n ∧ m'.step s' = some n' ∧ n.Alike n' := by
  obtain ⟨records, tasks, htasks, rfl⟩ := h
  unfold Machine.step
  dsimp only
  split
  · exact .inl ⟨rfl, rfl⟩
  split
  · refine .inr ⟨_, _, rfl, rfl, handle hs ?_ _⟩
    exact ⟨records, tasks, htasks, rfl⟩
  · split
    · refine .inr ⟨_, _, rfl, rfl, handle hs ?_ _⟩
      exact ⟨records, tasks, htasks, rfl⟩
    · exact .inl ⟨rfl, rfl⟩

/-- Machines that are alike stay so. -/
theorem run (hs : s.Alike s') (fuel : Nat) {m m' : Machine σ} (h : m.Alike m') :
    (m.run s fuel).Alike (m'.run s' fuel) := by
  induction fuel generalizing m m' with
  | zero => exact h
  | succ fuel ih =>
    unfold Machine.run
    obtain ⟨hstep, hstep'⟩ | ⟨n, n', hstep, hstep', hn⟩ := h.step hs
    · rw [hstep, hstep']
      exact h
    · rw [hstep, hstep']
      exact ih hn

end Machine.Alike

/-! ## Runs -/

/-- The collaborators, with every call written down as it is made: the second and
what is called for. -/
def Services.noted (services : Services σ) : Services (σ × List (Nat × Call)) where
  state := (services.state, [])
  serve := fun (state, calls) now c =>
    let (state, served) := services.serve state now c
    ((state, calls ++ [(now, c)]), served)

/-- Runs that differ in the sink leave the same behind, up to the records. -/
theorem runGraph_alike (plan : Plan) (sink : Sink) (services : Services σ) (fuel : Nat) (w : World) :
    ∃ records, runGraph { plan with sink } services fuel w =
      { runGraph plan services fuel w with world := { (runGraph plan services fuel w).world with records } } := by
  unfold runGraph
  dsimp only
  split
  · exact ⟨w.records, rfl⟩
  split
  · exact ⟨_, rfl⟩
  · next start _ _ inputs _ =>
    let fixed : Plan := { plan with inputs := inputs.adopt .inputs }
    let before : Setup σ := ⟨fixed, Execute.dispatch fixed, services.serve⟩
    let after : Setup σ := ⟨{ fixed with sink }, Execute.dispatch { fixed with sink }, services.serve⟩
    have hsetup : before.Alike after := ⟨⟨sink, rfl⟩, Execute.dispatch_alike fixed sink, rfl⟩
    have hbegin : (Machine.begin fixed start w.reset services.state).Alike
        (Machine.begin { fixed with sink } start w.reset services.state) :=
      ⟨_, _, .cons ⟨.visit _ _, .queued⟩ .nil, rfl⟩
    obtain ⟨records, tasks, _, heq⟩ := hbegin.run hsetup fuel
    refine ⟨records, ?_⟩
    change Machine.ended (Machine.run after fuel _) = _
    rw [heq]
    rfl

/-- The sink of the log only observes: whatever becomes of the entries that are sent
to it, a run has the same result or failure, leaves the same outputs, state and log
behind, with values in them that look the same, makes the same calls in the same
order and at the same seconds, and ends at the same time. -/
theorem sink_only_observes (plan : Plan) (services : Services σ) (sink sink' : Sink) (fuel : Nat) (w : World) :
    let e := runGraph { plan with sink } services.noted fuel w
    let e' := runGraph { plan with sink := sink' } services.noted fuel w
    e'.outcome = e.outcome ∧ e'.world.lookEntries e'.world.outputs = e.world.lookEntries e.world.outputs ∧
      e'.world.lookEntries e'.world.state = e.world.lookEntries e.world.state ∧ e'.world.log = e.world.log ∧
      (∀ v, e'.world.look v = e.world.look v) ∧ e'.services = e.services ∧ e'.world.clock = e.world.clock := by
  intro e e'
  obtain ⟨records, heq⟩ := runGraph_alike { plan with sink } sink' services.noted fuel w
  have heq : e' = { e with world := { e.world with records } } := heq
  rw [heq]
  exact ⟨rfl, rfl, rfl, rfl, fun _ => rfl, rfl, rfl⟩

end Workflow.Run
