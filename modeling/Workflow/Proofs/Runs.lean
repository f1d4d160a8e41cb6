import Workflow.Proofs.Gates
import Workflow.Proofs.Outputs

/-!
# Workflow.Proofs.Runs

Runs of a graph, state by state.

A `Launch` is a run that gets under way: the graph has its one start node, and
the initial inputs make a mapping.  `Launch.state` is the machine after so many
steps, and `runGraph` reads its answer off such a state (`runGraph_eq`).

`Sound` gathers what holds of every state of every run, whatever collaborators
answer and however late (`Launch.sound`).
-/

namespace Workflow.Run

open Machine

variable {σ : Type}

/-! ## Steps in a row -/

namespace Machine

theorem run_succ (s : Setup σ) : ∀ (k : Nat) (m : Machine σ),
    run s (k + 1) m = (step s (run s k m)).getD (run s k m)
  | 0, m => by
      unfold run
      cases step s m <;> rfl
  | k + 1, m => by
      cases hstep : step s m with
      | none =>
          have hhalt : ∀ fuel, run s fuel m = m := by
            intro fuel
            cases fuel with
            | zero => rfl
            | succ fuel =>
                unfold run
                rw [hstep]
          rw [hhalt, hhalt, hstep]
          rfl
      | some m' =>
          have hfirst : ∀ fuel, run s (fuel + 1) m = run s fuel m' := fun fuel => by
            rw [run, hstep]
          rw [hfirst, hfirst, run_succ s k m']

/-- A run that has come to a halt stays where it is. -/
theorem run_of_halt {s : Setup σ} {m : Machine σ} {k : Nat} (h : step s (run s k m) = none) :
    ∀ {fuel}, k ≤ fuel → run s fuel m = run s k m := by
  intro fuel hle
  induction fuel, hle using Nat.le_induction with
  | base => rfl
  | succ fuel _ ih =>
      rw [run_succ, ih, h]
      rfl

end Machine

/-! ## Launches -/

/-- A run of a graph that gets under way. -/
structure Launch (σ : Type) where
  plan : Plan
  services : Services σ
  world : World
  start : Node
  inputs : Value
  startNode_eq : plan.graph.startNode = .ok start
  inputs_eq : initialInputs plan.inputs = .ok inputs

namespace Launch

/-- The plan with the initial inputs as the run hands them out. -/
def given (l : Launch σ) : Plan := { l.plan with inputs := l.inputs.adopt .inputs }

/-- What the machine is run with. -/
def setup (l : Launch σ) : Setup σ := ⟨l.given, Execute.dispatch l.given, l.services.serve⟩

/-- The machine as the run begins. -/
def first (l : Launch σ) : Machine σ := Machine.begin l.given l.start l.world.reset l.services.state

/-- The machine after at most the given number of steps. -/
def state (l : Launch σ) (k : Nat) : Machine σ := l.first.run l.setup k

/-- The graph that is run. -/
def graph (l : Launch σ) : Graph := l.plan.graph

theorem state_zero (l : Launch σ) : l.state 0 = l.first := rfl

theorem state_succ (l : Launch σ) (k : Nat) : l.state (k + 1) = (step l.setup (l.state k)).getD (l.state k) :=
  run_succ l.setup k l.first

/-- What a run answers is read off its last state. -/
theorem runGraph_eq (l : Launch σ) (fuel : Nat) :
    runGraph l.plan l.services fuel l.world = (l.state fuel).ended := by
  unfold runGraph
  rw [l.startNode_eq]
  dsimp only
  rw [l.inputs_eq]
  rfl

/-- What holds at first and is preserved by every step holds in every state. -/
theorem state_induct (l : Launch σ) {I : Machine σ → Prop} (hfirst : I l.first)
    (hstep : ∀ {m m'}, step l.setup m = some m' → I m → I m') (k : Nat) : I (l.state k) := by
  induction k with
  | zero => exact hfirst
  | succ k ih =>
      rw [state_succ]
      cases h : step l.setup (l.state k) with
      | none => exact ih
      | some m' => exact hstep h ih

end Launch

/-! ## What holds of every state -/

/-- The invariants of the scheduler. -/
structure Sound (s : Setup σ) (start : Node) (h : Hand) (m : Machine σ) : Prop where
  shape : Shape s.plan.graph start h m
  tokens : Tokens h m
  ran : Ran h m
  keeping : Keeping h m
  gated : Gated s.plan.graph h m

section

variable {s : Setup σ} {start : Node} {h h' : Hand} {m m' : Machine σ} {e : Event}

theorem Takes.tasks (htakes : Takes m e m') : m'.tasks = m.tasks := by
  cases htakes <;> rfl

theorem Takes.joins (htakes : Takes m e m') : m'.joins = m.joins := by
  cases htakes <;> rfl

theorem Takes.visited (htakes : Takes m e m') : m'.visited = m.visited := by
  cases htakes <;> rfl

theorem Takes.active (htakes : Takes m e m') : m'.active = m.active := by
  cases htakes <;> rfl

theorem Takes.outputs (htakes : Takes m e m') : m'.world.outputs = m.world.outputs := by
  cases htakes <;> rfl

theorem Takes.log (htakes : Takes m e m') : m'.world.log = m.world.log := by
  cases htakes <;> rfl

theorem Takes.outcome (htakes : Takes m e m') : m.outcome = none ∧ m'.outcome = none := by
  cases htakes with
  | next hnone => exact ⟨hnone, hnone⟩
  | tick hnone => exact ⟨hnone, hnone⟩

theorem Takes.jobs (htakes : Takes m e m') : m'.jobs = m.jobs := congrArg (List.map _) htakes.tasks

theorem Takes.counts (htakes : Takes m e m') (t : Nat) :
    starts (.holds e) m' t = starts .idle m t ∧ passes (.holds e) m' t = passes .idle m t := by
  rw [starts_holds, passes_holds]
  cases htakes with
  | @next _ _ _ hready =>
      rw [starts_idle, starts_idle, passes_idle, passes_idle, hready, List.countP_cons, List.countP_cons]
      constructor
      · cases e.starts t <;> simp [Nat.add_comm]
      · cases e.passes t
        · simp
        · simp
          omega
  | tick _ hready =>
      constructor
      · exact Nat.zero_add _
      · exact Nat.zero_add _

/-- Taking an event in hand leaves the tree as it is. -/
theorem Shape.takes {g : Graph} (htakes : Takes m e m') (hshape : Shape g start .idle m) :
    Shape g start (.holds e) m' := by
  refine ⟨?_, Plain.of_tasks hshape.plain htakes.tasks, nofun⟩
  rw [htakes.jobs]
  exact hshape.tree

/-- The event in hand counts as much as it did in the queue. -/
theorem Tokens.takes (htakes : Takes m e m') (htokens : Tokens .idle m) : Tokens (.holds e) m' := by
  have hvisits : ∀ {t id parent stage}, m'.Visits t id parent stage → m.Visits t id parent stage := fun h =>
    h.of_tasks htakes.tasks.symm
  refine ⟨?_, fun hu => ?_, fun hu => ?_, fun {t} hle => ?_⟩
  · rw [htakes.joins]
    exact htokens.keys
  · rw [(htakes.counts _).1]
    exact htokens.start (hvisits hu)
  · rw [(htakes.counts _).2]
    exact htokens.pass (hvisits hu)
  · rw [(htakes.counts t).1, (htakes.counts t).2]
    rw [htakes.tasks] at hle
    exact htokens.fresh hle

theorem Ran.takes (htakes : Takes m e m') (hran : Ran .idle m) : Ran (.holds e) m' :=
  hran.same htakes.visited (fun hu => hu.of_tasks htakes.tasks nofun) fun hf => htakes.jobs ▸ hf

theorem Keeping.takes (htakes : Takes m e m') (hkeeping : Keeping .idle m) : Keeping (.holds e) m' := by
  refine hkeeping.of_tasks nofun htakes.tasks fun hk => ?_
  unfold HasOutput
  rw [htakes.outputs]
  exact hk

theorem Gated.takes {g : Graph} (htakes : Takes m e m') (hgated : Gated g .idle m) : Gated g (.holds e) m' := by
  have htasks := htakes.tasks
  constructor
  case outcome => exact fun _ => htakes.outcome.2
  case active =>
    rw [htakes.active, running_of_tasks htasks]
    exact hgated.active
  case rooted =>
    intro id hroot
    rw [htakes.joins, htasks]
    exact hgated.rooted (hroot.of_tasks htasks.symm)
  case gates =>
    rw [htakes.joins, htakes.visited]
    exact hgated.gates
  case reached =>
    rw [htakes.joins]
    exact hgated.reached
  case arrivals =>
    intro k r hk hr hmany
    rw [htakes.visited] at hk
    rw [htakes.joins, begun_of_tasks htasks]
    exact hgated.arrivals hk hr hmany
  case idle =>
    rw [htakes.joins, htakes.active]
    exact hgated.idle
  case stalled =>
    rw [htakes.joins, htakes.outcome.2, running_of_tasks htasks]
    intro houtcome habandoned
    refine hgated.stalled (fun f => ?_) habandoned
    rw [htakes.outcome.1]
    exact nofun

/-- Taking an event in hand changes nothing of what is known. -/
theorem Sound.takes (htakes : Takes m e m') (hsound : Sound s start .idle m) : Sound s start (.holds e) m' where
  shape := hsound.shape.takes htakes
  tokens := hsound.tokens.takes htakes
  ran := hsound.ran.takes htakes
  keeping := hsound.keeping.takes htakes
  gated := hsound.gated.takes htakes

/-- Every move keeps what is known. -/
theorem Sound.move (hmove : Move s h m h' m') (hdispatch : KeptDispatch s) (hsound : Sound s start h m) :
    Sound s start h' m' where
  shape := hsound.shape.move hmove
  tokens := hsound.tokens.move hmove hsound.shape
  ran := hsound.ran.move hmove hsound.shape hsound.tokens
  keeping := hsound.keeping.move hmove hdispatch hsound.shape hsound.tokens
  gated := hsound.gated.move hmove hsound.shape hsound.tokens

/-- Every step keeps what is known. -/
theorem Sound.step (hdispatch : KeptDispatch s) (hstep : Machine.step s m = some m') (hsound : Sound s start .idle m) :
    Sound s start .idle m' :=
  step_induct (fun h => h.shape.plain) (fun htakes h => h.takes htakes) (fun hmove h => h.move hmove hdispatch)
    hstep hsound

theorem Shape.single {g : Graph} (hstart : start ∈ g.nodes) (w : World) (services : σ) (active : Int) :
    Shape g start .idle (Machine.single w services (.visit start.id none) active) := by
  refine ⟨⟨rfl, fun ht => (job_single ht).1, fun ht => ?_, fun ht => ?_⟩, fun task htask => ?_, nofun⟩
  · obtain ⟨_, heq⟩ := job_single ht
    cases heq
    exact Graph.node?_of_mem_keys (List.mem_map_of_mem hstart)
  · cases (job_single ht).2
  · obtain rfl := List.mem_singleton.mp htask
    exact trivial

theorem Tokens.single (w : World) (services : σ) (id : NodeId) (active : Int) :
    Tokens .idle (Machine.single w services (.visit id none) active) := by
  refine ⟨List.nodup_nil, fun hvisits => ?_, fun hvisits => ?_, fun {t} hle => ?_⟩
  · obtain ⟨rfl, _, _, rfl⟩ := visits_single hvisits
    rfl
  · obtain ⟨rfl, _, _, rfl⟩ := visits_single hvisits
    rfl
  · have hne : 0 ≠ t := by
      change 1 ≤ t at hle
      omega
    constructor
    · rw [starts_idle]
      simp [Machine.single, Event.starts, hne]
    · rfl

/-- In the beginning nobody follows anybody. -/
theorem not_follows_single {w : World} {services : σ} {first : NodeId} {active : Int} {c p : Nat} {id pid : NodeId} :
    ¬Follows (Machine.single w services (.visit first none) active).jobs c id p pid := by
  rintro ⟨hc, _⟩
  cases (job_single hc).2

theorem Ran.single (w : World) (services : σ) (id : NodeId) (active : Int) :
    Ran .idle (Machine.single w services (.visit id none) active) := by
  have hexec : ∀ {t id'}, ¬Executing .idle (Machine.single w services (.visit id none) active) t id' := by
    rintro t id' ⟨parent, stage, hvisits, hexec⟩
    obtain ⟨_, _, _, rfl⟩ := visits_single hvisits
    rcases hexec with hexec | hexec
    · cases hexec
    · cases hexec
  exact ⟨List.nodup_nil, fun hu => absurd hu hexec, fun hf => absurd hf not_follows_single,
    fun hu => absurd hu hexec, fun hu => absurd hu hexec, fun hf => absurd hf not_follows_single⟩

theorem Keeping.single (w : World) (services : σ) (id : NodeId) (active : Int) :
    Keeping .idle (Machine.single w services (.visit id none) active) := by
  refine ⟨nofun, fun hvisits => ?_, fun hvisits => ?_, fun ht => ?_, fun hf => absurd hf not_follows_single⟩
  · cases (visits_single hvisits).2.2.2
  · cases (visits_single hvisits).2.2.2
  · cases (job_single ht).2

theorem Gated.single (g : Graph) (w : World) (services : σ) (id : NodeId) :
    Gated g .idle (Machine.single w services (.visit id none) 1) := by
  refine ⟨fun h => absurd rfl h, rfl, fun _ => ⟨rfl, rfl⟩, List.forall_mem_nil _, List.forall_mem_nil _,
    fun {k r} _ _ _ => ?_, fun _ => List.forall_mem_nil _, ?_⟩
  · change 0 = List.countP _ [_]
    simp [Task.hasBegun, Stage.isQueued]
  · rintro _ ⟨j, hj, _⟩
    cases hj

/-- A machine that visits the start node first begins soundly. -/
theorem Sound.single (hstart : start ∈ s.plan.graph.nodes) (w : World) (services : σ) :
    Sound s start .idle (Machine.single w services (.visit start.id none) 1) where
  shape := .single hstart w services 1
  tokens := .single w services start.id 1
  ran := .single w services start.id 1
  keeping := .single w services start.id 1
  gated := .single s.plan.graph w services start.id

end

namespace Launch

theorem start_mem (l : Launch σ) : l.start ∈ l.graph.nodes :=
  (Graph.node?_some (Graph.startNode_mem l.startNode_eq).1).1

theorem keptDispatch (l : Launch σ) : KeptDispatch l.setup := Execute.dispatch_keeps l.given

/-- Every state of a run is sound. -/
theorem sound (l : Launch σ) (k : Nat) : Sound l.setup l.start .idle (l.state k) :=
  l.state_induct (Sound.single l.start_mem _ _) (fun hstep h => h.step l.keptDispatch hstep) k

end Launch

/-! ## Small graphs to run -/

/-- A node with a payload and without bindings. -/
def sampleNode (name : String) (kind : NodeKind) (payload : List (String × Value)) : Node :=
  ⟨.ofString name, kind, .str name, .record payload, .null⟩

/-- An edge without handles. -/
def sampleEdge (source target : String) : Edge NodeId := ⟨.ofString source, .ofString target, .null, .null, .null⟩

/-- A plan in which everything can be reached. -/
def openPlan (g : Graph) : Plan := ⟨g, .null, .silent, NodeKind.all, true, fun _ => .ok (), 8, 8⟩

/-- Collaborators that answer nothing, a second later. -/
def mute : Services Unit := ⟨(), fun _ _ _ => ((), ⟨1, .ok (.value .null), []⟩)⟩

/-- The start node of small graphs. -/
def sampleStart : Node := sampleNode "in" .start []

/-- A run of a small graph. -/
def sampleRun (g : Graph) (hstart : g.startNode = .ok sampleStart) : Launch Unit where
  plan := openPlan g
  services := mute
  world := .empty
  start := sampleStart
  inputs := .record []
  startNode_eq := hstart
  inputs_eq := rfl

/-- Is the value the given text? -/
def isText (v : Value) (text : String) : Bool :=
  match v with
  | .str s => s == text
  | _ => false

theorem eq_of_isText {v : Value} {text : String} (h : isText v text = true) : v = .str text := by
  cases v with
  | str s => exact congrArg Value.str (by simpa [isText] using h)
  | _ => cases h

end Workflow.Run
