import Workflow.Run.Gate
import Workflow.Run.Work

/-!
# Workflow.Run.Schedule

The scheduler of a run, as a machine that handles one event at a time.

1. A visit is the passage of one branch through one node.  It waits at the
   node's gate if other branches have to arrive, executes the node, and then
   visits the nodes behind it, all at the same time, until they have returned.
2. Events wait in a queue and are handled in order.  When none is ready the
   clock moves to the end of the earliest delay, and that one call is answered.
3. `active` counts the visits that can go on by themselves: those that are
   neither parked at a gate nor waiting for the visits they began.  When it
   falls to zero, no branch can reach the gates that are still closed, and they
   are abandoned.
4. A failure passes from a visit to the one that began it.  When it leaves the
   first visit the run is over, whatever else is still going on.

The machine knows nothing of what nodes do: that is a `Work` given by
`Setup.dispatch`, and what collaborators answer is given by `Setup.serve`.
-/

namespace Workflow.Run

/-! ## Parts -/

/-- How a collaborator takes a call: after how many seconds it answers, what,
and what it records. -/
structure Served where
  delay : Nat
  outcome : Except Problem Reply
  records : List Record

/-- What a machine is run with. -/
structure Setup (σ : Type) where
  plan : Plan
  dispatch : Node → Work Value
  serve : σ → Nat → Call → σ × Served

/-- What a task is for. -/
inductive Job where
  /-- The visit of a node, begun by another visit unless it is the first. -/
  | visit (id : NodeId) (parent : Option Nat)
  /-- A computation by itself. -/
  | whole (work : Work Value)
  /-- One of the tool calls that another task is waiting for. -/
  | tool (parent index : Nat) (task : ToolTask)

/-- How far a task is. -/
inductive Stage where
  | queued
  | parked
  | calling (next : Except Problem Reply → World → Step Value)
  | gathering (slots : List (Option Value)) (next : Except Problem (List Value) → World → Step Value)
  | waiting (left : Nat)
  | over

/-- A task. -/
structure Task where
  job : Job
  stage : Stage

/-- The gate of a node, with the visits parked at it. -/
structure Join where
  id : NodeId
  gate : Gate
  parked : List Nat

/-- Something that has happened and waits to be handled. -/
inductive Event where
  /-- A task may begin. -/
  | start (task : Nat)
  /-- The gate at which a visit was parked is open. -/
  | pass (task : Nat)
  /-- A call has been answered. -/
  | answer (task : Nat) (outcome : Except Problem Reply)
  /-- A visit begun by the task has ended. -/
  | ended (task : Nat) (failure : Option Failure)
  /-- A tool call of the task has ended. -/
  | settled (task index : Nat) (outcome : Except Problem Value)

/-- A call that is answered at a later time. -/
structure Sleeper where
  time : Nat
  task : Nat
  outcome : Except Problem Reply

/-- The state of a run. -/
structure Machine (σ : Type) where
  world : World
  services : σ
  visited : List Key
  joins : List Join
  active : Int
  result : Value
  tasks : List Task
  ready : List Event
  sleepers : List Sleeper
  outcome : Option (Except Failure Value)

namespace Machine

variable {σ : Type}

/-! ## Small changes -/

/-- Moves a task to a stage. -/
def setStage (m : Machine σ) (t : Nat) (stage : Stage) : Machine σ :=
  { m with tasks := m.tasks.modify t fun task => { task with stage } }

/-- Adds events to the queue. -/
def push (m : Machine σ) (es : List Event) : Machine σ := { m with ready := m.ready ++ es }

/-- Adds tasks, ready to begin. -/
def addTasks (m : Machine σ) (jobs : List Job) : Machine σ :=
  { m with
    tasks := m.tasks ++ jobs.map fun j => ⟨j, .queued⟩
    ready := m.ready ++ (List.range jobs.length).map fun i => .start (m.tasks.length + i) }

/-- Adds a record. -/
def record (m : Machine σ) (level : Level) (message : String) : Machine σ :=
  { m with world := m.world.record .runner level message }

/-- Logs a warning about a node. -/
def warn (plan : Plan) (m : Machine σ) (node : Value) (kind message : String) (payload : Value) : Machine σ :=
  { m with world := m.world.note plan.sink node kind .warning message payload }

/-- Leaves a call to be answered later. -/
def sleep (m : Machine σ) (t delay : Nat) (outcome : Except Problem Reply) : Machine σ :=
  { m with sleepers := m.sleepers ++ [⟨m.world.clock + delay, t, outcome⟩] }

/-- Changes the number of active visits. -/
def addActive (m : Machine σ) (n : Int) : Machine σ := { m with active := m.active + n }

/-! ## Gates -/

/-- The join at a node; a closed one where there is none yet. -/
def join (m : Machine σ) (id : NodeId) (required : Nat) : Join :=
  (m.joins.find? fun j => j.id.key == id.key).getD ⟨id, Gate.closed required, []⟩

/-- Puts a join back; a new one goes to the end. -/
def setJoin (m : Machine σ) (j : Join) : Machine σ :=
  if m.joins.any fun i => i.id.key == j.id.key then
    { m with joins := m.joins.map fun i => if i.id.key == j.id.key then j else i }
  else { m with joins := m.joins ++ [j] }

/-- Lets the visits parked at an open gate go. -/
def wake (m : Machine σ) (j : Join) : Machine σ :=
  if j.gate.released then (m.setJoin { j with parked := [] }).push (j.parked.map .pass)
  else m.setJoin j

/-- Abandons the gate of a join that is still closed, and says so. -/
def abandon (plan : Plan) (m : Machine σ) (j : Join) : Machine σ :=
  if j.gate.released then m
  else
    let kind := ((plan.graph.node? j.id.key).map (·.kind.name)).getD ""
    let m := m.record .warning s!"Join {j.id.text} abandoned with {j.gate.arrived}/{j.gate.required} branches"
    let m := m.warn plan j.id.value kind
      s!"Join abandoned: only {j.gate.arrived} of {j.gate.required} branches arrived"
      (.record [("arrived", .int j.gate.arrived), ("required", .int j.gate.required)])
    m.wake { j with gate := j.gate.abandon }

/-- Abandons all closed gates once nothing is active. -/
def checkStalled (plan : Plan) (m : Machine σ) : Machine σ :=
  if 0 < m.active then m else m.joins.foldl (abandon plan) m

/-- Opens all gates without a word. -/
def releaseAll (m : Machine σ) : Machine σ :=
  { m with joins := m.joins.map fun j => { j with gate := j.gate.abandon } }

/-! ## Visits -/

/-- Ends the first visit, and with it the run. -/
def conclude (m : Machine σ) (failure : Option Failure) : Machine σ :=
  match failure with
  | some f => { m.releaseAll with outcome := some (.error f) }
  | none =>
    let m := m.record .info s!"Run finished, {m.visited.length} nodes executed"
    { m with outcome := some (.ok m.result) }

/-- Ends a visit and tells the one that began it. -/
def endVisit (plan : Plan) (m : Machine σ) (t : Nat) (failure : Option Failure) : Machine σ :=
  let m := ((m.setStage t .over).addActive (-1)).checkStalled plan
  match m.tasks[t]? with
  | some ⟨.visit _ (some parent), _⟩ => m.push [.ended parent failure]
  | _ => m.conclude failure

/-- Begins visits of nodes and waits for them. -/
def fanOut (m : Machine σ) (t : Nat) (targets : List NodeId) : Machine σ :=
  let m := (m.setStage t (.waiting targets.length)).addActive (targets.length - 1)
  m.addTasks (targets.map fun id => .visit id (some t))

/-- The handle that an output selects. -/
def selectedHandle (output : Value) : Value :=
  match output with
  | .dict _ es => Entries.field es "selectedHandleId"
  | _ => .null

/-- Goes on from an executed node: an end node holds the result, a branching
node selects one edge, and any other node is followed by all nodes behind it. -/
def afterNode (plan : Plan) (m : Machine σ) (t : Nat) (id : NodeId) (n : Node) (output : Value) : Machine σ :=
  if n.kind = .finish then { m with result := output }.endVisit plan t none
  else if n.kind.isBranching then
    let handle := m.world.look (selectedHandle output)
    match plan.graph.branchEdge? n handle with
    | some e => m.fanOut t [e.target]
    | none =>
      let m := m.record .warning s!"{id.text}: selected handle {handle.repr} is not connected"
      let m := m.warn plan id.value n.kind.name
        ("Selected handle " ++ handle.repr ++ " is not connected; branch stops")
        (.record [("selectedHandleId", handle)])
      m.endVisit plan t none
  else match plan.graph.successors id.key with
    | [] => (m.record .warning s!"{id.text}: no outgoing edges, branch stops").endVisit plan t none
    | targets => m.fanOut t targets

/-! ## Work -/

/-- Ends the work of a task. -/
def finishWork (plan : Plan) (m : Machine σ) (t : Nat) (outcome : Except Failure Value) : Machine σ :=
  match m.tasks[t]? with
  | some ⟨.visit id _, _⟩ => match outcome with
    | .error f => m.endVisit plan t (some f)
    | .ok v => match plan.graph.node? id.key with
      | some n => m.afterNode plan t id n v
      | none => m.endVisit plan t none
  | _ => { m.setStage t .over with outcome := some outcome }

/-- Carries the work of a task on until it waits or ends. -/
def proceed (s : Setup σ) (t : Nat) : Step Value → Machine σ → Machine σ
  | .done w v, m => { m with world := w }.finishWork s.plan t (.ok v)
  | .fail w f, m => { m with world := w }.finishWork s.plan t (.error f)
  | .call w c next, m =>
    let (services, served) := s.serve m.services w.clock c
    let w := { w with records := w.records ++ served.records }
    let m := { m with world := w, services }
    if served.delay = 0 then proceed s t (next served.outcome w) m
    else (m.sleep t served.delay served.outcome).setStage t (.calling next)
  | .tools w [] next, m => proceed s t (next (.ok []) w) m
  | .tools w tasks next, m =>
    let m := { m with world := w }.setStage t (.gathering (tasks.map fun _ => none) next)
    m.addTasks (tasks.mapIdx fun i task => .tool t i task)

/-- Executes the node of a visit. -/
def enter (s : Setup σ) (m : Machine σ) (t : Nat) (id : NodeId) : Machine σ :=
  match s.plan.graph.node? id.key with
  | none => m.endVisit s.plan t none
  | some n =>
    let m := { m with visited := id.key :: m.visited }
    proceed s t (s.dispatch n m.world) m

/-- Is the gate of a node open? -/
def isOpen (m : Machine σ) (id : NodeId) : Bool :=
  (m.joins.find? fun j => j.id.key == id.key).any fun j => j.gate.released

/-- Parks a visit at the gate of its node. -/
def addParked (m : Machine σ) (t : Nat) (id : NodeId) : Machine σ :=
  { m.setStage t .parked with
    joins := m.joins.map fun j => if j.id.key == id.key then { j with parked := j.parked ++ [t] } else j }

/-- A visit that was parked goes on, which is to say that it ends: either
another branch went through the gate, or the gate was abandoned. -/
def passGate (plan : Plan) (m : Machine σ) (t : Nat) (id : NodeId) : Machine σ :=
  let m := m.addActive 1
  let abandoned := (m.joins.find? fun j => j.id.key == id.key).any fun j => j.gate.abandoned
  let m := if abandoned then
      m.record .debug s!"Branch into {id.text} dropped with its abandoned join"
    else m
  m.endVisit plan t none

/-- A visit waits at the gate of its node.  That may leave nothing active, and
then the gate opens at once. -/
def park (plan : Plan) (m : Machine σ) (t : Nat) (id : NodeId) : Machine σ :=
  let m := (m.addActive (-1)).checkStalled plan
  if m.isOpen id then m.passGate plan t id else m.addParked t id

/-- A visit arrives at the gate of its node. -/
def arrive (s : Setup σ) (m : Machine σ) (t : Nat) (id : NodeId) (required : Nat) : Machine σ :=
  let j := m.join id required
  let (through, gate) := j.gate.arrive
  if through then
    let m := m.wake { j with gate }
    enter s (m.record .debug s!"Join {id.text} released by last of {required} branches") t id
  else (m.setJoin { j with gate }).park s.plan t id

/-- A visit begins. -/
def beginVisit (s : Setup σ) (m : Machine σ) (t : Nat) (id : NodeId) (gated : Bool) : Machine σ :=
  if m.visited.contains id.key then m.endVisit s.plan t none
  else match s.plan.graph.required id.key with
    | .error f => m.endVisit s.plan t (some (.own (.fault f)))
    | .ok required =>
      if gated && decide (1 < required) then arrive s m t id required else enter s m t id

/-! ## Tool calls -/

/-- Ends a tool call. -/
def settle (m : Machine σ) (t parent index : Nat) (outcome : Except Problem Value) : Machine σ :=
  (m.setStage t .over).push [.settled parent index outcome]

/-- Begins a tool call. -/
def beginTool (s : Setup σ) (m : Machine σ) (t parent index : Nat) (task : ToolTask) : Machine σ :=
  match task.start m.world with
  | (w, .error p) => { m with world := w }.settle t parent index (.error p)
  | (w, .ok c) =>
    let (services, served) := s.serve m.services w.clock c
    let m := { m with world := { w with records := w.records ++ served.records }, services }
    if served.delay = 0 then m.settle t parent index (served.outcome >>= task.finish)
    else m.sleep t served.delay served.outcome

/-- The values of slots that are all filled. -/
def filled? (slots : List (Option Value)) : Option (List Value) := slots.mapM id

/-! ## Events -/

/-- Handles an event. -/
def handle (s : Setup σ) (m : Machine σ) : Event → Machine σ
  | .start t => match m.tasks[t]? with
    | some ⟨.visit id parent, _⟩ => beginVisit s m t id parent.isSome
    | some ⟨.whole work, _⟩ => proceed s t (work m.world) m
    | some ⟨.tool parent index task, _⟩ => beginTool s m t parent index task
    | none => m
  | .pass t => match m.tasks[t]? with
    | some ⟨.visit id _, _⟩ => passGate s.plan m t id
    | _ => m
  | .answer t outcome => match m.tasks[t]? with
    | some ⟨.tool parent index task, _⟩ => m.settle t parent index (outcome >>= task.finish)
    | some ⟨_, .calling next⟩ => proceed s t (next outcome m.world) m
    | _ => m
  | .ended t failure => match m.tasks[t]? with
    | some ⟨_, .waiting left⟩ =>
      if failure.isSome || left ≤ 1 then (m.addActive 1).endVisit s.plan t failure
      else m.setStage t (.waiting (left - 1))
    | _ => m
  | .settled t index outcome => match m.tasks[t]? with
    | some ⟨_, .gathering slots next⟩ => match outcome with
      | .error p => proceed s t (next (.error p) m.world) m
      | .ok v =>
        let slots := slots.set index (some v)
        match filled? slots with
        | some vs => proceed s t (next (.ok vs) m.world) m
        | none => m.setStage t (.gathering slots next)
    | _ => m

/-- Takes the call out that is answered first; of several, the one that was
made first. -/
def earliest : List Sleeper → Option (Sleeper × List Sleeper)
  | [] => none
  | x :: xs => match earliest xs with
    | none => some (x, [])
    | some (y, rest) => if y.time < x.time then some (y, x :: rest) else some (x, xs)

/-- One step of a run; none when the run is over or nothing can happen. -/
def step (s : Setup σ) (m : Machine σ) : Option (Machine σ) :=
  if m.outcome.isSome then none
  else match m.ready with
    | e :: rest => some (handle s { m with ready := rest } e)
    | [] => match earliest m.sleepers with
      | some (x, rest) =>
        some (handle s { m with sleepers := rest, world := { m.world with clock := x.time } }
          (.answer x.task x.outcome))
      | none => none

/-- Takes steps until there are none, or until the given number is reached. -/
def run (s : Setup σ) : Nat → Machine σ → Machine σ
  | 0, m => m
  | fuel + 1, m => match step s m with
    | some m => run s fuel m
    | none => m

/-- A machine with a single task. -/
def single (world : World) (services : σ) (job : Job) (active : Int) : Machine σ :=
  { world, services, visited := [], joins := [], active, result := .null,
    tasks := [⟨job, .queued⟩], ready := [.start 0], sleepers := [], outcome := none }

end Machine
end Workflow.Run
