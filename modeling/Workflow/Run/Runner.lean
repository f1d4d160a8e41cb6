import Workflow.Run.Schedule
import Workflow.Execute.Dispatch

/-!
# Workflow.Run.Runner

Running a graph from its start node, and running a computation by itself.
-/

namespace Workflow.Run

/-- Why a run ends without a result. -/
inductive RunError where
  | graph (e : GraphError)
  | failure (f : Failure)
  /-- The run took more steps than it was given. -/
  | unfinished
deriving Inhabited

/-- The wording of why a run ended. -/
def RunError.message : RunError → String
  | .graph e => e.message
  | .failure f => f.message
  | .unfinished => "run did not finish"

/-- Collaborators with a state of their own. -/
structure Services (σ : Type) where
  state : σ
  serve : σ → Nat → Call → σ × Served

/-- How a run ended, and what it left behind. -/
structure Ended (σ : Type) where
  outcome : Except RunError Value
  world : World
  services : σ

/-- The mapping of initial inputs that a value gives. -/
def initialInputs (v : Value) : Except Fault Value :=
  if !v.truthy then .ok (.record [])
  else do return .dict none (← Expr.updateFrom [] v)

/-- What a machine that has come to a halt left behind. -/
def Machine.ended (m : Machine σ) : Ended σ :=
  let outcome : Except RunError Value := match m.outcome with
    | some (.ok v) => .ok (m.world.look v)
    | some (.error f) => .error (.failure f)
    | none => .error .unfinished
  ⟨outcome, m.world, m.services⟩

/-- The world as a run begins: without outputs, state or log.  Writes to the
payloads of nodes stay, as the nodes do. -/
def World.reset (w : World) : World :=
  let toPayload (x : Write) : Bool := match x.id.origin with
    | .payload _ => true
    | _ => false
  { w with outputs := [], state := [], log := [], writes := w.writes.filter toPayload }

/-- The machine of a run that begins at a node. -/
def Machine.begin (plan : Plan) (start : Node) (w : World) (services : σ) : Machine σ :=
  Machine.single
    (w.record .runner .info s!"Run started at {start.id.text} ({plan.graph.size} nodes)")
    services (.visit start.id none) 1

/-- Runs a graph in at most `fuel` steps. -/
def runGraph (plan : Plan) (services : Services σ) (fuel : Nat) (w : World) : Ended σ :=
  match plan.graph.startNode with
  | .error e => ⟨.error (.graph e), w, services.state⟩
  | .ok start =>
    let w := w.reset
    match initialInputs plan.inputs with
    | .error f => ⟨.error (.failure (.own (.fault f))), w, services.state⟩
    | .ok inputs =>
      let plan := { plan with inputs := inputs.adopt .inputs }
      let setup : Setup σ := ⟨plan, Execute.dispatch plan, services.serve⟩
      ((Machine.begin plan start w services.state).run setup fuel).ended

/-- Runs a computation by itself in at most `fuel` steps. -/
def runWork (plan : Plan) (services : Services σ) (fuel : Nat) (w : World) (work : Work Value) : Ended σ :=
  let setup : Setup σ := ⟨plan, Execute.dispatch plan, services.serve⟩
  ((Machine.single w services.state (.whole work) 0).run setup fuel).ended

end Workflow.Run
