import Workflow.Run.World

/-!
# Workflow.Run.Work

Computations that can wait.

A `Work` changes the world until it is done, fails, or waits: for a call of a
collaborator, or for several tool calls at once.  What it does between two
waits happens in one go, without anybody else touching the world.  A waiting
work goes on with the world as it is then.
-/

namespace Workflow.Run

/-- A tool call that runs beside others: its beginning, which may find that
there is nothing to call, and what becomes of the answer. -/
structure ToolTask where
  start : World → World × Except Problem Call
  finish : Reply → Except Problem Value

/-- How far a computation got. -/
inductive Step (α : Type) where
  | done (w : World) (a : α)
  | fail (w : World) (f : Failure)
  | call (w : World) (c : Call) (next : Except Problem Reply → World → Step α)
  | tools (w : World) (tasks : List ToolTask) (next : Except Problem (List Value) → World → Step α)

/-- A computation on the world. -/
def Work (α : Type) := World → Step α

namespace Step

/-- Goes on with a second computation once the first is done. -/
def bind (s : Step α) (next : α → Work β) : Step β :=
  match s with
  | .done w a => next a w
  | .fail w f => .fail w f
  | .call w c k => .call w c fun r w => bind (k r w) next
  | .tools w ts k => .tools w ts fun r w => bind (k r w) next

/-- Turns a failure into a result. -/
def attempt : Step α → Step (Except Failure α)
  | .done w a => .done w (.ok a)
  | .fail w f => .done w (.error f)
  | .call w c k => .call w c fun r w => attempt (k r w)
  | .tools w ts k => .tools w ts fun r w => attempt (k r w)

end Step

namespace Work

instance : Monad Work where
  pure a := fun w => .done w a
  bind x next := fun w => (x w).bind next

/-- The world as it is. -/
def get : Work World := fun w => .done w w

/-- Changes the world. -/
def modify (f : World → World) : Work Unit := fun w => .done (f w) ()

/-- Fails with a problem of its own. -/
def throw (p : Problem) : Work α := fun w => .fail w (.own p)

/-- Fails as something else did. -/
def rethrow (f : Failure) : Work α := fun w => .fail w f

/-- An operation on values as a step of a computation. -/
def lift (r : Except Fault α) : Work α :=
  match r with
  | .ok a => pure a
  | .error f => throw (.fault f)

/-- A check as a step of a computation. -/
def check (r : Except Problem α) : Work α :=
  match r with
  | .ok a => pure a
  | .error p => throw p

/-- A result or failure as a step of a computation. -/
def ofResult (r : Except Failure α) : Work α :=
  match r with
  | .ok a => pure a
  | .error f => rethrow f

/-- Waits for a collaborator. -/
def call (c : Call) : Work Reply := fun w => .call w c fun r => check r

/-- Waits for tool calls that run at the same time. -/
def tools (tasks : List ToolTask) : Work (List Value) := fun w => .tools w tasks fun r => check r

/-- Runs a computation and answers how it ended. -/
def attempt (x : Work α) : Work (Except Failure α) := fun w => (x w).attempt

/-- Logs a message about a node. -/
def note (plan : Plan) (n : Node) (phase : Phase) (message : String) (payload : Value) : Work Unit :=
  modify fun w => w.note plan.sink n.id.value n.kind.name phase message payload

/-- Adds a record. -/
def record (logger : Logger) (level : Level) (message : String) : Work Unit :=
  modify fun w => w.record logger level message

/-- A node with its payload as it is now. -/
def current (n : Node) : Work Node := fun w => .done w (w.node n)

/-- The inputs that the bindings of a node give. -/
def resolve (plan : Plan) (n : Node) : Work Value := fun w =>
  match w.resolve plan n with
  | (w, .ok v) => .done w v
  | (w, .error f) => .fail w (.own (.fault f))

theorem pure_apply (a : α) (w : World) : (pure a : Work α) w = .done w a := rfl

theorem bind_apply (x : Work α) (next : α → Work β) (w : World) :
    (x >>= next) w = (x w).bind next := rfl

end Work
end Workflow.Run
