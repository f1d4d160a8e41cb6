import Workflow.Bindings.Resolve
import Workflow.Graph.Basic
import Workflow.Run.Failure
import Workflow.Run.Log

/-!
# Workflow.Run.World

What the nodes of a run share.

1. The `World` holds what changes: outputs, state, log and clock.  Values that
   are stored in it stay as they were put there.  A write to a shared mapping
   is added to the list of writes, and whoever reads a stored value looks at it
   through that list (`World.look`).
2. The `Plan` holds what stays fixed: the graph, the initial inputs and which
   collaborators can be reached.
-/

namespace Workflow.Run

/-- What changes during a run. -/
structure World where
  outputs : Entries
  state : Entries
  log : List LogEntry
  records : List Record
  writes : List Write
  clock : Nat
deriving Inhabited

/-- What stays fixed during a run. -/
structure Plan where
  graph : Graph
  inputs : Value
  sink : Sink
  /-- The kinds of nodes that can be executed. -/
  kinds : List NodeKind
  /-- Is there a collaborator for tools that carry their own code? -/
  runsCode : Bool
  /-- Why a collaborator cannot be reached, if it cannot. -/
  reach : Role → Except Problem Unit
  /-- How deeply loops may be nested. -/
  nesting : Nat
  /-- How many turns a model may be asked for by one node. -/
  turns : Nat

namespace World

/-- The world before a run. -/
def empty : World := ⟨[], [], [], [], [], 0⟩

/-- A stored value as it is now. -/
def look (w : World) (v : Value) : Value := v.receiveAll w.writes

/-- A stored mapping as it is now. -/
def lookEntries (w : World) (es : Entries) : Entries :=
  w.writes.foldl (fun es x => Value.receiveEntries x es) es

/-- The current time in milliseconds. -/
def now (w : World) : Int := 1700000000000 + 1000 * w.clock

/-- Adds an entry to the log and sends it to the sink. -/
def addEntry (w : World) (sink : Sink) (e : LogEntry) : World :=
  { w with log := w.log ++ [e], records := w.records ++ sink.records e }

/-- Logs a message about a node. -/
def note (w : World) (sink : Sink) (node : Value) (kind : String) (phase : Phase) (message : String)
    (payload : Value) : World :=
  w.addEntry sink ⟨node, kind, phase, message, payload, w.clock⟩

/-- Adds a record. -/
def record (w : World) (logger : Logger) (level : Level) (message : String) : World :=
  { w with records := w.records ++ [⟨logger, level, message⟩] }

/-- How often the execution of a node has begun. -/
def rounds (w : World) (k : Key) : Nat :=
  w.log.countP fun e => e.phase = .start && e.node.key? = some k

/-- The output of a node. -/
def output? (w : World) (k : Key) : Option Value := (Entries.get? w.outputs k).map w.look

/-- Stores the output of a node. -/
def setOutput (w : World) (id : NodeId) (v : Value) : World :=
  { w with outputs := w.outputs.set id.value id.key v }

/-- A node with its payload as it is now. -/
def node (w : World) (n : Node) : Node := { n with payload := w.look (n.payload.adopt (.payload n.id.key)) }

/-- The context of expressions. -/
def context (w : World) (g : Graph) (copy : Option MapId) : Except Fault Entries :=
  evalContext g.nodes (w.lookEntries w.outputs) (w.lookEntries w.state) copy

/-- The output of the node at which the first edge into a node begins. -/
def predecessorOutput (w : World) (g : Graph) (k : Key) : Value :=
  match g.incoming k with
  | [] => .null
  | e :: _ => (w.output? e.source.key).getD .null

/-- Logs and records what became of a binding. -/
def noteOutcome (w : World) (sink : Sink) (n : Node) (o : BindingOutcome) : World :=
  match o.error with
  | none => w.record .bindings .debug
      ("Binding " ++ o.target.text ++ " <- " ++ o.expression.repr ++ " resolved")
  | some e =>
    (w.record .bindings .warning
      ("Binding " ++ o.target.text ++ " <- " ++ o.expression.repr ++ " skipped: " ++ e.message)).note
        sink n.id.value n.kind.name .warning ("Binding " ++ o.target.repr ++ " skipped")
        (.record [("expression", o.expression), ("error", .str e.message)])

/-- Resolves the bindings of a node. -/
def resolve (w : World) (plan : Plan) (n : Node) : World × Except Fault Value :=
  let origin : Origin := .bindings n.id.key (w.rounds n.id.key)
  let r := resolveBindings origin n.bindings plan.graph.nodes (w.lookEntries w.outputs) (w.lookEntries w.state)
  let w := r.outcomes.foldl (fun w o => noteOutcome w plan.sink n o) w
  let w := { w with writes := w.writes ++ r.writes }
  match r.failure with
  | some f => (w, .error f)
  | none => (w, .ok (r.value origin))

/-- What a world holds, in brief. -/
def summary (w : World) : String :=
  s!"RunContext(outputs={w.outputs.length}, state=" ++ (Value.dict none (w.lookEntries w.state)).repr
    ++ s!", log={w.log.length})"

@[simp] theorem look_of_no_writes {w : World} (h : w.writes = []) (v : Value) : w.look v = v := by
  simp [look, h]

@[simp] theorem lookEntries_of_no_writes {w : World} (h : w.writes = []) (es : Entries) :
    w.lookEntries es = es := by
  simp [lookEntries, h]

@[simp] theorem lookEntries_nil (w : World) : w.lookEntries [] = [] := by
  unfold lookEntries
  induction w.writes with
  | nil => rfl
  | cons x writes ih => exact ih

/-- What is stored under a key, as it is now. -/
theorem get?_lookEntries (w : World) (es : Entries) (k : Key) :
    Entries.get? (w.lookEntries es) k = (Entries.get? es k).map w.look := by
  unfold lookEntries look Value.receiveAll
  induction w.writes generalizing es with
  | nil => simp
  | cons x writes ih =>
    rw [List.foldl_cons, ih, Entries.get?_receiveEntries, Option.map_map]
    rfl

end World
end Workflow.Run
