import Workflow.Execute.Entry

/-!
# Workflow.Execute.Loop

Loop nodes repeat their body.

1. The body begins at the node wired to the loop's start handle and ends at a
   node wired back into its end handle.
2. One pass follows the selected handle of a branching node and the first edge
   of any other.  It visits no node twice.
3. After every pass the exit condition is evaluated; one that cannot be
   evaluated does not hold.  The loop selects one handle when the condition
   held and another when the passes were used up.
-/

namespace Workflow.Execute

open Run

/-! ## One pass -/

/-- Where a pass goes from a node with the given output: nowhere, where the
node leads back to the loop's end, or else to the next node. -/
def nextInPass (g : Graph) (loop : Node) (endHandle : Value) (current : NodeId) (n : Node) (output : Value) :
    Except LoopProblem (Option NodeId) :=
  if g.hasEdge current.key loop.id.value endHandle then .ok none
  else match g.outgoing current.key with
    | [] => .error (.deadEnd current loop.id)
    | e :: _ =>
      if n.kind.isBranching then
        let handle := match output with
          | .dict _ es => Entries.field es "selectedHandleId"
          | _ => .null
        match g.branchEdge? n handle with
        | some e => .ok (some e.target)
        | none => .error (.unconnected current loop.id handle)
      else .ok (some e.target)

/-- Walks from a node on, having been to the nodes of `seen`.  There is room
for as many nodes as have not been seen. -/
def walk (g : Graph) (dispatch : Node → Work Value) (loop : Node) (endHandle : Value) :
    Nat → List Key → NodeId → Work Unit
  | room, seen, current => do
    if seen.contains current.key then Work.throw (.loop (.repeated current loop.id))
    match room with
    | 0 => Work.throw (.loop (.repeated current loop.id))
    | room + 1 =>
      let n ← Work.lift (g.node current.value)
      let output ← dispatch n
      match nextInPass g loop endHandle current n output with
      | .ok none => pure ()
      | .ok (some next) => walk g dispatch loop endHandle room (current.key :: seen) next
      | .error p => Work.throw (.loop p)

/-- One pass of a loop's body, from the given node. -/
def walkBody (g : Graph) (dispatch : Node → Work Value) (loop : Node) (first : NodeId) : Work Unit := do
  let endHandle ← Work.lift loop.loopEndHandle
  walk g dispatch loop endHandle g.size [] first

/-! ## All passes -/

/-- The settings of a loop. -/
structure LoopSettings where
  limit : Int
  exitCondition : Value
  exitHandle : Value
  limitHandle : Value

/-- Reads the settings of a loop. -/
def loopSettings (n : Node) : Except Fault LoopSettings := do
  let limit ← match ← n.setting "maxIterations" with
    | .null => pure (.int 10)
    | v => Expr.toInt v
  let condition := (← n.setting "exitCondition").orElse (.record [])
  let expression ← condition.read "expression"
  let exitHandle := (← n.setting "exitHandleId").orElse (.str "exit")
  let limitHandle := (← n.setting "maxReachedHandleId").orElse (.str "max-reached")
  return ⟨(limit.asInt?).getD 0, expression, exitHandle, limitHandle⟩

/-- The output of a loop. -/
def loopOutput (handle : Value) (iterations : Int) : Value :=
  .record [("selectedHandleId", handle), ("iterations", .int iterations)]

/-- Does the exit condition hold? -/
def shouldExit (plan : Plan) (n : Node) (expression : Value) : Work Bool := do
  if !expression.truthy then return false
  let context ← Work.lift ((← Work.get).context plan.graph none)
  match Expr.evaluateAny expression context with
  | .ok v => return v.truthy
  | .error (.fault f) => Work.lift (.error f)
  | .error (.error e) =>
    Work.note plan n .warning "Exit condition could not be evaluated"
      (.record [("expression", expression), ("error", .str e.message)])
    return false

/-- Runs the passes that are left, the next being number `done + 1`. -/
def passes (plan : Plan) (n : Node) (s : LoopSettings) (pass : Work Unit) : Nat → Nat → Work Value
  | 0, _ => do
    Work.note plan n .info "Maximum iterations reached"
      (.record [("reason", .str "max_iterations"), ("iterations", .int s.limit)])
    return loopOutput s.limitHandle s.limit
  | left + 1, done => do
    let i := done + 1
    let progress := Value.record [("iteration", .int i), ("maxIterations", .int s.limit)]
    Work.note plan n .info s!"Iteration {i}/{s.limit}" progress
    pass
    Work.note plan n .info s!"Iteration {i} done" progress
    if ← shouldExit plan n s.exitCondition then
      Work.note plan n .info "Exit condition met"
        (.record [("reason", .str "exit_condition"), ("iterations", .int i)])
      return loopOutput s.exitHandle i
    else passes plan n s pass left i

/-- A loop node; `dispatch` executes the nodes of its body. -/
def loop (plan : Plan) (dispatch : Node → Work Value) (n : Node) : Work Value := do
  let n ← Work.current n
  let s ← Work.lift (loopSettings n)
  let startHandle ← Work.lift n.loopStartHandle
  match plan.graph.edgeAt? n.id.key startHandle with
  | none =>
    Work.note plan n .warning "Loop start handle is not connected" .null
    return loopOutput s.exitHandle 0
  | some e => passes plan n s (walkBody plan.graph dispatch n e.target) s.limit.toNat 0

end Workflow.Execute
