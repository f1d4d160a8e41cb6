import Workflow.Bindings.Context
import Workflow.Bindings.Path
import Workflow.Expr.Eval

/-!
# Workflow.Bindings.Resolve

The inputs of a node from its bindings, which map target paths to expressions.

1. Bindings are resolved in order.  An expression that fails drops its own
   binding only.
2. A target path below the path of an earlier target may lead into a mapping
   that came out of an expression.  Such a mapping is shared with whoever else
   holds it, so putting a value there is a `Write`, which later expressions
   see and which the caller carries out on everything else.
3. What is no mapping of bindings, or no text where text is needed, stops the
   resolution.
-/

namespace Workflow

/-- What became of one binding. -/
structure BindingOutcome where
  target : Value
  expression : Value
  error : Option Expr.EvalError

/-- How far the resolution of bindings got. -/
structure Resolution where
  inputs : Entries
  outcomes : List BindingOutcome
  writes : List Write
  failure : Option Fault

namespace Resolution

/-- The resolution of no bindings. -/
def empty : Resolution := ⟨[], [], [], none⟩

/-- The bindings that were dropped. -/
def skipped (r : Resolution) : List (Value × Value × Expr.EvalError) :=
  r.outcomes.filterMap fun o => o.error.map fun e => (o.target, o.expression, e)

end Resolution

/-- What resolving a binding changes: the inputs so far, the context of the
expressions that follow, and the writes to shared mappings. -/
structure BindingState where
  inputs : Entries
  context : Entries
  writes : List Write

namespace BindingState

/-- Puts a value at a path of the inputs. -/
def put (st : BindingState) (origin : Origin) (path : List String) (v : Value) : BindingState :=
  match Entries.pathWrite (fun _ => none) 0 none st.inputs v path with
  | (none, _, _) => { st with inputs := Entries.setPath (fun _ => none) 0 st.inputs v path }
  | (some id, field, inner) =>
    let w : Write := ⟨id, field, inner.adopt origin path⟩
    { inputs := Value.receiveEntries w st.inputs
      context := Value.receiveEntries w st.context
      writes := st.writes ++ [w] }

end BindingState

/-- Resolves bindings one after the other. -/
def resolveFrom (origin : Origin) (st : BindingState) (outcomes : List BindingOutcome) :
    List (Value × Value) → Resolution
  | [] => ⟨st.inputs, outcomes, st.writes, none⟩
  | (target, expression) :: rest =>
    match Expr.evaluateAny expression st.context with
    | .error (.fault f) => ⟨st.inputs, outcomes, st.writes, some f⟩
    | .error (.error e) =>
      resolveFrom origin st (outcomes ++ [⟨target, expression, some e⟩]) rest
    | .ok v => match target with
      | .str path =>
        resolveFrom origin (st.put origin (segmentsOf path) v)
          (outcomes ++ [⟨target, expression, none⟩]) rest
      | _ => ⟨st.inputs, outcomes, st.writes, some (.noAttribute target.typeName "split")⟩

/-- Resolves the bindings of a node.  What they make is given the identity
`origin`. -/
def resolveBindings (origin : Origin) (bindings : Value) (nodes : List Node) (outputs state : Entries) :
    Resolution :=
  if !bindings.truthy then .empty
  else match evalContext nodes outputs state (some ⟨origin, [stateName], 0⟩) with
    | .error f => { Resolution.empty with failure := some f }
    | .ok context => match bindings with
      | .dict _ es => resolveFrom origin ⟨[], context, []⟩ [] es
      | v => { Resolution.empty with failure := some (.noAttribute v.typeName "items") }

/-- The inputs that bindings give. -/
def Resolution.value (r : Resolution) (origin : Origin) : Value :=
  (Value.dict none r.inputs).adopt origin

end Workflow
