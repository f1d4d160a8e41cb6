import Workflow.Graph.Basic
import Workflow.Json.Read
import Workflow.Yaml.Read

/-!
# Workflow.Graph.Source

The text of graph documents, in JSON or YAML.

A document may be wrapped: a stored record holds it under `workflow_data`, and
the record may itself stand under `data`.
-/

namespace Workflow

/-- The ways in which documents are written. -/
inductive Markup where
  | json | yaml
deriving DecidableEq, Inhabited

namespace Markup

/-- The notation of files whose name ends in a suffix. -/
def ofSuffix (suffix : String) : Markup := if suffix = ".json" then .json else .yaml

/-- Reads a text. -/
def read (n : Markup) (text : String) : Except GraphError Value :=
  match n with
  | .json => match Json.read text with
    | .ok v => .ok v
    | .error (.tooManyDigits count) => .error (.fault (.tooManyDigitsIn count))
    | .error e => .error (.unreadable (e.message text))
  | .yaml => match Yaml.read text with
    | .ok v => .ok v
    | .error (.flaw f) => .error (.unreadable f.message)
    | .error (.fault f) => .error (.fault f)

end Markup

/-- The document in a record, or else what there is. -/
def unwrapRecord (v : Value) : Value :=
  match v.field? "workflow_data", v.field? "nodes" with
  | some inner, none => inner
  | _, _ => v

/-- The document in the record under `data`, or else what there is. -/
def unwrapData (v : Value) : Except Fault Value := do
  match ← v.read "data" with
  | .dict _ es => return ((Entries.field? es "workflow_data")).getD v
  | _ => return v

/-- The document that a text holds. -/
def documentOfText (text : String) (n : Markup) : Except GraphError Value := do
  match ← n.read text with
  | .dict id es => GraphError.lift (unwrapData (unwrapRecord (.dict id es)))
  | _ => throw .notMapping

end Workflow
