import Workflow.Json.Read
import Workflow.Text.Pair

/-!
# Workflow.Cli.Inputs

The initial inputs of a run, as they are given on the command line: first an
object, then single inputs, of which a later one replaces an earlier.  The value
of a single input is JSON if it can be read as such, and text otherwise.
-/

namespace Workflow.Cli

/-- Why inputs are refused. -/
inductive InputError where
  | unreadable (source : String) (e : Json.ReadError)
  | notObject
  | notPair (item : String)
deriving DecidableEq, Inhabited

/-- The wording of a refusal. -/
def InputError.message : InputError → String
  | .unreadable source e => e.message source
  | .notObject => "--inputs-json must be a JSON object"
  | .notPair item => "--input expects KEY=VALUE, got " ++ Text.quoted item

/-- The inputs of an object; none where nothing is given. -/
def objectInputs (source : String) : Except InputError Entries :=
  if source.isEmpty then .ok []
  else match Json.read source with
    | .ok (.dict _ es) => .ok es
    | .ok _ => .error .notObject
    | .error e => .error (.unreadable source e)

/-- Adds a single input. -/
def addInput (es : Entries) (item : String) : Except InputError Entries :=
  match Text.splitPair? item with
  | none | some ("", _) => .error (.notPair item)
  | some (name, source) => match Json.read source with
    | .ok v => .ok (es.setField name v)
    | .error (.at ..) => .ok (es.setField name (.str source))
    | .error e => .error (.unreadable source e)

/-- All initial inputs. -/
def initialInputs (object : String) (items : List String) : Except InputError Entries := do
  items.foldlM addInput (← objectInputs object)

end Workflow.Cli
