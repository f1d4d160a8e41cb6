import Workflow.Expr.Builtin
import Workflow.Service.Anthropic

/-!
# Workflow.Cli.Settings

Defaults that are read from the environment.  A variable that is empty counts
as one that is not set.
-/

namespace Workflow.Cli

/-- Defaults of the command line. -/
structure Settings where
  baseUrl : Option String
  accessToken : Option String
  model : String
  /-- The seconds that a response may take. -/
  timeout : Float

namespace Settings

/-- The seconds that a response may take where nothing else is said. -/
def defaultTimeout : Float := 120.0

/-- A variable that is set and not empty. -/
def setting? (environment : List (String × String)) (name : String) : Option String :=
  (environment.lookup name).filter fun s => !s.isEmpty

/-- A variable that is a number. -/
def number (environment : List (String × String)) (name : String) (default : Float) : Except Fault Float :=
  match setting? environment name with
  | none => .ok default
  | some text => match Expr.floatOfText? text.toList with
    | some x => .ok x
    | none => .error (.settingNotNumber name (Text.quoted text))

/-- The settings that an environment makes. -/
def ofEnvironment (environment : List (String × String)) : Except Fault Settings := do
  let timeout ← number environment "GRAPHRUN_HTTP_TIMEOUT" defaultTimeout
  return ⟨setting? environment "GRAPHRUN_BASE_URL", setting? environment "GRAPHRUN_ACCESS_TOKEN",
    (setting? environment "GRAPHRUN_MODEL").getD Service.defaultModel, timeout⟩

end Settings
end Workflow.Cli
