import Workflow.Cli.Help

/-!
# Workflow.Cli.Command

What can be asked of the program on its command line.
-/

namespace Workflow.Cli

/-- What a run is given. -/
structure RunOptions where
  path : String
  inputs : List String
  inputObject : Option String
  baseUrl : Option String
  token : Option String
  /-- Are models asked by way of the Anthropic API? -/
  anthropic : Bool
  model : Option String
  showLog : Bool
deriving DecidableEq, Inhabited

/-- What is to be done. -/
inductive Command where
  /-- Say what can be done. -/
  | overview
  | run (o : RunOptions)
  | inspect (path : String)
deriving DecidableEq, Inhabited

/-- A command line that is understood. -/
structure Invocation where
  verbose : Bool
  command : Command
deriving DecidableEq, Inhabited

/-! ## Forms -/

/-- The commands and what they are for. -/
def commands : List (String × String) :=
  [("run", "Run a graph document"), ("inspect", "Show a graph's start parameters and custom tools")]

/-- The form of all command lines. -/
def programForm : Form where
  program := "graphrun"
  description := some "Run typed workflow graphs"
  flags := [helpFlag, ⟨["-v", "--verbose"], none, "Enable debug logging"⟩]
  operand := .command "command" commands

/-- The form of what follows `run`. -/
def runForm : Form where
  program := "graphrun run"
  description := none
  flags := [helpFlag,
    ⟨["--input"], some "KEY=VALUE", "Initial input; VALUE is parsed as JSON when possible (repeatable)"⟩,
    ⟨["--inputs-json"], some "INPUTS_JSON", "Initial inputs as a JSON object"⟩,
    ⟨["--base-url"], some "BASE_URL", "Platform base URL (default: $GRAPHRUN_BASE_URL)"⟩,
    ⟨["--token"], some "TOKEN", "Access token (default: $GRAPHRUN_ACCESS_TOKEN)"⟩,
    ⟨["--anthropic"], none, "Serve LLM nodes with the Anthropic API"⟩,
    ⟨["--model"], some "MODEL", "Anthropic model for --anthropic"⟩,
    ⟨["--show-log"], none, "Print the execution log after the run"⟩]
  operand := .text "graph" "Path to the graph document (.json, .yaml or .yml)"

/-- The form of what follows `inspect`. -/
def inspectForm : Form where
  program := "graphrun inspect"
  description := none
  flags := [helpFlag]
  operand := .text "graph" "Path to the graph document"

/-! ## Reading -/

/-- Reads what follows the name of a command. -/
def Command.readRest (f : Form) (make : Reading → String → Command) (line : List String) :
    Except Stop (Command × List String) := do
  let r ← f.read line
  match r.operands with
  | path :: _ => return (make r path, r.extras)
  | [] => throw (.mistake f (.noOperand "graph"))

/-- Reads a command and what it is given. -/
def Command.read : List String → Except Stop (Command × List String)
  | [] => .ok (.overview, [])
  | "run" :: line => readRest runForm (fun r path => .run
      { path, inputs := r.values "--input", inputObject := r.value? "--inputs-json",
        baseUrl := r.value? "--base-url", token := r.value? "--token", anthropic := r.has "--anthropic",
        model := r.value? "--model", showLog := r.has "--show-log" }) line
  | "inspect" :: line => readRest inspectForm (fun _ path => .inspect path) line
  | word :: _ => .error (.mistake programForm (.unknownCommand "command" word (commands.map (·.1))))

/-- Reads a command line; words that have no place anywhere are a mistake. -/
def Invocation.read (line : List String) : Except Stop Invocation := do
  let r ← programForm.read line
  let (command, extras) ← Command.read r.operands
  match r.extras ++ extras with
  | [] => return ⟨r.has "--verbose", command⟩
  | extras => throw (.mistake programForm (.unrecognized extras))

end Workflow.Cli
