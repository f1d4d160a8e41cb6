import Workflow.Cli.Command
import Workflow.Cli.File
import Workflow.Cli.Inputs
import Workflow.Cli.Settings
import Workflow.Json.Write
import Workflow.Run.Runner
import Workflow.Service.Host

/-!
# Workflow.Cli.Report

What a command does: what it prints, what it asks of the world around it, and
how it ends.

A command ends with a code.  The code is 0 when it did what was asked, 1 when a
node of a run failed or nothing was asked, and 2 when a file, an input or a
setting is refused.  Trouble of another kind is not reported by the command; it
leaves the program as it is.
-/

namespace Workflow.Cli

/-! ## Trouble -/

/-- What keeps a command from being finished. -/
inductive Trouble where
  | fault (f : Fault)
  | graph (e : GraphError)
  | inputs (e : InputError)
  | run (e : Run.RunError)
deriving Inhabited

namespace Trouble

/-- The wording of trouble. -/
def message : Trouble → String
  | .fault f => f.message
  | .graph e => e.message
  | .inputs e => e.message
  | .run e => e.message

/-- Is a fault one of a value that is not accepted, or of a file? -/
def isRefusal (f : Fault) : Bool :=
  match f.kind with
  | .value | .encode | .decode | .file => true
  | _ => false

/-- Is a graph's error one that the command reports? -/
def reportsGraph : GraphError → Bool
  | .fault f => isRefusal f
  | _ => true

/-- Does the command report the trouble itself? -/
def isReported : Trouble → Bool
  | .fault f => isRefusal f
  | .graph e => reportsGraph e
  | .inputs _ => true
  | .run (.graph e) => reportsGraph e
  | .run (.failure (.own (.fault f))) => isRefusal f
  | .run _ => false

end Trouble

/-! ## Printing -/

/-- What has been printed, and what has been asked of others. -/
structure Console where
  output : String
  errors : String
  network : Service.Network
  api : Service.Api

/-- The line that says which graph a command is about. -/
def heading (path : String) (g : Graph) : String := "Graph: " ++ path ++ s!" ({g.size} nodes)"

/-- An entry of a log as a line. -/
def logLine (e : Run.LogEntry) : String :=
  "  [" ++ blanks (8 - e.phase.name.length) ++ e.phase.name ++ "] " ++ e.kind ++ ":" ++ e.node.text ++ " " ++ e.message

/-- A command under way. -/
abbrev Session := ExceptT Trouble (StateM Console)

namespace Session

/-- Prints a line. -/
def print (line : String) : Session Unit :=
  modify fun c => { c with output := c.output ++ line ++ "\n" }

/-- Prints a line where errors go. -/
def complain (line : String) : Session Unit :=
  modify fun c => { c with errors := c.errors ++ line ++ "\n" }

/-- A result that may be trouble. -/
def lift (trouble : ε → Trouble) (r : Except ε α) : Session α := r.mapError trouble

/-- Prints a value as JSON. -/
def printJson (style : Json.Style) (v : Value) : Session Unit := do
  print (← lift .fault (Json.write style v))

/-- Prints which graph the command is about. -/
def printHeading (path : String) (g : Graph) : Session Unit := print (heading path g)

/-- Prints the log of a run. -/
def printLog (log : List Run.LogEntry) : Session Unit := do
  print "\nExecution log:"
  for e in log do
    print (logLine e)

/-- Prints what a run gave, or what its failing node says; the result is the code
to end with. -/
def printOutcome (outcome : Except Run.RunError Value) : Session Nat :=
  match outcome with
  | .ok .null => do
    print "\nNo end node was reached."
    return 0
  | .ok v => do
    printJson .indentedAny v
    return 0
  | .error (.failure (.node n)) => do
    complain ("\nRun failed: " ++ n.message)
    return 1
  | .error r => throw (.run r)

/-- Prints how a run ended, with its log if that is asked for. -/
def printRun (showLog : Bool) (e : Run.Ended Service.Host) : Session Nat := do
  let code ← printOutcome e.outcome
  if showLog then printLog e.world.log
  return code

end Session

/-! ## Commands -/

/-- What a command finds around it. -/
structure Surroundings where
  environment : List (String × String)
  read : Reader
  network : Service.Network
  api : Service.Api

/-- The record of a run as a line; those for debugging are told only on demand. -/
def recordLine? (verbose : Bool) (r : Run.Record) : Option String :=
  if verbose then some r.line
  else if r.level = .debug then none
  else some r.message

/-- What is given and not empty, or else a default. -/
def givenOr (given default : Option String) : Option String :=
  match given with
  | none | some "" => default
  | some s => some s

/-- Those who answer the questions of a run. -/
def hostOf (settings : Settings) (o : RunOptions) (s : Surroundings) : Service.Host :=
  let token : Service.Token := match givenOr o.token settings.accessToken with
    | some t => .fixed t
    | none => .absent
  let model := (givenOr o.model (some settings.model)).getD settings.model
  let conversations := Service.Conversations.empty (.str model) (.int Service.defaultMaxTokens)
  { script := .empty, conversations := if o.anthropic then some conversations else none, api := s.api,
    platform := Service.Host.platformAt (givenOr o.baseUrl settings.baseUrl) token,
    network := s.network, connected := false, calls := [] }

/-- The plan of a run from the command line. -/
def planOf (g : Graph) (inputs : Entries) (h : Service.Host) : Run.Plan where
  graph := g
  inputs := .dict none inputs
  sink := .standard
  kinds := NodeKind.all
  runsCode := false
  reach := h.reach
  nesting := 1000
  turns := 1000000

/-- The run of a graph from the command line, in at most `fuel` steps. -/
def runOf (s : Surroundings) (settings : Settings) (o : RunOptions) (g : Graph) (inputs : Entries) (fuel : Nat) :
    Run.Ended Service.Host :=
  let h := hostOf settings o s
  Run.runGraph (planOf g inputs h) ⟨h, Service.Host.serve⟩ fuel .empty

/-- Runs the graph in a file and prints what its end node gives. -/
def runCommand (s : Surroundings) (verbose : Bool) (fuel : Nat) (o : RunOptions) : Session Nat := do
  let settings ← Session.lift .fault (Settings.ofEnvironment s.environment)
  let g ← Session.lift .graph (graphInFile s.read o.path)
  let inputs ← Session.lift .inputs (initialInputs (o.inputObject.getD "") o.inputs)
  Session.printHeading o.path g
  let e := runOf s settings o g inputs fuel
  modify fun c => { c with network := e.services.network, api := e.services.api }
  for line in e.world.records.filterMap (recordLine? verbose) do Session.complain line
  Session.printRun o.showLog e

/-- Prints what the graph in a file declares. -/
def inspectCommand (s : Surroundings) (path : String) : Session Nat := do
  let g ← Session.lift .graph (graphInFile s.read path)
  Session.printHeading path g
  Session.print "\nStart parameters:"
  let p ← Session.lift .fault g.startParams
  Session.printJson .indented (.record [("schema", p.schema), ("type", p.type)])
  let tools ← Session.lift .fault g.customTools
  Session.print s!"\nCustom tools: {tools.length}"
  for t in tools do
    Session.printJson .indented (.record [("tool_name", t.name), ("request_schema", t.requestSchema),
      ("response_schema", t.responseSchema), ("function_body", t.body)])
  return 0

/-! ## Reports -/

/-- How a command ends. -/
inductive Ending where
  | exit (code : Nat)
  /-- With trouble that is not reported. -/
  | leave (t : Trouble)
deriving Inhabited

/-- What a command leaves behind. -/
structure Report where
  ending : Ending
  console : Console

/-- Reports how a command went. -/
def Report.ofSession (c : Console) (session : Session Nat) : Report :=
  match session.run.run c with
  | (.ok code, c) => ⟨.exit code, c⟩
  | (.error t, c) =>
    if t.isReported then ⟨.exit 2, { c with errors := c.errors ++ "Error: " ++ t.message ++ "\n" }⟩
    else ⟨.leave t, c⟩

/-- Carries out a command line; a run takes at most `fuel` steps. -/
def perform (s : Surroundings) (fuel : Nat) (line : List String) : Report :=
  let console : Console := ⟨"", "", s.network, s.api⟩
  match Invocation.read line with
  | .error (.help f) => ⟨.exit 0, { console with output := f.help }⟩
  | .error (.mistake f m) => ⟨.exit 2, { console with errors := f.complaint m }⟩
  | .ok ⟨verbose, command⟩ => match command with
    | .overview => ⟨.exit 1, { console with output := programForm.help }⟩
    | .run o => .ofSession console (runCommand s verbose fuel o)
    | .inspect path => .ofSession console (inspectCommand s path)

end Workflow.Cli
