import Workflow.Cli.Report

/-!
# Workflow.Main

The program: carries out its command line on the files and the environment of
the process.  It has no way to a network, so whoever lives behind one is out of
its reach.
-/

namespace Workflow.Program

/-- The variables that settings are read from. -/
def settingNames : List String :=
  ["GRAPHRUN_BASE_URL", "GRAPHRUN_ACCESS_TOKEN", "GRAPHRUN_MODEL", "GRAPHRUN_HTTP_TIMEOUT"]

/-- The settings in the environment of the process. -/
def processEnvironment : IO (List (String × String)) :=
  settingNames.filterMapM fun name => do return (← IO.getEnv name).map fun value => (name, value)

/-- Why a file cannot be read. -/
def fileFault (path : String) : IO.Error → Fault
  | .noFileOrDirectory .. => .noSuchFile (Text.quoted path)
  | .inappropriateType .. => .isDirectory (Text.quoted path)
  | e => .valueRule (toString e)

/-- The text of a file. -/
def readFile (path : String) : IO (Except Fault String) := do
  match ← (IO.FS.readFile path).toBaseIO with
  | .ok text => return .ok text
  | .error e => return .error (fileFault path e)

/-- The file that a command line is about. -/
def filePath? (line : List String) : Option String :=
  match Cli.Invocation.read line with
  | .ok ⟨_, .run o⟩ => some (Cli.plainPath o.path)
  | .ok ⟨_, .inspect path⟩ => some (Cli.plainPath path)
  | _ => none

/-- The most steps that a run may take. -/
def maxSteps : Nat := 10000000

/-- Carries out a command line. -/
def carryOut (line : List String) : IO UInt32 := do
  let text ← match filePath? line with
    | some path => readFile path
    | none => pure (.ok "")
  let report := Cli.perform
    { environment := ← processEnvironment, read := fun _ => text,
      network := ⟨[], [], "All connection attempts failed"⟩, api := ⟨[], [], "Connection error."⟩ }
    maxSteps line
  (← IO.getStdout).putStr report.console.output
  let errors ← IO.getStderr
  errors.putStr report.console.errors
  match report.ending with
  | .exit code => return code.toUInt32
  | .leave t =>
    errors.putStr (t.message ++ "\n")
    return 1

end Workflow.Program

/-- The entry of the program. -/
def main (line : List String) : IO UInt32 := Workflow.Program.carryOut line
