import Workflow.Value.Field

/-!
# Workflow.Run.Log

What a run tells about itself: the entries of its log, and the records that
go to the surrounding program's logging.
-/

namespace Workflow.Run

/-! ## Entries -/

/-- What an entry is about. -/
inductive Phase where
  | start | complete | error | info | warning
deriving DecidableEq, Inhabited

namespace Phase

/-- The name of a phase. -/
def name : Phase → String
  | .start => "start"
  | .complete => "complete"
  | .error => "error"
  | .info => "info"
  | .warning => "warning"

/-- All phases. -/
def all : List Phase := [.start, .complete, .error, .info, .warning]

/-- The phase of a name. -/
def ofName? (s : String) : Option Phase := all.find? fun p => p.name == s

end Phase

/-- An entry of the log: the node it concerns, that node's kind, and the
second at which it was made. -/
structure LogEntry where
  node : Value
  kind : String
  phase : Phase
  message : String
  payload : Value
  time : Nat
deriving Inhabited

/-! ## Records -/

/-- How serious a record is. -/
inductive Level where
  | debug | info | warning | error
deriving DecidableEq, Inhabited

namespace Level

/-- The name of a level. -/
def name : Level → String
  | .debug => "DEBUG"
  | .info => "INFO"
  | .warning => "WARNING"
  | .error => "ERROR"

/-- The level at which an entry is recorded. -/
def ofPhase : Phase → Level
  | .error => .error
  | .warning => .warning
  | _ => .info

end Level

/-- Who writes a record. -/
inductive Logger where
  | runner | context | bindings | control | llm | platform | anthropic
deriving DecidableEq, Inhabited

/-- The name under which a writer appears. -/
def Logger.name : Logger → String
  | .runner => "graphrun.core.runner"
  | .context => "graphrun.core.context"
  | .bindings => "graphrun.core.bindings"
  | .control => "graphrun.nodes.control"
  | .llm => "graphrun.nodes.llm"
  | .platform => "graphrun.services.platform"
  | .anthropic => "graphrun.services.anthropic_chat"

/-- A record. -/
structure Record where
  logger : Logger
  level : Level
  message : String
deriving Inhabited

/-- The full line of a record. -/
def Record.line (r : Record) : String := r.logger.name ++ " " ++ r.level.name ++ " " ++ r.message

/-- Where the entries of a log are sent as they are made. -/
inductive Sink where
  /-- Into the records. -/
  | standard
  /-- Somewhere that always fails, which is itself recorded. -/
  | failing
  /-- Nowhere. -/
  | silent
deriving DecidableEq, Inhabited

/-- Sends an entry to a sink: the records that it makes of it, if it does not fail. -/
def Sink.send? (s : Sink) (e : LogEntry) : Option (List Record) :=
  match s with
  | .standard => some [⟨.context, .ofPhase e.phase, "[" ++ e.kind ++ "] " ++ e.message⟩]
  | .failing => none
  | .silent => some []

/-- The records that sending an entry leaves.  That a sink has failed is recorded,
and has no other consequence. -/
def Sink.records (s : Sink) (e : LogEntry) : List Record :=
  match s.send? e with
  | some records => records
  | none => [⟨.context, .error, "Log sink failed for " ++ e.phase.name ++ " entry of node " ++ e.node.text⟩]

end Workflow.Run
