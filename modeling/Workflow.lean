import Workflow.Bindings.Context
import Workflow.Bindings.Path
import Workflow.Bindings.Resolve
import Workflow.Cli.Command
import Workflow.Cli.File
import Workflow.Cli.Form
import Workflow.Cli.Help
import Workflow.Cli.Inputs
import Workflow.Cli.Report
import Workflow.Cli.Settings
import Workflow.Execute.Condition
import Workflow.Execute.Dispatch
import Workflow.Execute.Entry
import Workflow.Execute.Loop
import Workflow.Execute.Model
import Workflow.Execute.Retrieval
import Workflow.Execute.State
import Workflow.Execute.Tool
import Workflow.Execute.Transform
import Workflow.Expr.Arguments
import Workflow.Expr.Attribute
import Workflow.Expr.Builtin
import Workflow.Expr.ContainerMethod
import Workflow.Expr.Error
import Workflow.Expr.Eval
import Workflow.Expr.Literal
import Workflow.Expr.Operators
import Workflow.Expr.Parse
import Workflow.Expr.Syntax
import Workflow.Expr.TextMethod
import Workflow.Expr.Token
import Workflow.Graph.Basic
import Workflow.Graph.Document
import Workflow.Graph.Node
import Workflow.Graph.Source
import Workflow.Graph.Tables
import Workflow.Json.Read
import Workflow.Json.Write
import Workflow.Main
import Workflow.Number.Binary64
import Workflow.Number.Power
import Workflow.Number.Rounded
import Workflow.Number.Shortest
import Workflow.Proofs.Abandonment
import Workflow.Proofs.Active
import Workflow.Proofs.Additions
import Workflow.Proofs.Agreement
import Workflow.Proofs.Ancestors
import Workflow.Proofs.Asides
import Workflow.Proofs.Awaited
import Workflow.Proofs.BackEdges
import Workflow.Proofs.Bindings
import Workflow.Proofs.Calls
import Workflow.Proofs.Carried
import Workflow.Proofs.Checkpoints
import Workflow.Proofs.Choices
import Workflow.Proofs.Conditions
import Workflow.Proofs.Confluence
import Workflow.Proofs.Conversing
import Workflow.Proofs.Courses
import Workflow.Proofs.Culprits
import Workflow.Proofs.Debts
import Workflow.Proofs.Deeds
import Workflow.Proofs.Dialogue
import Workflow.Proofs.Division
import Workflow.Proofs.Doom
import Workflow.Proofs.Endings
import Workflow.Proofs.Errands
import Workflow.Proofs.Failures
import Workflow.Proofs.Fate
import Workflow.Proofs.Foresight
import Workflow.Proofs.Formulas
import Workflow.Proofs.Gates
import Workflow.Proofs.Graph
import Workflow.Proofs.Growth
import Workflow.Proofs.Halting
import Workflow.Proofs.History
import Workflow.Proofs.Independence
import Workflow.Proofs.Inputs
import Workflow.Proofs.Joins
import Workflow.Proofs.Ledger
import Workflow.Proofs.Lenses
import Workflow.Proofs.Loading
import Workflow.Proofs.Machine
import Workflow.Proofs.Moves
import Workflow.Proofs.Nesting
import Workflow.Proofs.Nests
import Workflow.Proofs.Observers
import Workflow.Proofs.Operands
import Workflow.Proofs.Outputs
import Workflow.Proofs.Passage
import Workflow.Proofs.Passes
import Workflow.Proofs.Printing
import Workflow.Proofs.Progress
import Workflow.Proofs.Reckoning
import Workflow.Proofs.Recovery
import Workflow.Proofs.Repetition
import Workflow.Proofs.Responses
import Workflow.Proofs.Results
import Workflow.Proofs.Retries
import Workflow.Proofs.Revisions
import Workflow.Proofs.Runs
import Workflow.Proofs.Selection
import Workflow.Proofs.Serial
import Workflow.Proofs.Settling
import Workflow.Proofs.Shape
import Workflow.Proofs.Sharing
import Workflow.Proofs.Spelling
import Workflow.Proofs.Streams
import Workflow.Proofs.Stretches
import Workflow.Proofs.Supply
import Workflow.Proofs.Targets
import Workflow.Proofs.Telling
import Workflow.Proofs.Timing
import Workflow.Proofs.Tokens
import Workflow.Proofs.ToolTurns
import Workflow.Proofs.Views
import Workflow.Proofs.Visited
import Workflow.Proofs.Work
import Workflow.Proofs.Writing
import Workflow.Run.Failure
import Workflow.Run.Gate
import Workflow.Run.Log
import Workflow.Run.Runner
import Workflow.Run.Schedule
import Workflow.Run.Work
import Workflow.Run.World
import Workflow.Service.Anthropic
import Workflow.Service.Basic
import Workflow.Service.ChatStream
import Workflow.Service.Host
import Workflow.Service.Http
import Workflow.Service.Platform
import Workflow.Service.Script
import Workflow.Service.Url
import Workflow.Text.Case
import Workflow.Text.CharSet
import Workflow.Text.Compatibility
import Workflow.Text.Lines
import Workflow.Text.Pair
import Workflow.Text.Properties
import Workflow.Text.Quoted
import Workflow.Value.Arithmetic
import Workflow.Value.Basic
import Workflow.Value.Calendar
import Workflow.Value.Codec
import Workflow.Value.Compare
import Workflow.Value.Fault
import Workflow.Value.Field
import Workflow.Value.Format
import Workflow.Value.Identity
import Workflow.Value.Index
import Workflow.Value.Key
import Workflow.Value.Mapping
import Workflow.Value.Show
import Workflow.Yaml.Cursor
import Workflow.Yaml.Node
import Workflow.Yaml.Read
import Workflow.Yaml.Scalar
import Workflow.Yaml.Tag
import Workflow.Yaml.Token
