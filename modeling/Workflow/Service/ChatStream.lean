import Workflow.Json.Read
import Workflow.Run.Failure
import Workflow.Run.Log
import Workflow.Text.Lines
import Workflow.Value.Index

/-!
# Workflow.Service.ChatStream

The stream in which the platform answers a model request.

1. A line is an event if it begins with the marker and goes on with a JSON
   object.  Other lines mean nothing; one whose JSON cannot be read is recorded.
2. A `Draft` is the reply so far.  Tokens are collected; a final response sets
   message and parsed value; the end of a turn without final response makes the
   tokens the message.
3. An error event fails the turn, and a request for tools finishes it, whatever
   follows.
-/

namespace Workflow.Service

open Run

/-! ## Lines -/

/-- What a line of the stream holds. -/
inductive StreamLine where
  | nothing
  | malformed
  | event (es : Entries)
deriving Inhabited

/-- The JSON text behind the marker with which events begin. -/
def eventText? (line : String) : Option String :=
  if "data: ".toList.isPrefixOf line.toList then some (String.ofList (line.toList.drop 6)) else none

/-- Reads a line. -/
def readLine (line : String) : Except Fault StreamLine :=
  match eventText? line with
  | none => .ok .nothing
  | some text => match Json.read text with
    | .ok (.dict _ es) => .ok (.event es)
    | .ok _ => .ok .nothing
    | .error (.tooManyDigits n) => .error (.tooManyDigitsIn n)
    | .error (.at ..) => .ok .malformed

/-- The record of a line that could not be read. -/
def malformedRecord (line : String) : Record :=
  ⟨.platform, .warning,
    "Ignoring malformed stream event: " ++ Text.quoted (String.ofList (line.toList.take 200))⟩

/-! ## Drafts -/

/-- A reply so far. -/
structure Draft where
  message : Value
  parsed : Value
  tokens : List Value
  /-- Was there a final response? -/
  final : Bool
deriving Inhabited

namespace Draft

/-- A reply of which nothing has arrived. -/
def empty : Draft := ⟨.null, .null, [], false⟩

/-- All tokens as the message. -/
def withTokens (d : Draft) : Except Fault Draft := do
  return { d with message := .str (← joinTexts d.tokens) }

/-- A tool call from its entry. -/
def toolCall (entry : Value) : Except Fault ToolCall := do
  let name ← entry.item (.str "name")
  return ⟨name, (← entry.read "args").orElse (.record []), ← entry.read "tool_call_id"⟩

/-- The reply that asks for tools. -/
def toolReply (d : Draft) (event : Entries) : Except Fault ChatReply := do
  let entries ← (event.field "tool_calls").itemsOrNone
  let calls ← entries.mapM toolCall
  let configurable := (event.field "configurable").orElse (.record [])
  return ⟨d.message, calls, d.parsed, ← configurable.read "checkpoint_id"⟩

/-- The reply at the end of the stream. -/
def reply (d : Draft) : Except Fault ChatReply := do
  let d ← match d.message, d.tokens with
    | .null, _ :: _ => d.withTokens
    | _, _ => pure d
  return ⟨d.message, [], d.parsed, .null⟩

end Draft

/-! ## Events -/

/-- How far a stream has been read. -/
inductive Progress where
  | reading (d : Draft)
  | finished (r : ChatReply)
  | failed (p : Problem)
deriving Inhabited

/-- An operation on values as a step of the reading. -/
def Progress.ofResult (next : α → Progress) : Except Fault α → Progress
  | .ok a => next a
  | .error f => .failed (.fault f)

/-- What an error event reports. -/
def errorOf (event : Entries) : ServiceError :=
  ⟨"Model service error: " ++ ((event.field "message").orElse (event.field "error")).text, none⟩

/-- Takes an event into a draft. -/
def Draft.take (d : Draft) (event : Entries) : Progress :=
  match event.field "type" with
  | .str "token" =>
    .reading { d with tokens := d.tokens ++ [(event.field "content").orElse (.str "")] }
  | .str "final_response" =>
    let parsed := match event.field "parsed" with
      | .null => d.parsed
      | v => v
    .reading { d with final := true, message := event.field "message", parsed }
  | .str "end" =>
    if !d.final && !d.tokens.isEmpty then .ofResult .reading d.withTokens else .reading d
  | .str "error" => .failed (.service (errorOf event))
  | .str "tool_call_required" => .ofResult .finished (d.toolReply event)
  | _ => .reading d

/-- Reads lines into a draft, and records those that are malformed. -/
def Draft.readLines (d : Draft) : List String → List Record × Progress
  | [] => ([], .reading d)
  | line :: rest => match readLine line with
    | .error f => ([], .failed (.fault f))
    | .ok .nothing => d.readLines rest
    | .ok .malformed =>
      let (records, progress) := d.readLines rest
      (malformedRecord line :: records, progress)
    | .ok (.event es) => match d.take es with
      | .reading d => d.readLines rest
      | progress => ([], progress)

/-- The reply that a whole stream of lines gives. -/
def chatReply (lines : List String) : List Record × Except Problem ChatReply :=
  match Draft.empty.readLines lines with
  | (records, .reading d) => (records, d.reply.mapError .fault)
  | (records, .finished r) => (records, .ok r)
  | (records, .failed p) => (records, .error p)

/-- The reply that a stream gives which breaks off for the given reason. -/
def brokenReply (lines : List String) (reason : ServiceError) : List Record × Except Problem ChatReply :=
  match Draft.empty.readLines lines with
  | (records, .reading _) => (records, .error (.service reason))
  | (records, .finished r) => (records, .ok r)
  | (records, .failed p) => (records, .error p)

end Workflow.Service
