import Workflow.Run.Schedule
import Workflow.Service.Anthropic
import Workflow.Service.Platform
import Workflow.Service.Script

/-!
# Workflow.Service.Host

Who answers the questions of a run.

Every role has a provider.  A scripted collaborator goes first, then what the
run was set up with for models, then the platform, which is there if its base
URL is not empty; a role that nobody plays cannot be asked.
-/

namespace Workflow.Service

open Run

/-- Who plays a role. -/
inductive Provider where
  | script
  | anthropic
  | platform
  | nobody
deriving DecidableEq, Inhabited

/-- Everybody who can answer, and what they have been asked. -/
structure Host where
  script : Script
  /-- Are models asked by way of the Anthropic API? -/
  conversations : Option Conversations
  api : Api
  platform : Option Platform
  network : Network
  /-- Has the platform been used since it was last closed? -/
  connected : Bool
  /-- The scripted calls so far, with the seconds at which they began. -/
  calls : List (Nat × Call)

namespace Host

/-- The platform for a base URL, if there is one. -/
def platformAt (baseUrl : Option String) (token : Token) : Option Platform :=
  match baseUrl with
  | none | some "" => none
  | some url => some (Platform.ofUrl url token)

/-- Who plays a role. -/
def provider (h : Host) (r : Role) : Provider :=
  if h.script.plays r then .script
  else if r = .model && h.conversations.isSome then .anthropic
  else if h.platform.isSome then .platform
  else .nobody

/-- The problem of a role that nobody plays. -/
def unreachable : Problem := .service ⟨"No collaborator configured and no base_url to reach the platform", none⟩

/-- Can the one who plays a role be asked? -/
def reach (h : Host) (r : Role) : Except Problem Unit :=
  if h.provider r = .nobody then .error unreachable else .ok ()

/-- Turns to the one who plays a role; the platform is connected to when it is
first needed. -/
def turnTo (h : Host) (r : Role) : Host × Except Problem Provider :=
  match h.provider r with
  | .nobody => (h, .error unreachable)
  | .platform => ({ h with connected := true }, .ok .platform)
  | p => (h, .ok p)

/-- Ends the connection to the platform. -/
def close (h : Host) : Host := { h with connected := false }

/-- The role that a call is for; code is run beside all roles. -/
def roleOf : Call → Option Role
  | .tool .. => some .tools
  | .code .. => none
  | .retrieval .. => some .retrieval
  | .transform .. => some .transform
  | .chat .. => some .model

/-- Asks the script. -/
def askScript (h : Host) (clock : Nat) (c : Call) : Host × Served :=
  let (script, delay, outcome) := h.script.answer c
  ({ h with script, calls := h.calls ++ [(clock, c)] }, ⟨delay, outcome, []⟩)

/-- Asks the platform. -/
def askPlatform (h : Host) (c : Call) : Host × Served :=
  match h.platform with
  | none => (h, ⟨0, .error unreachable, []⟩)
  | some p =>
    let (outcome, session) := ((p.ask c).run ⟨h.network, []⟩).run
    ({ h with network := session.network }, ⟨0, outcome, session.records⟩)

/-- Asks the Anthropic API. -/
def askAnthropic (h : Host) (c : Call) : Host × Served :=
  match h.conversations, c with
  | some cs, .chat request checkpoint =>
    let t := cs.turn h.api request checkpoint
    ({ h with conversations := some t.conversations, api := t.api }, ⟨0, t.reply.map .chat, t.records⟩)
  | _, _ => (h, ⟨0, .error unreachable, []⟩)

/-- Takes a call at a second. -/
def serve (h : Host) (clock : Nat) (c : Call) : Host × Served :=
  match roleOf c with
  | none => h.askScript clock c
  | some r => match h.turnTo r with
    | (h, .ok .script) => h.askScript clock c
    | (h, .ok .anthropic) => h.askAnthropic c
    | (h, .ok _) => h.askPlatform c
    | (h, .error p) => (h, ⟨0, .error p, []⟩)

end Host
end Workflow.Service
