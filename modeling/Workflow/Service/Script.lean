import Workflow.Run.Failure

/-!
# Workflow.Service.Script

Collaborators that answer from a script, for rehearsing a graph.

Tools are scripted by their names and code by its text; retrieval and
transformation have one answer each, and a model has its turns, which are
used up one after the other.  A collaborator that the script does not mention
is not there at all.
-/

namespace Workflow.Service

/-- What a scripted collaborator answers. -/
inductive Answer where
  | output (v : Value)
  /-- The arguments of the call. -/
  | echo
  | failure (e : ServiceError)
deriving Inhabited

/-- An answer and the seconds that pass before it. -/
structure Scripted where
  delay : Nat
  answer : Answer
deriving Inhabited

/-- A turn of a scripted model. -/
structure ScriptedTurn where
  delay : Nat
  reply : ChatReply
deriving Inhabited

/-- What collaborators answer, as far as they are scripted. -/
structure Script where
  tools : Option (List (String × Scripted))
  code : Option (List (String × Scripted))
  retrieval : Option Scripted
  transform : Option Scripted
  turns : Option (List ScriptedTurn)
deriving Inhabited

namespace Script

/-- The script of nobody. -/
def empty : Script := ⟨none, none, none, none, none⟩

/-- Is the collaborator for a role scripted? -/
def plays (s : Script) : Role → Bool
  | .model => s.turns.isSome
  | .tools => s.tools.isSome
  | .retrieval => s.retrieval.isSome
  | .transform => s.transform.isSome

/-- What an answer is to a call with the given arguments. -/
def Answer.resolve (arguments : Value) : Answer → Except Problem Reply
  | .output v => .ok (.value v)
  | .echo => .ok (.value arguments)
  | .failure e => .error (.service e)

/-- The answer under a name in a table, or else a failure. -/
def look (table : Option (List (String × Scripted))) (name arguments : Value) (missing : ServiceError) :
    Nat × Except Problem Reply :=
  let found := match name with
    | .str s => (table.getD []).lookup s
    | _ => none
  match found with
  | some r => (r.delay, Answer.resolve arguments r.answer)
  | none => (0, .error (.service missing))

/-- The only answer of a collaborator, which echoes nothing. -/
def single (r : Option Scripted) : Nat × Except Problem Reply :=
  match r with
  | some r => (r.delay, Answer.resolve .null r.answer)
  | none => (0, .ok (.value .null))

/-- Answers a call: after how many seconds, and what. -/
def answer (s : Script) (c : Call) : Script × Nat × Except Problem Reply :=
  match c with
  | .tool id args => (s, look s.tools id args ⟨"tool " ++ id.text ++ " failed", some 500⟩)
  | .code name args code => (s, look s.code code args ⟨"sandbox rejected " ++ name.text, none⟩)
  | .retrieval .. => (s, single s.retrieval)
  | .transform .. => (s, single s.transform)
  | .chat .. => match s.turns with
    | some (t :: rest) => ({ s with turns := some rest }, t.delay, .ok (.chat t.reply))
    | _ => (s, 0, .error (.service ⟨"no scripted reply", none⟩))

end Script
end Workflow.Service
