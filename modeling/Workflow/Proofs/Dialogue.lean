import Workflow.Execute.Dispatch

/-!
# Workflow.Proofs.Dialogue

What a model node says to the service of models.

A `Dialogue` is how far a node has come: it begins without a checkpoint, and
after an answer that asks for tools it calls just these tools and goes on with
their results under the checkpoint of that answer.  `Step.Converses` reads the
waits of a computation along a dialogue, whatever is answered and however the
world changes in between; `dispatch_converses` is that model nodes do.
-/

namespace Workflow.Run

/-! ## Dialogues -/

/-- How far a node has come with the service. -/
inductive Dialogue where
  /-- Nothing has been said. -/
  | opening
  /-- Tools have been asked for. -/
  | called (calls : List ToolCall) (checkpoint : Value)
  /-- The tools have answered. -/
  | informed (calls : List ToolCall) (messages : List Value) (checkpoint : Value)
  /-- There is nothing more to say. -/
  | closed

namespace Dialogue

/-- What may be asked next. -/
def Asks (request : Entries) (checkpoint : Value) : Dialogue → Prop
  | .opening => checkpoint = .null
  | .informed _ messages c => checkpoint = c ∧ Entries.field request "messages" = .list messages
  | _ => False

/-- The dialogue after an answer. -/
def hear : Except Problem Reply → Dialogue
  | .ok reply => if reply.toChat.toolCalls.isEmpty then .closed else .called reply.toChat.toolCalls reply.toChat.checkpoint
  | .error _ => .closed

theorem hear_chat (reply : ChatReply) : hear (.ok (.chat reply)) =
    if reply.toolCalls.isEmpty then .closed else .called reply.toolCalls reply.checkpoint := rfl

/-- The dialogue once the tools have been called. -/
def inform (calls : List ToolCall) (checkpoint : Value) : Except Problem (List Value) → Dialogue
  | .ok messages => .informed calls messages checkpoint
  | .error _ => .closed

end Dialogue

namespace Step

variable {α β : Type} {plan : Plan} {d : Dialogue}

/-- All that the computation asks is what the dialogue allows, and all tools that
it calls are those that have been asked for. -/
def Converses (plan : Plan) : Dialogue → Step α → Prop
  | _, .done _ _ => True
  | _, .fail _ _ => True
  | d, .call _ c next => (∃ o request checkpoint, c = .chat (.dict o request) checkpoint ∧ d.Asks request checkpoint) ∧
      ∀ r w, Converses plan (Dialogue.hear r) (next r w)
  | d, .tools _ tasks next => ∃ n calls checkpoint, d = .called calls checkpoint ∧
      tasks = calls.map (Execute.toolTask plan n) ∧ ∀ r w, Converses plan (Dialogue.inform calls checkpoint r) (next r w)

/-- A computation that does not wait. -/
def Prompt : Step α → Prop
  | .done _ _ | .fail _ _ => True
  | .call _ _ _ | .tools _ _ _ => False

theorem Prompt.converses : {s : Step α} → s.Prompt → s.Converses plan d
  | .done _ _, _ => trivial
  | .fail _ _, _ => trivial

/-- After a computation that does not wait, a dialogue goes on. -/
theorem Prompt.bind {next : α → Work β} (hnext : ∀ a w, (next a w).Converses plan d) :
    {s : Step α} → s.Prompt → (s.bind next).Converses plan d
  | .done w a, _ => hnext a w
  | .fail _ _, _ => trivial

/-- A dialogue ends where nothing but a computation that does not wait follows. -/
theorem Converses.bind {next : α → Work β} (hnext : ∀ a w, (next a w).Prompt) :
    {s : Step α} → {d : Dialogue} → s.Converses plan d → (s.bind next).Converses plan d
  | .done w a, _, _ => (hnext a w).converses
  | .fail _ _, _, _ => trivial
  | .call _ _ _, _, h => ⟨h.1, fun r w => (h.2 r w).bind hnext⟩
  | .tools _ _ _, _, ⟨n, calls, checkpoint, hd, htasks, h⟩ =>
      ⟨n, calls, checkpoint, hd, htasks, fun r w => (h r w).bind hnext⟩

/-- To turn failures into results says nothing. -/
theorem Converses.attempt : {s : Step α} → {d : Dialogue} → s.Converses plan d → s.attempt.Converses plan d
  | .done _ _, _, _ => trivial
  | .fail _ _, _, _ => trivial
  | .call _ _ _, _, h => ⟨h.1, fun r w => (h.2 r w).attempt⟩
  | .tools _ _ _, _, ⟨n, calls, checkpoint, hd, htasks, h⟩ =>
      ⟨n, calls, checkpoint, hd, htasks, fun r w => (h r w).attempt⟩

end Step

/-! ## Computations -/

namespace Work

variable {α β : Type} {plan : Plan} {d : Dialogue}

/-- The computation does not wait. -/
def Prompt (x : Work α) : Prop := ∀ w, (x w).Prompt

/-- The computation follows the dialogue. -/
def Converses (plan : Plan) (d : Dialogue) (x : Work α) : Prop := ∀ w, (x w).Converses plan d

@[simp] theorem prompt_pure (a : α) : Prompt (Pure.pure a) := fun _ => trivial

@[simp] theorem prompt_get : Prompt get := fun _ => trivial

@[simp] theorem prompt_current (n : Node) : Prompt (current n) := fun _ => trivial

@[simp] theorem prompt_modify (f : World → World) : Prompt (modify f) := fun _ => trivial

@[simp] theorem prompt_throw (p : Problem) : Prompt (throw p : Work α) := fun _ => trivial

@[simp] theorem prompt_rethrow (f : Failure) : Prompt (rethrow f : Work α) := fun _ => trivial

@[simp] theorem prompt_note (plan : Plan) (n : Node) (phase : Phase) (message : String) (payload : Value) :
    Prompt (note plan n phase message payload) := fun _ => trivial

@[simp] theorem prompt_lift (r : Except Fault α) : Prompt (lift r) := by
  cases r <;> exact fun _ => trivial

@[simp] theorem prompt_check (r : Except Problem α) : Prompt (check r) := by
  cases r <;> exact fun _ => trivial

@[simp] theorem prompt_resolve (plan : Plan) (n : Node) : Prompt (resolve plan n) := by
  intro w
  unfold resolve
  split <;> trivial

@[simp] theorem prompt_bind {x : Work α} {next : α → Work β} (hx : x.Prompt) (hnext : ∀ a, (next a).Prompt) :
    Prompt (x >>= next) := by
  intro w
  have h := hx w
  rw [bind_apply]
  generalize x w = s at h
  cases s with
  | done v a => exact hnext a v
  | fail v f => trivial
  | call v c k => exact h.elim
  | tools v tasks k => exact h.elim

@[simp] theorem prompt_ite {c : Prop} [Decidable c] {x y : Work α} (hx : x.Prompt) (hy : y.Prompt) :
    Prompt (if c then x else y) := by
  split <;> assumption

theorem Prompt.andThen {x : Work α} {next : α → Work β} (hx : x.Prompt) (hnext : ∀ a, (next a).Converses plan d) :
    (x >>= next).Converses plan d :=
  fun w => (hx w).bind fun a v => hnext a v

theorem Prompt.converses {x : Work α} (hx : x.Prompt) : x.Converses plan d := fun w => (hx w).converses

theorem Converses.bind {x : Work α} {next : α → Work β} (hx : x.Converses plan d) (hnext : ∀ a, (next a).Prompt) :
    (x >>= next).Converses plan d :=
  fun w => (hx w).bind fun a v => hnext a v

/-- Nothing follows a failure. -/
theorem converses_throw (p : Problem) (next : α → Work β) : (throw p >>= next).Converses plan d := fun _ => trivial

/-- A question that the dialogue allows. -/
theorem converses_call {o : Option MapId} {request : Entries} {checkpoint : Value} (hasks : d.Asks request checkpoint)
    {next : Reply → Work α} (hnext : ∀ reply, (next reply).Converses plan (Dialogue.hear (.ok reply))) :
    (call (.chat (.dict o request) checkpoint) >>= next).Converses plan d := by
  refine fun w => ⟨⟨o, request, checkpoint, rfl, hasks⟩, fun r v => ?_⟩
  cases r with
  | ok reply => exact hnext reply v
  | error p => trivial

/-- The tools that have been asked for are called. -/
theorem converses_tools {n : Node} {calls : List ToolCall} {checkpoint : Value} {next : List Value → Work α}
    (hnext : ∀ messages, (next messages).Converses plan (.informed calls messages checkpoint)) :
    (tools (calls.map (Execute.toolTask plan n)) >>= next).Converses plan (.called calls checkpoint) := by
  refine fun w => ⟨n, calls, checkpoint, rfl, rfl, fun r v => ?_⟩
  cases r with
  | ok messages => exact hnext messages v
  | error p => trivial

end Work
end Workflow.Run

namespace Workflow.Execute

open Run

/-! ## Model nodes -/

variable {plan : Plan} {d : Dialogue}

theorem inputsOr_prompt (plan : Plan) (n : Node) (fallback : Value → Except Fault Value) :
    (inputsOr plan n fallback).Prompt := by
  unfold inputsOr
  refine Work.prompt_bind (by simp) fun inputs => Work.prompt_ite ?_ (by simp)
  exact Work.prompt_bind (by simp) fun w => Work.prompt_ite (by simp) (by simp)

/-- A node goes on asking for as long as it is asked for tools. -/
theorem converse_converses (plan : Plan) (n : Node) (turns : Nat) : ∀ {d : Dialogue} (request : Entries) (checkpoint : Value),
    d.Asks request checkpoint → (converse plan n turns request checkpoint).Converses plan d := by
  induction turns with
  | zero => exact fun _ _ _ => (Work.prompt_throw _).converses
  | succ turns ih =>
      intro d request checkpoint hasks
      unfold converse
      refine (Work.prompt_check _).andThen fun _ => Work.converses_call hasks fun reply => ?_
      dsimp only
      cases hcalls : reply.toChat.toolCalls.isEmpty with
      | true => exact (Work.prompt_pure _).converses
      | false =>
          simp only [Dialogue.hear, hcalls, Bool.false_eq_true, ↓reduceIte]
          refine (Work.prompt_note _ _ _ _ _).andThen fun _ => Work.converses_tools fun messages => ?_
          exact ih _ _ ⟨rfl, by simp [withMessages, Entries.field, Entries.field?_setField_same]⟩

theorem model_converses (plan : Plan) (n : Node) : (model plan n).Converses plan .opening := by
  unfold model
  refine (Work.prompt_current n).andThen fun n => ?_
  split
  · exact Work.converses_throw _ _
  refine (inputsOr_prompt plan n _).andThen fun inputs => (Work.prompt_note _ _ _ _ _).andThen fun _ => ?_
  refine Work.prompt_get.andThen fun w => (Work.prompt_lift _).andThen fun request => ?_
  have hopening : Dialogue.opening.Asks request .null := rfl
  exact (converse_converses plan n plan.turns request .null hopening).bind fun reply => Work.prompt_lift _

/-- Log entries about an execution are no part of the dialogue. -/
theorem execute_converses (plan : Plan) {x : Work Value} (hx : x.Converses plan d) (n : Node) :
    (execute plan x n).Converses plan d := by
  unfold execute
  refine Work.prompt_get.andThen fun w => (Work.prompt_note _ _ _ _ _).andThen fun _ => Work.prompt_get.andThen fun w => ?_
  refine Work.Converses.bind (fun w => (hx w).attempt) fun outcome => ?_
  rcases outcome with (_ | _) | output
  · exact Work.prompt_bind (Work.prompt_note _ _ _ _ _) fun _ => Work.prompt_rethrow _
  · exact Work.prompt_bind (Work.prompt_note _ _ _ _ _) fun _ => Work.prompt_rethrow _
  · exact Work.prompt_bind Work.prompt_get fun w => Work.prompt_bind (Work.prompt_note _ _ _ _ _) fun _ => Work.prompt_pure _

/-- A model node follows the dialogue as it is dispatched. -/
theorem dispatch_converses (plan : Plan) {n : Node} (hkind : n.kind = .llm) : (dispatch plan n).Converses plan .opening := by
  have hperform : perform plan plan.nesting n = model plan n := by
    cases plan.nesting <;> simp only [perform, hkind]
  unfold dispatch dispatchWith
  rw [hperform]
  split
  · exact Work.converses_throw _ _
  refine (execute_converses plan (model_converses plan n) n).bind fun output => ?_
  exact Work.prompt_bind (Work.prompt_modify _) fun _ => Work.prompt_pure _

end Workflow.Execute
