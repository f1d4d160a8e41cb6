import Workflow.Proofs.Asides
import Workflow.Proofs.Bindings
import Workflow.Proofs.Dialogue
import Workflow.Proofs.Errands

/-!
# Workflow.Proofs.ToolTurns

The turns of a model node, when every tool that is asked for can be called and answers.

A `ToolTurn` is a reply that asks for tools, with what is called for each and what
comes back.  The questions of a node are then determined by its first one
(`questions`): each turn is followed by its calls, each once and in the order in which
they were asked for, and by the first request once more, with one message for each call
in place of its messages, under the checkpoint of the turn.  That is so however long
each answer takes (`turns_follow_requests`).
-/

namespace Workflow

/-- Only a text has the key of a text. -/
theorem Value.key?_eq_ofString {v : Value} {s : String} : v.key? = some (Key.ofString s) ↔ v = .str s := by
  cases v with
  | tuple xs => simp [Value.key?, Key.ofString]
  | float x =>
      simp only [Value.key?, Key.ofFloat, Key.ofString]
      split <;> simp
  | _ => simp [Value.key?, Key.ofString]

/-- Only a text equals a text. -/
theorem Value.eq_str_iff {v : Value} {s : String} : v.eq (.str s) = true ↔ v = .str s := by
  cases hkey : v.key? with
  | none =>
      have heq : v.eq (.str s) = false := by rw [Value.eq] <;> simp [hkey]
      have hne : v ≠ .str s := fun h => by simp [h] at hkey
      simp [heq, hne]
  | some k =>
      have heq : v.eq (.str s) = (k == Key.ofString s && !v.isNaN) := by rw [Value.eq] <;> simp [hkey]
      rw [heq]
      constructor
      · intro h
        obtain ⟨rfl, -⟩ : k = Key.ofString s ∧ _ := by simpa using h
        exact Value.key?_eq_ofString.mp hkey
      · rintro rfl
        obtain rfl : Key.ofString s = k := by simpa using hkey
        simp [Value.isNaN]

/-- Is the question one to a model? -/
def Call.isChat : Call → Bool
  | .chat .. => true
  | _ => false

end Workflow

namespace Workflow.Execute

open Run Run.Machine

/-! ## Turns -/

/-- A tool that a model asks for, what is called for it, what comes back, and what the
model is told. -/
structure ToolUse where
  wanted : ToolCall
  invoked : Call
  result : Value
  content : Value

/-- A reply that asks for tools. -/
structure ToolTurn where
  message : Value
  parsed : Value
  checkpoint : Value
  uses : List ToolUse
  nonempty : uses ≠ []

namespace ToolUse

/-- The tool is found among those of the node and can be called.  A result that is a
text is told as it is, and others are told as JSON. -/
structure Succeeds (plan : Plan) (n : Node) (w : World) (u : ToolUse) : Prop where
  resolves : (startTool plan n u.wanted w).2 = .ok u.invoked
  told : match u.result with
    | .str _ => u.content = u.result
    | _ => ∃ text, jsonLine u.result = .ok text ∧ u.content = .str text

/-- The message that tells the model. -/
def message (u : ToolUse) : Value :=
  .record [("role", .str "tool"), ("name", u.wanted.name), ("tool_call_id", u.wanted.callId), ("content", u.content)]

end ToolUse

namespace ToolTurn

/-- The reply of the model. -/
def reply (t : ToolTurn) : ChatReply := ⟨t.message, t.uses.map ToolUse.wanted, t.parsed, t.checkpoint⟩

/-- What is asked after a turn of a conversation that began with a request. -/
def questions (request : Entries) (t : ToolTurn) : List Call :=
  t.uses.map ToolUse.invoked ++
    [.chat (.dict none (withMessages request (t.uses.map ToolUse.message))) t.checkpoint]

/-- The reply, and the answers of the tools. -/
def replies (t : ToolTurn) : List Reply := .chat t.reply :: t.uses.map fun u => .value u.result

end ToolTurn

/-- All that is asked in a conversation that begins with a request. -/
def questions (request : Entries) (turns : List ToolTurn) : List Call :=
  .chat (.dict none request) .null :: turns.flatMap (ToolTurn.questions request)

/-- All that is answered, the last turn being one without tools. -/
def replies (turns : List ToolTurn) (last : ChatReply) : List Reply := turns.flatMap ToolTurn.replies ++ [.chat last]

theorem flatMap_questions_cons (request : Entries) (t : ToolTurn) (turns : List ToolTurn) :
    (t :: turns).flatMap (ToolTurn.questions request) = t.uses.map ToolUse.invoked ++
      .chat (.dict none (withMessages request (t.uses.map ToolUse.message))) t.checkpoint ::
        turns.flatMap (ToolTurn.questions request) := by
  rw [List.flatMap_cons, ToolTurn.questions, List.append_assoc, List.singleton_append]

/-- The questions are answered with the replies, from the given number on, whenever they
are asked and however long that takes. -/
def Answered (answers : Nat → Nat → Call → Served) (number : Nat) (qs : List Call) (rs : List Reply) : Prop :=
  ∀ (i : Nat) c r, qs[i]? = some c → rs[i]? = some r → ∀ time, (answers (number + i) time c).outcome = .ok r

/-- What a node makes of the last turn: what has been read off it, if the node asks for
JSON and there is something, and else a mapping with the message. -/
def ClosesWith (n : Node) (last : ChatReply) (output : Value) : Prop :=
  (n.setting "output_type" = .ok (.str "JSON") ∧ last.parsed ≠ .null → output = last.parsed) ∧
    (¬ (n.setting "output_type" = .ok (.str "JSON") ∧ last.parsed ≠ .null) →
      output = .record [("response", last.message)])

/-! ## What does not change between two questions -/

section

variable {plan : Plan} {n : Node} {u v w : World}

/-- Which call a tool comes to depends on the world only as far as shared mappings go. -/
theorem startTool_congr (h : v.writes = w.writes) (c : ToolCall) : (startTool plan n c v).2 = (startTool plan n c w).2 := by
  have hnode : v.node n = w.node n := by
    unfold World.node World.look
    rw [h]
  unfold startTool
  rw [hnode]
  dsimp only
  generalize (w.node n).setting "tools" >>= Value.itemsOrNone >>= findTool c.name = found
  rcases found with f | _ | tool <;> rfl

theorem ToolUse.Succeeds.congr {x : ToolUse} (h : v.writes = w.writes) (hx : x.Succeeds plan n w) : x.Succeeds plan n v :=
  ⟨(startTool_congr h x.wanted).trans hx.resolves, hx.told⟩

theorem elapsed_writes (h : w.Elapsed v) : v.writes = w.writes := by
  obtain ⟨records, clock, rfl⟩ := h
  rfl

/-- The message that a tool comes to is the one that tells what came back. -/
theorem ToolUse.Succeeds.toolMessage {x : ToolUse} (hx : x.Succeeds plan n w) :
    toolMessage x.wanted x.result = .ok x.message := by
  have htold := hx.told
  obtain ⟨wanted, invoked, result, content⟩ := x
  cases result with
  | str s =>
      obtain rfl : content = .str s := htold
      rfl
  | _ =>
      obtain ⟨text, hjson, hcontent⟩ : ∃ text, jsonLine _ = .ok text ∧ content = .str text := htold
      subst hcontent
      simp only [Execute.toolMessage, hjson]
      rfl

/-- A tool that succeeds is an errand that does. -/
theorem ToolUse.Succeeds.errand {answers : Nat → Nat → Call → Served} {number : Nat} {x : ToolUse}
    (hx : x.Succeeds plan n w) (hanswer : ∀ time, (answers number time x.invoked).outcome = .ok (.value x.result)) :
    Errand.Succeeds answers w number ⟨toolTask plan n x.wanted, x.invoked, x.message⟩ where
  start v helapsed := by
    obtain ⟨records, hquiet⟩ := startTool_quiet plan n x.wanted v
    exact ⟨records, Prod.ext hquiet (hx.congr (elapsed_writes helapsed)).resolves⟩
  finish time := by
    rw [hanswer]
    exact hx.toolMessage

end

/-! ## Answers -/

namespace Answered

variable {answers : Nat → Nat → Call → Served} {number : Nat} {c : Call} {r : Reply} {qs qs' : List Call}
  {rs rs' : List Reply}

theorem head (h : Answered answers number (c :: qs) (r :: rs)) (time : Nat) : (answers number time c).outcome = .ok r :=
  h 0 c r rfl rfl time

theorem tail (h : Answered answers number (c :: qs) (r :: rs)) : Answered answers (number + 1) qs rs := by
  intro i d t hd ht time
  rw [Nat.add_assoc, Nat.add_comm 1]
  exact h (i + 1) d t hd ht time

theorem left (hlen : qs.length = rs.length) (h : Answered answers number (qs ++ qs') (rs ++ rs')) :
    Answered answers number qs rs := by
  intro i d t hd ht time
  obtain ⟨hi, -⟩ := List.getElem?_eq_some_iff.mp hd
  exact h i d t (by rw [List.getElem?_append_left hi, hd]) (by rw [List.getElem?_append_left (hlen ▸ hi), ht]) time

theorem right (hlen : qs.length = rs.length) (h : Answered answers number (qs ++ qs') (rs ++ rs')) :
    Answered answers (number + qs.length) qs' rs' := by
  intro i d t hd ht time
  rw [Nat.add_assoc]
  refine h (qs.length + i) d t ?_ ?_ time
  · rw [List.getElem?_append_right (Nat.le_add_right ..), Nat.add_sub_cancel_left, hd]
  · rw [hlen, List.getElem?_append_right (Nat.le_add_right ..), Nat.add_sub_cancel_left, ht]

end Answered

/-! ## The conversation -/

section

variable {plan : Plan} {n : Node} {answers : Nat → Nat → Call → Served} {s : Setup (List Call)} {work : Work Value}
  {request : Entries}

/-- The next question, and what follows the reply: the rest of the computation where no
tools are asked for, and else the tools and the question after them. -/
theorem converse_asks (hreach : plan.reach .model = .ok ()) (n : Node) (budget : Nat) (request : Entries)
    (checkpoint : Value) (next : ChatReply → Work Value) (w : World) :
    ∃ k, (converse plan n (budget + 1) request checkpoint >>= next) w = .call w (.chat (.dict none request) checkpoint) k ∧
      (∀ reply v, reply.toolCalls = [] → k (.ok (.chat reply)) v = next reply v) ∧
      ∀ reply v, reply.toolCalls ≠ [] → ∃ v' k', v'.writes = v.writes ∧
        k (.ok (.chat reply)) v = .tools v' (reply.toolCalls.map (toolTask plan n)) k' ∧
        ∀ messages u, k' (.ok messages) u =
          (converse plan n budget (withMessages request messages) reply.checkpoint >>= next) u := by
  rw [converse, hreach]
  refine ⟨_, rfl, fun reply v hnone => ?_, fun reply v hsome => ?_⟩
  · have hempty : (Reply.chat reply).toChat.toolCalls.isEmpty = true := by rw [Reply.toChat, hnone]; rfl
    simp only [Work.check, Work.pure_apply, Step.bind, hempty, if_true]
    rfl
  · have hempty : (Reply.chat reply).toChat.toolCalls.isEmpty = false := by rw [Reply.toChat]; simpa using hsome
    simp only [Work.check, Work.pure_apply, Step.bind, hempty, Bool.false_eq_true, if_false]
    refine ⟨_, _, ?_, rfl, ?_⟩
    · rfl
    · exact fun messages u => rfl

/-- One turn: the model is asked, its tools are called, and the next question is made of
what came back. -/
theorem turn_leads (hserve : s.serve = remember answers) (hreach : plan.reach .model = .ok ())
    (next : ChatReply → Work Value) {t : ToolTurn} (budget : Nat) {checkpoint : Value} {asked : List Call}
    {m : Machine (List Call)} {w : World} (huses : ∀ x ∈ t.uses, x.Succeeds plan n w) (hpoised : Poised work asked m)
    (hanswers : Answered answers asked.length (.chat (.dict none request) checkpoint :: t.uses.map ToolUse.invoked)
      t.replies) :
    ∃ w' m', Leads s (proceed s 0 ((converse plan n (budget + 1) request checkpoint >>= next) w) m)
        (proceed s 0 ((converse plan n budget (withMessages request (t.uses.map ToolUse.message)) t.checkpoint >>= next)
          w') m') ∧ w'.writes = w.writes ∧
      Poised work (asked ++ .chat (.dict none request) checkpoint :: t.uses.map ToolUse.invoked) m' := by
  obtain ⟨k, hasks, -, hcontinue⟩ := converse_asks hreach n budget request checkpoint next w
  -- the model asks for tools
  obtain ⟨w₁, m₁, hlead₁, helapsed₁, hpoised₁⟩ := hpoised.call (w := w) (k := k) hserve hanswers.head
  obtain ⟨v, k', hwrites, htools, hgoes⟩ := hcontinue t.reply w₁ (by simpa [ToolTurn.reply] using t.nonempty)
  have hwrites : v.writes = w.writes := hwrites.trans (elapsed_writes helapsed₁)
  rw [htools] at hlead₁
  -- the tools answer
  let errand (x : ToolUse) : Errand := ⟨toolTask plan n x.wanted, x.invoked, x.message⟩
  have hsucceeds : ∀ (j : Nat) (e : Errand), (t.uses.map errand)[j]? = some e →
      e.Succeeds answers v ((asked ++ [Call.chat (.dict none request) checkpoint]).length + j) := by
    intro j e he
    obtain ⟨x, hx, rfl⟩ : ∃ x, t.uses[j]? = some x ∧ errand x = e := by simpa using he
    have hx' := (huses x (List.mem_of_getElem? hx)).congr hwrites
    refine hx'.errand fun time => ?_
    rw [List.length_append, List.length_singleton]
    exact hanswers.tail j x.invoked (.value x.result) (by simp [hx]) (by simp [hx]) time
  obtain ⟨w₂, m₂, hlead₂, helapsed₂, hpoised₂⟩ :=
    hpoised₁.gather (w := v) (k := k') hserve (by simpa using t.nonempty) hsucceeds
  -- the next question
  have htasks : (t.uses.map errand).map Errand.task = t.reply.toolCalls.map (toolTask plan n) := by
    rw [ToolTurn.reply, List.map_map, List.map_map]
    rfl
  have hcalls : (t.uses.map errand).map Errand.call = t.uses.map ToolUse.invoked := List.map_map ..
  have hvalues : (t.uses.map errand).map Errand.value = t.uses.map ToolUse.message := List.map_map ..
  rw [htasks, hvalues, hgoes] at hlead₂
  rw [hcalls, List.append_assoc] at hpoised₂
  rw [hasks]
  exact ⟨w₂, m₂, hlead₁.trans hlead₂, (elapsed_writes helapsed₂).trans hwrites, hpoised₂⟩

/-- From any question on, a conversation goes on with the turns that are left, and ends
with the last one. -/
theorem converse_leads (hserve : s.serve = remember answers) (hreach : plan.reach .model = .ok ()) {last : ChatReply}
    (hlast : last.toolCalls = []) (next : ChatReply → Work Value) (request : Entries) (turns : List ToolTurn) :
    ∀ {budget : Nat} {current : Entries} {checkpoint : Value} {asked : List Call} {m : Machine (List Call)} {w : World},
      turns.length < budget → (∀ t ∈ turns, ∀ x ∈ t.uses, x.Succeeds plan n w) →
      (∀ messages, withMessages current messages = withMessages request messages) → Poised work asked m →
      Answered answers asked.length
        (.chat (.dict none current) checkpoint :: turns.flatMap (ToolTurn.questions request)) (replies turns last) →
      ∃ w' m', Leads s (proceed s 0 ((converse plan n budget current checkpoint >>= next) w) m)
          (proceed s 0 (next last w') m') ∧
        Poised work (asked ++ .chat (.dict none current) checkpoint :: turns.flatMap (ToolTurn.questions request)) m' := by
  induction turns with
  | nil =>
      intro budget current checkpoint asked m w hbudget _ _ hpoised hanswers
      obtain ⟨budget, rfl⟩ := Nat.exists_eq_succ_of_ne_zero (by omega : budget ≠ 0)
      obtain ⟨k, hasks, hdone, -⟩ := converse_asks hreach n budget current checkpoint next w
      obtain ⟨w', m', hlead, _, hpoised'⟩ := hpoised.call (w := w) (k := k) hserve hanswers.head
      rw [hdone last w' hlast] at hlead
      exact ⟨w', m', hasks ▸ hlead, hpoised'⟩
  | cons t turns ih =>
      intro budget current checkpoint asked m w hbudget huses hsame hpoised hanswers
      obtain ⟨budget, rfl⟩ := Nat.exists_eq_succ_of_ne_zero (by omega : budget ≠ 0)
      rw [flatMap_questions_cons, replies, List.flatMap_cons, List.append_assoc] at hanswers
      have hlen : (Call.chat (.dict none current) checkpoint :: t.uses.map ToolUse.invoked).length = t.replies.length := by
        simp [ToolTurn.replies]
      have hrest : Answered answers
          (asked ++ Call.chat (.dict none current) checkpoint :: t.uses.map ToolUse.invoked).length
          (.chat (.dict none (withMessages current (t.uses.map ToolUse.message))) t.checkpoint ::
            turns.flatMap (ToolTurn.questions request)) (replies turns last) := by
        rw [List.length_append, hsame]
        exact Answered.right hlen hanswers
      obtain ⟨w₁, m₁, hlead₁, hwrites, hpoised₁⟩ := turn_leads hserve hreach next budget
        (huses t List.mem_cons_self) hpoised (Answered.left hlen hanswers)
      have hsame' : ∀ messages, withMessages (withMessages current (t.uses.map ToolUse.message)) messages =
          withMessages request messages := by
        intro messages
        rw [withMessages, withMessages, Entries.setField_setField]
        exact hsame messages
      obtain ⟨w', m', hlead', hpoised'⟩ := ih (by simpa using hbudget)
        (fun t' ht' x hx => (huses t' (List.mem_cons_of_mem _ ht') x hx).congr hwrites) hsame' hpoised₁ hrest
      refine ⟨w', m', hlead₁.trans hlead', ?_⟩
      rw [hsame] at hpoised'
      rw [flatMap_questions_cons]
      simpa using hpoised'

end

/-! ## Model nodes -/

section

variable {plan : Plan} {n : Node} {v w : World} {first : Call}

/-- A computation waits after a part that does not wait once that is done. -/
theorem prompt_call {α β : Type} {x : Work α} (hx : x.Prompt) {f : α → Work β} {c : Call}
    {next : Except Problem Reply → World → Step β} (h : (x >>= f) w = .call v c next) :
    ∃ u a, x w = .done u a ∧ f a u = .call v c next := by
  have hprompt := hx w
  rw [Work.bind_apply] at h
  generalize x w = step at hprompt h
  cases step with
  | done u a => exact ⟨u, a, rfl, h⟩
  | fail u f => cases h
  | call u c k => exact hprompt.elim
  | tools u tasks k => exact hprompt.elim

/-- Only a node with settings gets as far as a request. -/
theorem firstRequest_payload {inputs : Value} {now : Int} {request : Entries}
    (h : firstRequest n inputs now = .ok request) : ∃ id es, n.payload = .dict id es := by
  cases hpayload : n.payload with
  | dict id es => exact ⟨id, es, rfl⟩
  | _ =>
      unfold firstRequest Node.setting at h
      rw [hpayload] at h
      cases h

/-- Whatever a model node does before its first question, it then asks, and makes its
output of what the conversation ends with. -/
theorem model_asks {next : Except Problem Reply → World → Step Value} (h : model plan n w = .call v first next) :
    ∃ request, first = .chat (.dict none request) .null ∧ plan.reach .model = .ok () ∧
      (∃ id es, (w.node n).payload = .dict id es) ∧ model plan n w =
        (converse plan (w.node n) plan.turns request .null >>= fun reply => Work.lift (modelOutput (w.node n) reply)) v := by
  have h' := h
  unfold model at h
  obtain ⟨_, n', hn', h⟩ := prompt_call (Work.prompt_current n) h
  cases hn'
  split at h
  · obtain ⟨_, _, hthrow, _⟩ := prompt_call (Work.prompt_throw _) h
    cases hthrow
  obtain ⟨u₁, inputs, _, h⟩ := prompt_call (inputsOr_prompt _ _ _) h
  obtain ⟨u₂, _, _, h⟩ := prompt_call (Work.prompt_note _ _ _ _ _) h
  obtain ⟨_, _, hu₃, h⟩ := prompt_call Work.prompt_get h
  cases hu₃
  obtain ⟨u₄, request, hrequest, h⟩ := prompt_call (Work.prompt_lift _) h
  have hpayload : ∃ id es, (w.node n).payload = .dict id es := by
    cases hfirst : firstRequest (w.node n) inputs u₂.now with
    | error f =>
        rw [hfirst] at hrequest
        cases hrequest
    | ok r => exact firstRequest_payload hfirst
  cases hturns : plan.turns with
  | zero =>
      rw [hturns] at h
      cases h
  | succ budget =>
      cases hreach : plan.reach .model with
      | error p =>
          rw [hturns, converse, hreach] at h
          cases h
      | ok u =>
          obtain ⟨k, hcall, -⟩ := converse_asks hreach (w.node n) budget request .null
            (fun reply => Work.lift (modelOutput (w.node n) reply)) u₄
          rw [hturns, hcall] at h
          cases h
          exact ⟨request, rfl, rfl, hpayload, h'.trans hcall.symm⟩

/-- The output of a node with settings. -/
theorem modelOutput_closes {id : Option MapId} {es : Entries} (hpayload : n.payload = .dict id es) (last : ChatReply) :
    ∃ output, modelOutput n last = .ok output ∧ ClosesWith n last output := by
  have hsetting : n.setting "output_type" = .ok (Entries.field es "output_type") := by
    rw [Node.setting, hpayload]
    rfl
  unfold modelOutput ClosesWith
  rw [hsetting, Except.ok.injEq, ← Value.eq_str_iff, ← isWord]
  simp only [bind, Except.bind]
  cases isWord (Entries.field es "output_type") "JSON" with
  | false => exact ⟨_, rfl, by simp, fun _ => rfl⟩
  | true =>
      split
      next hnull => exact ⟨_, rfl, by simp [hnull], fun _ => rfl⟩
      next hsome => exact ⟨_, rfl, fun _ => rfl, fun h => absurd ⟨rfl, hsome⟩ h⟩
      next hfalse => cases hfalse

/-- The machine that is about to begin a computation begins it. -/
theorem single_leads (s : Setup (List Call)) (w : World) (work : Work Value) :
    ∃ m, Leads s (single w [] (.whole work) 0) (proceed s 0 (work w) m) ∧ Poised work [] m := by
  have hready : (single w ([] : List Call) (.whole work) 0).ready = [.start 0] := rfl
  exact ⟨_, leads_handle rfl hready, rfl, ⟨_, rfl⟩, rfl, rfl, rfl⟩

/-- A tool is not called by asking a model. -/
theorem toolCall_not_chat {tool : Value} {wanted : ToolCall} {c : Call} (h : toolCall plan tool wanted = .ok c) :
    c.isChat = false := by
  unfold toolCall at h
  simp only [bind, Except.bind] at h
  split at h
  · cases h
  split at h
  · split at h
    · cases h
    · repeat' split at h
      all_goals cases h
      rfl
  · repeat' split at h
    all_goals cases h
    rfl

theorem ToolUse.Succeeds.not_chat {x : ToolUse} (hx : x.Succeeds plan n w) : x.invoked.isChat = false := by
  have hresolves := hx.resolves
  unfold startTool at hresolves
  dsimp only at hresolves
  split at hresolves
  · cases hresolves
  · cases hresolves
  · exact toolCall_not_chat hresolves

/-- The model is asked once more than tools are asked for. -/
theorem countP_questions {request : Entries} {turns : List ToolTurn}
    (huses : ∀ t ∈ turns, ∀ x ∈ t.uses, x.Succeeds plan n w) :
    (questions request turns).countP Call.isChat = turns.length + 1 := by
  rw [questions, List.countP_cons_of_pos rfl]
  induction turns with
  | nil => rfl
  | cons t turns ih =>
      have htools : (t.uses.map ToolUse.invoked).countP Call.isChat = 0 := by
        rw [List.countP_map, List.countP_eq_zero]
        intro x hx
        simpa using (huses t List.mem_cons_self x hx).not_chat
      have hrest := ih fun t' ht' => huses t' (List.mem_cons_of_mem _ ht')
      rw [flatMap_questions_cons, List.countP_append, htools, List.countP_cons_of_pos rfl, hrest, List.length_cons,
        Nat.zero_add]

/-- The turns of a model node follow the requests of the model. -/
theorem turns_follow_requests {next : Except Problem Reply → World → Step Value} {turns : List ToolTurn}
    {last : ChatReply} (hasks : model plan n w = .call v first next) (hturns : turns.length < plan.turns)
    (huses : ∀ t ∈ turns, ∀ x ∈ t.uses, x.Succeeds plan (w.node n) v) (hlast : last.toolCalls = []) :
    ∃ request output, first = .chat (.dict none request) .null ∧ ClosesWith (w.node n) last output ∧
      ∀ answers, Answered answers 0 (questions request turns) (replies turns last) →
        ∃ N, ∀ fuel ≥ N, ∀ ended, ended = runWork plan ⟨[], remember answers⟩ fuel w (model plan n) →
          ended.services = questions request turns ∧ ended.services.countP Call.isChat = turns.length + 1 ∧
            ended.outcome = .ok (ended.world.look output) := by
  obtain ⟨request, hfirst, hreach, ⟨id, es, hpayload⟩, hmodel⟩ := model_asks hasks
  obtain ⟨output, houtput, hcloses⟩ := modelOutput_closes hpayload last
  refine ⟨request, output, hfirst, hcloses, fun answers hanswers => ?_⟩
  let s : Setup (List Call) := ⟨plan, dispatch plan, remember answers⟩
  obtain ⟨m, hbegins, hpoised⟩ := single_leads s w (model plan n)
  obtain ⟨w', m', hlead, hpoised'⟩ := converse_leads (s := s) rfl hreach hlast
    (fun reply => Work.lift (modelOutput (w.node n) reply)) request turns hturns huses (fun _ => rfl) hpoised hanswers
  obtain ⟨stage, htask⟩ := hpoised'.task
  have hdone : (Work.lift (modelOutput (w.node n) last) : Work Value) w' = .done w' output := by
    rw [houtput]
    rfl
  rw [← hmodel, hdone, proceed, finishWork, htask] at hlead
  obtain ⟨N, hrun⟩ := (hbegins.trans hlead).halts rfl
  refine ⟨N, fun fuel hfuel ended hended => ?_⟩
  obtain rfl := hended.trans (congrArg Machine.ended (hrun fuel hfuel))
  have hservices : m'.services = questions request turns := hpoised'.services
  exact ⟨hservices, (congrArg _ hservices).trans (countP_questions huses), rfl⟩

end

/-- A node that asks for JSON and has two tools. -/
def forecaster : Node :=
  sampleNode "forecast" .llm
    [("output_type", .str "JSON"),
      ("tools", .list [.record [("name", .str "clock"), ("type", .str "built-in")],
        .record [("name", .str "heating"), ("type", .str "custom"), ("functionCode", .str "read()")]])]

/-- The model asks for both tools. -/
def bothTools : ToolTurn where
  message := .null
  parsed := .null
  checkpoint := .str "c-1"
  uses :=
    [⟨⟨.str "clock", .record [], .str "t-1"⟩, .tool (.str "clock") (.record []), .str "noon", .str "noon"⟩,
      ⟨⟨.str "heating", .record [], .str "t-2"⟩, .code (.str "heating") (.record []) (.str "read()"), .bool true,
        .str "true"⟩]
  nonempty := nofun

/-- The model's last turn. -/
def warmNoon : ChatReply := ⟨.str "warm", [], .record [("warm", .bool true)], .null⟩

/-- The clock takes five seconds, and the heating one. -/
def slowClock (number _ : Nat) (_ : Call) : Served :=
  match number with
  | 0 => ⟨2, .ok (.chat bothTools.reply), []⟩
  | 1 => ⟨5, .ok (.value (.str "noon")), []⟩
  | 2 => ⟨1, .ok (.value (.bool true)), []⟩
  | _ => ⟨0, .ok (.chat warmNoon), []⟩

/-- The results are told in the order in which the tools were asked for, although the
heating answers first. -/
theorem slow_clock_follows : ∃ request output N, ClosesWith (World.empty.node forecaster) warmNoon output ∧
    ∀ fuel ≥ N, ∀ ended, ended = runWork (openPlan .empty) ⟨[], remember slowClock⟩ fuel .empty
        (model (openPlan .empty) forecaster) →
      ended.services = questions request [bothTools] ∧ ended.services.countP Call.isChat = 2 ∧
        ended.outcome = .ok (ended.world.look output) := by
  have huses : ∀ t ∈ [bothTools], ∀ x ∈ t.uses,
      x.Succeeds (openPlan .empty) (World.empty.node forecaster) .empty := by
    intro t ht x hx
    obtain rfl := List.mem_singleton.mp ht
    obtain rfl | rfl := List.mem_pair.mp hx
    · exact ⟨rfl, rfl⟩
    · exact ⟨rfl, "true", rfl, rfl⟩
  have hanswers : ∀ request, Answered slowClock 0 (questions request [bothTools]) (replies [bothTools] warmNoon) := by
    intro request i c r hc hr time
    match i with
    | 0 | 1 | 2 | 3 =>
        cases hc
        cases hr
        rfl
    | i + 4 => cases hc
  have hturns : [bothTools].length < (openPlan .empty).turns := by decide
  have hlast : warmNoon.toolCalls = [] := rfl
  obtain ⟨v, first, next, hasks, hwrites⟩ : ∃ v first next,
      model (openPlan .empty) forecaster .empty = .call v first next ∧ v.writes = World.empty.writes := ⟨_, _, _, rfl, rfl⟩
  obtain ⟨request, output, -, hcloses, hruns⟩ :=
    turns_follow_requests hasks hturns (fun t ht x hx => (huses t ht x hx).congr hwrites) hlast
  obtain ⟨N, hends⟩ := hruns slowClock (hanswers request)
  exact ⟨request, output, N, hcloses, hends⟩

end Workflow.Execute
