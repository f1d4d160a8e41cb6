import Workflow.Proofs.Checkpoints
import Workflow.Proofs.Dialogue
import Workflow.Proofs.Runs
import Mathlib.Data.List.Forall2
import Mathlib.Data.List.Pairwise
import Mathlib.Logic.Function.Basic

/-!
# Workflow.Proofs.Conversing

Model nodes that talk to one service at the same time.

A `Forum` holds the service and the nodes.  Whose turn begins or is answered
next, what the API answers, and in which order the tools that a node has called
are done is left open (`Event`); nodes go on in whatever world there is then.

Each node has its own conversation all the same (`Forum.Sound`): what waits for
its tool results is parked under a checkpoint that nobody else has.
-/

namespace Workflow.Service

open Run Conversations

variable {ι : Type}

/-! ## Nodes and their service -/

/-- How far a node has come. -/
inductive Client where
  /-- It goes on by itself. -/
  | ready (s : Step Value)
  /-- The API has been asked. -/
  | asking (turn : Turn) (next : Except Problem Reply → World → Step Value)
  /-- Tools have been called; those that are done have left their results. -/
  | gathering (tasks : List ToolTask) (results : List (Option Value))
      (next : Except Problem (List Value) → World → Step Value)

/-- Nodes that talk to one service, and what it has been through with whom. -/
structure Forum (ι : Type) where
  service : Conversations
  client : ι → Client
  past : List (ι × Half)

/-- What happens next. -/
inductive Event (ι : Type) where
  /-- A node begins a turn, and goes on in the world if it is turned down. -/
  | turn (i : ι) (w : World)
  /-- The API answers a node, which goes on in the world. -/
  | answer (i : ι) (answer : Except String (List Block)) (w : World)
  /-- A node calls its tools. -/
  | call (i : ι)
  /-- One of the tools is done. -/
  | result (i : ι) (k : Nat) (reply : Reply)
  /-- One of the tools fails, and the node goes on in the world. -/
  | failure (i : ι) (p : Problem) (w : World)
  /-- All tools are done, and the node goes on in the world. -/
  | results (i : ι) (w : World)

namespace Forum

/-- Before anything has happened. -/
def opening (plan : Plan) (nodes : ι → Node) (worlds : ι → World) (model maxTokens : Value) : Forum ι :=
  ⟨.empty model maxTokens, fun i => .ready (Execute.dispatch plan (nodes i) (worlds i)), []⟩

/-! ## Conversations of nodes -/

/-- The node has been asked for tools in a turn of its own, and the conversation
is parked under the checkpoint of that turn. -/
def Awaits (past : List (ι × Half)) (cs : Conversations) (i : ι) (calls : List ToolCall) (checkpoint : Value) : Prop :=
  ∃ id turn blocks, checkpoint = .str id ∧ (i, .second turn (.ok blocks) (some id)) ∈ past ∧
    (toolUses blocks).mapM toolCall = .ok calls ∧ cs.find? (.str id) = some (turn.asked blocks)

/-- The message brings the result of the call. -/
def Brings (call : ToolCall) (message : Value) : Prop :=
  ∃ result : Value, Execute.toolMessage call result = .ok message

/-- What lies behind a dialogue. -/
def Backs (past : List (ι × Half)) (cs : Conversations) (i : ι) : Dialogue → Prop
  | .opening | .closed => True
  | .called calls checkpoint => Awaits past cs i calls checkpoint
  | .informed calls messages checkpoint => Awaits past cs i calls checkpoint ∧ List.Forall₂ Brings calls messages

/-- What the tools that are done have left are messages that bring their results. -/
def Gathers (calls : List ToolCall) (results : List (Option Value)) : Prop :=
  List.Forall₂ (fun call result => ∀ v, result = some v → Brings call v) calls results

/-- A node follows its dialogue, and the conversation is there. -/
def Stands (plan : Plan) (past : List (ι × Half)) (cs : Conversations) (i : ι) : Client → Prop
  | .ready s => ∃ d, s.Converses plan d ∧ Backs past cs i d
  | .asking _ next => ∀ r w, (next r w).Converses plan (Dialogue.hear r)
  | .gathering tasks results next => ∃ n calls checkpoint, tasks = calls.map (Execute.toolTask plan n) ∧
      Awaits past cs i calls checkpoint ∧ Gathers calls results ∧
      ∀ r w, (next r w).Converses plan (Dialogue.inform calls checkpoint r)

/-- The turn goes on with the conversation of an earlier turn of the same node,
and brings the results that are asked for there. -/
def Continues (past : List (ι × Half)) (i : ι) (checkpoint : Value) (turn : Turn) : Prop :=
  ∃ id earlier blocks results, checkpoint = .str id ∧ (i, .second earlier (.ok blocks) (some id)) ∈ past ∧
    turn.query.messages = earlier.query.messages ++
      [⟨.str "assistant", .answer blocks⟩, ⟨.str "user", .results results⟩] ∧
    results.map (·.useId) = (toolUses blocks).map (·.field "id")

/-- Every node has its own conversation, and has had from the beginning. -/
structure Sound (plan : Plan) (f : Forum ι) : Prop where
  served : Served (f.past.map (·.2)) f.service
  stands : ∀ i, Stands plan f.past f.service i (f.client i)
  continued : ∀ (m : Nat) (i : ι) (checkpoint : Value) (turn : Turn),
    f.past[m]? = some (i, .first checkpoint (.ok turn)) → checkpoint ≠ .null → Continues (f.past.take m) i checkpoint turn

variable {plan : Plan} {f f' : Forum ι} {past past' : List (ι × Half)} {cs cs' : Conversations} {i j : ι} {c : Client}
  {calls : List ToolCall} {messages : List Value} {checkpoint : Value}

/-- What a node takes is its own conversation. -/
theorem Backs.own {d : Dialogue} {request : Entries} {id : String} (hbacks : Backs past cs i d)
    (hasks : d.Asks request (.str id)) : ∃ calls messages, Awaits past cs i calls (.str id) ∧
      List.Forall₂ Brings calls messages ∧ Entries.field request "messages" = .list messages := by
  cases d with
  | opening => cases hasks
  | called => exact hasks.elim
  | closed => exact hasks.elim
  | informed calls messages checkpoint =>
      obtain ⟨rfl, hmessages⟩ := hasks
      exact ⟨calls, messages, hbacks.1, hbacks.2, hmessages⟩

/-- After an answer that asks for tools, the conversation of the node is parked. -/
theorem backs_answer {hs : List Half} (h : Kept hs cs) (past : List (ι × Half)) (i : ι) (turn : Turn)
    (answer : Except String (List Block)) : Backs (past ++ [(i, .second turn answer (cs.issue? answer))])
      (cs.conclude turn answer).1 i (Dialogue.hear ((cs.conclude turn answer).2.2.map .chat)) := by
  cases hreply : (cs.conclude turn answer).2.2 with
  | error p => trivial
  | ok reply =>
      simp only [Except.map, Dialogue.hear_chat]
      split
      · trivial
      rcases conclude_reply hreply with hnone | ⟨blocks, rfl, hissue, hcheckpoint, hcalls⟩
      · simp [hnone] at *
      · rcases cs.conclude_conversations turn (.ok blocks) with ⟨_, hnone⟩ | ⟨_, heq, hparked, _⟩
        · rw [hissue] at hnone
          cases hnone
        · cases heq
          refine ⟨_, turn, blocks, hcheckpoint, by simp [hissue], hcalls, ?_⟩
          rw [hparked, h.found]

/-! ### Requests with results -/

/-- The message that brings a result names the call. -/
theorem Brings.toolResult {call : ToolCall} {message : Value} (h : Brings call message) :
    ∃ content, toolResult message = .ok ⟨call.callId, content⟩ := by
  obtain ⟨result, h⟩ := h
  unfold Execute.toolMessage at h
  dsimp only at h
  split at h <;>
  · obtain ⟨content, _, h⟩ := bind_ok h
    cases h
    exact ⟨content, rfl⟩

theorem toolResults (h : List.Forall₂ Brings calls messages) :
    ∃ results, messages.mapM toolResult = .ok results ∧ results.map (·.useId) = calls.map (·.callId) := by
  induction h with
  | nil => exact ⟨[], rfl, rfl⟩
  | @cons call _ _ _ hfirst _ ih =>
      obtain ⟨content, hfirst⟩ := hfirst.toolResult
      obtain ⟨results, hresults, hids⟩ := ih
      refine ⟨⟨call.callId, content⟩ :: results, ?_, by simp [hids]⟩
      simp [hfirst, hresults, bind, Except.bind, pure, Except.pure]

/-- There is a call for each block that asks for a tool, with the same id. -/
theorem toolCalls {uses : List Block} : ∀ {calls : List ToolCall}, uses.mapM toolCall = .ok calls →
    calls.map (·.callId) = uses.map (·.field "id") := by
  induction uses with
  | nil =>
      intro calls h
      cases h
      rfl
  | cons use uses ih =>
      intro calls h
      rw [List.mapM_cons] at h
      obtain ⟨call, hcall, h⟩ := bind_ok h
      obtain ⟨rest, hrest, h⟩ := bind_ok h
      obtain ⟨args, _, hcall⟩ := bind_ok hcall
      cases h
      cases hcall
      simp [ih hrest]

/-! ### Tools that are done -/

theorem Gathers.none (plan : Plan) (n : Node) (calls : List ToolCall) :
    Gathers calls ((calls.map (Execute.toolTask plan n)).map fun _ => Option.none) := by
  rw [List.map_map, Gathers, List.forall₂_map_right_iff, List.forall₂_same]
  exact fun _ _ => nofun

/-- One more tool is done. -/
theorem Gathers.set {results : List (Option Value)} {v : Value} (h : Gathers calls results) :
    ∀ {k : Nat}, (∀ call, calls[k]? = some call → Brings call v) → Gathers calls (results.set k (some v)) := by
  induction h with
  | nil => exact fun _ => .nil
  | cons hfirst hrest ih =>
      intro k hk
      cases k with
      | zero =>
          refine .cons (fun v' hv' => ?_) hrest
          cases hv'
          exact hk _ rfl
      | succ k => exact .cons hfirst (ih fun call hcall => hk call hcall)

/-- All tools are done. -/
theorem Gathers.all {results : List (Option Value)} (h : Gathers calls results) :
    ∀ {messages : List Value}, results.mapM id = some messages → List.Forall₂ Brings calls messages := by
  induction h with
  | nil =>
      intro messages hall
      cases hall
      exact .nil
  | @cons call result _ _ hfirst _ ih =>
      intro messages hall
      rw [List.mapM_cons] at hall
      obtain ⟨v, hv, hall⟩ := Option.bind_eq_some_iff.mp hall
      obtain ⟨rest, hrest, hall⟩ := Option.bind_eq_some_iff.mp hall
      cases hall
      exact .cons (hfirst v hv) (ih hrest)

/-! ### What others do -/

/-- A conversation that waits is not touched by others. -/
theorem Awaits.mono (h : Awaits past cs i calls checkpoint) (hpast : ∀ x ∈ past, x ∈ past')
    (hfind : ∀ id turn blocks messages, (i, .second turn blocks (some id)) ∈ past → cs.find? (.str id) = some messages →
      cs'.find? (.str id) = some messages) : Awaits past' cs' i calls checkpoint := by
  obtain ⟨id, turn, blocks, hid, hmem, hcalls, hfound⟩ := h
  exact ⟨id, turn, blocks, hid, hpast _ hmem, hcalls, hfind id turn _ _ hmem hfound⟩

theorem Stands.mono (h : Stands plan past cs i c) (hpast : ∀ x ∈ past, x ∈ past')
    (hfind : ∀ id turn blocks messages, (i, .second turn blocks (some id)) ∈ past → cs.find? (.str id) = some messages →
      cs'.find? (.str id) = some messages) : Stands plan past' cs' i c := by
  cases c with
  | ready s =>
      obtain ⟨d, hconverses, hbacks⟩ := h
      refine ⟨d, hconverses, ?_⟩
      cases d with
      | opening => trivial
      | closed => trivial
      | called => exact Awaits.mono hbacks hpast hfind
      | informed => exact ⟨Awaits.mono hbacks.1 hpast hfind, hbacks.2⟩
  | asking turn next => exact h
  | gathering tasks results next =>
      obtain ⟨n, calls, checkpoint, htasks, hawaits, hresults, hnext⟩ := h
      exact ⟨n, calls, checkpoint, htasks, hawaits.mono hpast hfind, hresults, hnext⟩

namespace Sound

theorem opening (plan : Plan) {nodes : ι → Node} (hkind : ∀ i, (nodes i).kind = .llm) (worlds : ι → World)
    (model maxTokens : Value) : Sound plan (opening plan nodes worlds model maxTokens) where
  served := .empty
  stands i := ⟨.opening, Execute.dispatch_converses plan (hkind i) (worlds i), trivial⟩
  continued m i checkpoint turn h := by simp [Forum.opening] at h

/-- A checkpoint that was issued to one node was not issued to another. -/
theorem issued_unique (h : Sound plan f) {id : String} {turn turn' : Turn} {answer answer' : Except String (List Block)}
    (hi : (i, .second turn answer (some id)) ∈ f.past) (hj : (j, .second turn' answer' (some id)) ∈ f.past) : i = j := by
  have honce := List.pairwise_map.mp h.served.kept.once
  have : Std.Symm fun x y : ι × Half => ∀ id, x.2.Issues id → ¬y.2.Issues id := ⟨fun _ _ hxy id hy hx => hxy id hx hy⟩
  by_contra hne
  exact honce.forall hi hj (by simp [hne]) id ⟨turn, answer, rfl⟩ ⟨turn', answer', rfl⟩

end Sound

/-! ## One event after the other -/

variable [DecidableEq ι]

/-- The forum with a node that has come further. -/
def put (f : Forum ι) (i : ι) (c : Client) : Forum ι := { f with client := Function.update f.client i c }

/-- The forum after a half of a turn of a node. -/
def pass (f : Forum ι) (i : ι) (cs : Conversations) (h : Half) (c : Client) : Forum ι :=
  ⟨cs, Function.update f.client i c, f.past ++ [(i, h)]⟩

/-- The forum after an event, if it can happen. -/
def after (f : Forum ι) : Event ι → Option (Forum ι)
  | .turn i w => match f.client i with
    | .ready (.call _ (.chat request checkpoint) next) => match f.service.begin request checkpoint with
      | (cs, .error p) => some (f.pass i cs (.first checkpoint (.error p)) (.ready (next (.error p) w)))
      | (cs, .ok turn) => some (f.pass i cs (.first checkpoint (.ok turn)) (.asking turn next))
    | _ => none
  | .answer i answer w => match f.client i with
    | .asking turn next =>
      let (cs, _, reply) := f.service.conclude turn answer
      some (f.pass i cs (.second turn answer (f.service.issue? answer)) (.ready (next (reply.map .chat) w)))
    | _ => none
  | .call i => match f.client i with
    | .ready (.tools _ tasks next) => some (f.put i (.gathering tasks (tasks.map fun _ => none) next))
    | _ => none
  | .result i k reply => match f.client i with
    | .gathering tasks results next => match tasks[k]?, results[k]? with
      | some task, some none => match task.finish reply with
        | .ok v => some (f.put i (.gathering tasks (results.set k (some v)) next))
        | .error _ => none
      | _, _ => none
    | _ => none
  | .failure i p w => match f.client i with
    | .gathering _ _ next => some (f.put i (.ready (next (.error p) w)))
    | _ => none
  | .results i w => match f.client i with
    | .gathering _ results next => match results.mapM id with
      | some vs => some (f.put i (.ready (next (.ok vs) w)))
      | none => none
    | _ => none

namespace Sound

/-- A node comes further by itself. -/
theorem put (h : Sound plan f) (hstands : Stands plan f.past f.service i c) : Sound plan (f.put i c) where
  served := h.served
  stands j := by
    by_cases hj : j = i
    · subst hj
      simpa [Forum.put] using hstands
    · simpa [Forum.put, hj] using h.stands j
  continued := h.continued

/-- A half of a turn is over, by which the service and one node have come further. -/
theorem pass {half : Half} (h : Sound plan f) (hserved : Served (f.past.map (·.2) ++ [half]) cs)
    (hstands : Stands plan (f.past ++ [(i, half)]) cs i c)
    (hfind : ∀ j id turn blocks messages, j ≠ i → (j, .second turn blocks (some id)) ∈ f.past →
      f.service.find? (.str id) = some messages → cs.find? (.str id) = some messages)
    (hcontinues : ∀ checkpoint turn, half = .first checkpoint (.ok turn) → checkpoint ≠ .null →
      Continues f.past i checkpoint turn) : Sound plan (f.pass i cs half c) where
  served := by simpa [Forum.pass] using hserved
  stands j := by
    by_cases hj : j = i
    · subst hj
      simpa [Forum.pass] using hstands
    · simp only [Forum.pass, Function.update_of_ne hj]
      exact (h.stands j).mono (fun x hx => List.mem_append_left _ hx) fun id turn blocks messages =>
        hfind j id turn blocks messages hj
  continued m j checkpoint turn hhalf hnull := by
    simp only [Forum.pass] at hhalf ⊢
    rcases Nat.lt_or_ge m f.past.length with hm | hm
    · rw [List.getElem?_append_left hm] at hhalf
      rw [List.take_append_of_le_length (Nat.le_of_lt hm)]
      exact h.continued m j checkpoint turn hhalf hnull
    · have hlast : m = f.past.length := by
        have := (List.getElem?_eq_some_iff.mp hhalf).1
        simp at this
        omega
      subst hlast
      rw [List.getElem?_concat_length] at hhalf
      rw [List.take_left]
      cases hhalf
      exact hcontinues checkpoint turn rfl hnull

variable {w : World}

theorem after_call (h : Sound plan f) (hafter : f.after (.call i) = some f') : Sound plan f' := by
  have hi := h.stands i
  simp only [Forum.after] at hafter
  split at hafter
  next heq =>
    rw [heq] at hi
    obtain ⟨d, ⟨n, calls, checkpoint, rfl, htasks, hnext⟩, hbacks⟩ := hi
    cases hafter
    subst htasks
    exact h.put ⟨n, calls, checkpoint, rfl, hbacks, .none plan n calls, hnext⟩
  next => cases hafter

theorem after_result {k : Nat} {reply : Reply} (h : Sound plan f) (hafter : f.after (.result i k reply) = some f') :
    Sound plan f' := by
  have hi := h.stands i
  simp only [Forum.after] at hafter
  split at hafter
  next heq =>
    rw [heq] at hi
    obtain ⟨n, calls, checkpoint, rfl, hawaits, hresults, hnext⟩ := hi
    split at hafter
    next task htask _ =>
      split at hafter
      next v hv =>
        cases hafter
        refine h.put ⟨n, calls, checkpoint, rfl, hawaits, hresults.set fun call hcall => ?_, hnext⟩
        rw [List.getElem?_map, hcall] at htask
        cases htask
        exact ⟨reply.toValue, hv⟩
      next => cases hafter
    next => cases hafter
  next => cases hafter

theorem after_failure {p : Problem} (h : Sound plan f) (hafter : f.after (.failure i p w) = some f') : Sound plan f' := by
  have hi := h.stands i
  simp only [Forum.after] at hafter
  split at hafter
  next heq =>
    rw [heq] at hi
    obtain ⟨n, calls, checkpoint, _, _, _, hnext⟩ := hi
    cases hafter
    exact h.put ⟨.closed, hnext (.error p) w, trivial⟩
  next => cases hafter

theorem after_results (h : Sound plan f) (hafter : f.after (.results i w) = some f') : Sound plan f' := by
  have hi := h.stands i
  simp only [Forum.after] at hafter
  split at hafter
  next heq =>
    rw [heq] at hi
    obtain ⟨n, calls, checkpoint, _, hawaits, hresults, hnext⟩ := hi
    split at hafter
    next messages hall =>
      cases hafter
      exact h.put ⟨.informed calls messages checkpoint, hnext (.ok messages) w, hawaits, hresults.all hall⟩
    next => cases hafter
  next => cases hafter

/-- The API has answered: if tools are asked for, the conversation is parked. -/
theorem after_answer {answer : Except String (List Block)} (h : Sound plan f)
    (hafter : f.after (.answer i answer w) = some f') : Sound plan f' := by
  have hi := h.stands i
  simp only [Forum.after] at hafter
  split at hafter
  next turn next heq =>
    rw [heq] at hi
    cases hafter
    refine h.pass (h.served.second turn answer) ⟨_, hi _ w, ?_⟩ ?_ nofun
    · exact backs_answer h.served.kept f.past i turn answer
    · intro j id _ _ messages _ _ hfound
      rcases f.service.conclude_conversations turn answer with ⟨hsame, _⟩ | ⟨blocks, _, hparked, _⟩
      · rw [hsame, hfound]
      · rw [hparked, find?_park, hfound, Option.some_or]
  next => cases hafter

/-- A node goes on with its own conversation, and leaves the others alone. -/
theorem after_turn (h : Sound plan f) (hafter : f.after (.turn i w) = some f') : Sound plan f' := by
  have hi := h.stands i
  simp only [Forum.after] at hafter
  split at hafter
  next request checkpoint next heq =>
    rw [heq] at hi
    obtain ⟨d, ⟨⟨o, request, checkpoint, hcall, hasks⟩, hnext⟩, hbacks⟩ := hi
    cases hcall
    have hserved := h.served.first o request checkpoint
    have hbegins := begins f.service o request checkpoint
    generalize f.service.begin (.dict o request) checkpoint = begun at hafter hserved hbegins
    obtain ⟨cs, outcome⟩ := begun
    have hfind : ∀ j id turn blocks messages, j ≠ i → (j, .second turn blocks (some id)) ∈ f.past →
        f.service.find? (.str id) = some messages → cs.find? (.str id) = some messages := by
      intro j id turn blocks messages hj hissued hfound
      cases hbegins with
      | opening => exact hfound
      | turnedDown => exact hfound
      | @taken own _ _ _ =>
          obtain ⟨_, _, ⟨_, _, _, hown, hmem, _⟩, _⟩ := Backs.own hbacks hasks
          cases hown
          have hother : own ≠ id := by
            rintro rfl
            exact hj (h.issued_unique hissued hmem)
          exact (find?_drop_other hother).trans hfound
    cases outcome with
    | error p =>
        cases hafter
        exact h.pass hserved ⟨.closed, hnext (.error p) w, trivial⟩ hfind nofun
    | ok turn =>
        cases hafter
        refine h.pass hserved hnext hfind fun checkpoint' turn' heq hnull => ?_
        cases heq
        cases hbegins with
        | opening => exact absurd rfl hnull
        | @taken id messages _ hfound _ hturn =>
            obtain ⟨calls, said, ⟨_, earlier, blocks, hown, hmem, hcalls, hparked⟩, hbrings, hsaid⟩ := Backs.own hbacks hasks
            cases hown
            obtain ⟨results, hresults, hmessages⟩ := hturn turn rfl
            obtain ⟨results', hresults', hids⟩ := toolResults hbrings
            rw [resultsOf_list hsaid, hresults'] at hresults
            cases hresults
            rw [hfound] at hparked
            cases hparked
            refine ⟨id, earlier, blocks, results, rfl, hmem, ?_, hids.trans (toolCalls hcalls)⟩
            rw [hmessages, Turn.asked, List.append_assoc]
            rfl
  next => cases hafter

theorem after (h : Sound plan f) : {e : Event ι} → f.after e = some f' → Sound plan f'
  | .turn _ _, hafter => h.after_turn hafter
  | .answer _ _ _, hafter => h.after_answer hafter
  | .call _, hafter => h.after_call hafter
  | .result _ _ _, hafter => h.after_result hafter
  | .failure _ _ _, hafter => h.after_failure hafter
  | .results _ _, hafter => h.after_results hafter

theorem after_all {events : List (Event ι)} : ∀ {f : Forum ι}, Sound plan f → events.foldlM Forum.after f = some f' →
    Sound plan f' := by
  induction events with
  | nil =>
      intro f h hafter
      cases hafter
      exact h
  | cons e events ih =>
      intro f h hafter
      rw [List.foldlM_cons] at hafter
      obtain ⟨f₁, hfirst, hrest⟩ := Option.bind_eq_some_iff.mp hafter
      exact ih (h.after hfirst) hrest

end Sound

/-! ## What the API is asked -/

/-- Whatever model nodes talk to one service, and in whatever order answers and
tool results come in:

1. Where a node goes on under a checkpoint and the API is asked, it is asked with
   the messages of the turn of that node in which the checkpoint was issued, the
   whole answer to them, and the results of the tools that the answer asks for,
   in order.  A conversation that is to be gone on with is always there.
2. Whoever else asks: checkpoints are issued once and taken once, and a turn
   under one that has not been issued, or has been taken, fails without the API
   being asked or anything being changed. -/
theorem conversations_well_formed (plan : Plan) (nodes : ι → Node) (hkind : ∀ i, (nodes i).kind = .llm)
    (worlds : ι → World) (model maxTokens : Value) (events : List (Event ι)) {f : Forum ι}
    (hf : events.foldlM Forum.after (.opening plan nodes worlds model maxTokens) = some f) :
    Served (f.past.map (·.2)) f.service ∧
    (∀ (m : Nat) (i : ι) (checkpoint : Value) (turn : Turn), f.past[m]? = some (i, .first checkpoint (.ok turn)) →
      checkpoint ≠ .null → Continues (f.past.take m) i checkpoint turn) ∧
    (∀ i w request checkpoint next, f.client i = .ready (.call w (.chat request checkpoint) next) →
      checkpoint ≠ .null → ∃ messages, f.service.find? checkpoint = some messages) ∧
    ∀ hs cs, Served hs cs →
      hs.Pairwise (fun g h => ∀ id, g.Issues id → ¬h.Issues id) ∧
      hs.Pairwise (fun g h => ∀ id, g.Takes id → ¬h.Takes id) ∧
      ∀ id, ((∀ h ∈ hs, ¬h.Issues id) ∨ ∃ h ∈ hs, h.Takes id) → ∀ api o request,
        cs.turn api (.dict o request) (.str id) =
          ⟨cs, api, [], .error (.service ⟨"Unknown checkpoint: " ++ id, none⟩)⟩ := by
  have hsound := (Sound.opening plan hkind worlds model maxTokens).after_all hf
  refine ⟨hsound.served, hsound.continued, fun i w request checkpoint next hnext hnull => ?_, fun hs cs hserved => ?_⟩
  · have hi := hsound.stands i
    rw [hnext] at hi
    obtain ⟨d, ⟨⟨o, request, checkpoint, hcall, hasks⟩, _⟩, hbacks⟩ := hi
    cases hcall
    cases d with
    | opening => exact absurd hasks hnull
    | called => exact hasks.elim
    | closed => exact hasks.elim
    | informed =>
        obtain ⟨rfl, _⟩ := hasks
        obtain ⟨id, _, _, rfl, _, _, hfound⟩ := hbacks.1
        exact ⟨_, hfound⟩
  · have hkept := hserved.kept
    exact ⟨hkept.once, hkept.takenOnce, fun id hid api o request => turn_unknown api o request (hkept.gone hid)⟩

/-- A model node with one tool. -/
def sampleModel (name : String) : Node :=
  sampleNode name .llm [("tools", .list [.record [("name", .str "clock"), ("type", .str "built-in")]])]

/-- A block that asks for the tool. -/
def sampleUse (id : String) : Block :=
  ⟨.ofFields [("type", .str "tool_use"), ("id", .str id), ("name", .str "clock"), ("input", .record [])]⟩

/-- Two model nodes. -/
def samplePair : Graph where
  nodes := [sampleModel "left", sampleModel "right"]
  edges := []
  keys_nodup := by decide +kernel
  ends_mem := by decide +kernel

/-- Both nodes ask, and both are asked for tools; the tools of the left node are
done in another order than they have been asked for in, and it goes on. -/
def crossing : List (Event Bool) :=
  [.turn true .empty, .turn false .empty, .answer true (.ok [sampleUse "a", sampleUse "b"]) .empty,
    .answer false (.ok [sampleUse "c"]) .empty, .call true, .result true 1 (.value (.str "noon")),
    .result true 0 (.value (.str "night")), .results true .empty, .turn true .empty]

/-- The nodes before anything has happened. -/
def beforeCrossing : Forum Bool :=
  opening (openPlan samplePair) (fun left => sampleModel (if left then "left" else "right")) (fun _ => .empty) .null .null

/-- In that half the API is asked under the checkpoint. -/
def asksUnder (checkpoint : String) : Half → Bool
  | .first (.str c) (.ok _) => c == checkpoint
  | _ => false

theorem eq_of_asksUnder {checkpoint : String} {half : Half} (h : asksUnder checkpoint half = true) :
    ∃ turn, half = .first (.str checkpoint) (.ok turn) := by
  unfold asksUnder at h
  split at h
  next c turn => exact ⟨turn, by rw [eq_of_beq h]⟩
  next => cases h

theorem crossing_goes_on : (crossing.foldlM Forum.after beforeCrossing).any (fun f : Forum Bool =>
    f.past[4]?.any fun x => x.1 && asksUnder "checkpoint-1" x.2) = true := by
  decide +kernel

/-- The left node goes on with the answer that it has been given. -/
theorem crossing_well_formed : ∃ f turn, crossing.foldlM Forum.after beforeCrossing = some f ∧
    f.past[4]? = some (true, .first (.str "checkpoint-1") (.ok turn)) ∧
    Continues (f.past.take 4) true (.str "checkpoint-1") turn := by
  obtain ⟨f, hf, hasked⟩ := (Option.any_eq_true _ _).mp crossing_goes_on
  obtain ⟨⟨left, half⟩, hhalf, hunder⟩ := (Option.any_eq_true _ _).mp hasked
  obtain ⟨rfl, hunder⟩ : left = true ∧ asksUnder "checkpoint-1" half = true := by simpa using hunder
  obtain ⟨turn, rfl⟩ := eq_of_asksUnder hunder
  have hkind : ∀ left : Bool, (sampleModel (if left then "left" else "right")).kind = .llm := fun _ => rfl
  obtain ⟨_, hcontinued, _⟩ := conversations_well_formed (openPlan samplePair) _ hkind _ .null .null crossing hf
  exact ⟨f, turn, hf, hhalf, hcontinued 4 true _ turn hhalf nofun⟩

end Forum
end Workflow.Service
