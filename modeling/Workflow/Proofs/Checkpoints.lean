import Workflow.Proofs.Results
import Workflow.Service.Anthropic
import Mathlib

/-!
# Workflow.Proofs.Checkpoints

Conversations that wait for the results of tools.

Whoever turns to the service, and however first and second halves of turns come
between each other (`Served`), a conversation is parked under the checkpoint of
the turn in which tools were asked for until somebody takes it (`Kept`).  No
checkpoint is issued twice, and none is taken twice.
-/

namespace Workflow

/-- Texts are equal where they read the same. -/
@[simp] theorem Value.eq_str_str (a b : String) : (Value.str a).eq (.str b) = decide (a = b) := by
  by_cases h : a = b
  · rw [Value.eq] <;> simp [Value.key?_str, Value.isNaN, h]
  · rw [Value.eq] <;> simp [Value.key?_str, Value.isNaN, Key.ofString_inj, h]

namespace Service

open Run

/-! ## Names of checkpoints -/

/-- The name of the `k`-th checkpoint. -/
def checkpointName (k : Nat) : String := s!"checkpoint-{k}"

theorem checkpointName_inj {m n : Nat} (h : checkpointName m = checkpointName n) : m = n := by
  have happend : ∀ k : Nat, checkpointName k = "checkpoint-" ++ k.repr := fun _ => rfl
  rw [happend, happend, String.append_right_inj, Nat.repr_eq_ofList_toDigits, Nat.repr_eq_ofList_toDigits,
    String.ofList_inj] at h
  rw [← Nat.ofDigitChars_ten_toDigits (n := m), h, Nat.ofDigitChars_ten_toDigits]

/-! ## Halves of turns -/

/-- The blocks of an answer that ask for tools. -/
def toolUses (blocks : List Block) : List Block := blocks.filter (·.isKind "tool_use")

namespace Conversations

variable {cs : Conversations} {o : Option MapId} {request : Entries} {checkpoint : Value} {id : String}
  {messages : List Message}

/-- The conversation after an answer that asks for tools. -/
def Turn.asked (turn : Turn) (blocks : List Block) : List Message :=
  turn.query.messages ++ [⟨.str "assistant", .answer blocks⟩]

/-- The results of tools in a request. -/
def resultsOf (request : Entries) : Except Fault (List ToolResult) := do
  (← (Entries.field request "messages").itemsOrNone).mapM toolResult

theorem resultsOf_list {messages : List Value} (h : Entries.field request "messages" = .list messages) :
    resultsOf request = messages.mapM toolResult := by
  unfold resultsOf
  rw [h]
  cases messages <;> rfl

/-- The checkpoint under which the conversation is parked after an answer. -/
def issue? (cs : Conversations) : Except String (List Block) → Option String
  | .ok blocks => if (toolUses blocks).isEmpty then none else some cs.nextCheckpoint
  | .error _ => none

/-- What the first half of a turn can do: begin a conversation, turn the request
down, or take a conversation that is parked. -/
inductive Begins (cs : Conversations) (request : Entries) : Value → Conversations → Except Problem Turn → Prop
  | opening {outcome} : Begins cs request .null cs outcome
  | turnedDown {checkpoint p} :
      (∀ id, checkpoint = .str id → cs.find? checkpoint = none ∧ p = .service ⟨"Unknown checkpoint: " ++ id, none⟩) →
      Begins cs request checkpoint cs (.error p)
  | taken {id messages outcome} : cs.find? (.str id) = some messages → (∀ e, outcome ≠ .error (.service e)) →
      (∀ turn, outcome = .ok turn → ∃ results, resultsOf request = .ok results ∧
        turn.query.messages = messages ++ [⟨.str "user", .results results⟩]) →
      Begins cs request (.str id) (cs.drop (.str id)) outcome

/-- A query has the messages that the turn goes on with. -/
theorem query_messages {node : Value} {turn : Turn} (h : cs.query node messages = .ok turn) :
    turn.query.messages = messages := by
  unfold query at h
  obtain ⟨_, _, h⟩ := bind_ok h
  obtain ⟨_, _, h⟩ := bind_ok h
  obtain ⟨_, _, h⟩ := bind_ok h
  obtain ⟨_, _, h⟩ := bind_ok h
  obtain ⟨_, _, h⟩ := bind_ok h
  obtain ⟨_, _, h⟩ := bind_ok h
  obtain ⟨_, _, h⟩ := bind_ok h
  cases h
  rfl

/-- The first half of a turn that goes on with a conversation that is parked. -/
theorem begin_found (o : Option MapId) (request : Entries) (h : cs.find? (.str id) = some messages) :
    cs.begin (.dict o request) (.str id) = (cs.drop (.str id),
      ((resultsOf request).bind fun results =>
        cs.query ((Entries.field request "chat_model_node").orElse (.record []))
          (messages ++ [⟨.str "user", .results results⟩])).mapError .fault) := by
  unfold begin
  simp only [Value.read_dict, Except.mapError, bind, Except.bind, pure, Except.pure, h, Value.keyOf, Value.key?_str]
  unfold resultsOf
  cases (Entries.field request "messages").itemsOrNone <;> rfl

/-- A conversation that is not parked cannot be gone on with. -/
theorem begin_unknown (o : Option MapId) (request : Entries) (h : cs.find? (.str id) = none) :
    cs.begin (.dict o request) (.str id) = (cs, .error (.service ⟨"Unknown checkpoint: " ++ id, none⟩)) := by
  unfold begin
  simp only [Value.read_dict, Except.mapError, bind, Except.bind, pure, Except.pure, h, Value.keyOf, Value.key?_str]
  rfl

/-- What is no text names no conversation. -/
theorem begin_other (o : Option MapId) (request : Entries) (hnull : checkpoint ≠ .null) (hstr : ∀ id, checkpoint ≠ .str id) :
    ∃ p, cs.begin (.dict o request) checkpoint = (cs, .error p) := by
  have hnone : cs.find? checkpoint = none := by
    unfold find?
    split
    next id => exact absurd rfl (hstr id)
    next => rfl
  unfold begin
  simp only [Value.read_dict, Except.mapError, bind, Except.bind, pure, Except.pure, hnone]
  cases checkpoint.keyOf <;> exact ⟨_, rfl⟩

theorem begins (cs : Conversations) (o : Option MapId) (request : Entries) (checkpoint : Value) :
    Begins cs request checkpoint (cs.begin (.dict o request) checkpoint).1 (cs.begin (.dict o request) checkpoint).2 := by
  by_cases hnull : checkpoint = .null
  · subst hnull
    exact .opening
  by_cases hstr : ∀ id, checkpoint ≠ .str id
  · obtain ⟨p, hp⟩ := cs.begin_other o request hnull hstr
    rw [hp]
    exact .turnedDown fun id hid => absurd hid (hstr id)
  · obtain ⟨id, rfl⟩ : ∃ id, checkpoint = .str id := by simpa using hstr
    cases hfound : cs.find? (.str id) with
    | none =>
        rw [begin_unknown o request hfound]
        refine .turnedDown fun id' hid => ?_
        cases hid
        exact ⟨hfound, rfl⟩
    | some messages =>
        rw [begin_found o request hfound]
        refine .taken hfound (fun e he => ?_) fun turn hturn => ?_
        · obtain ⟨f, hf⟩ := mapError_error he
          cases hf
        · obtain ⟨results, hresults, hquery⟩ := bind_ok (mapError_ok hturn)
          exact ⟨results, hresults, query_messages hquery⟩

/-- The whole turn fails then, nothing is asked and nothing changes. -/
theorem turn_unknown (api : Api) (o : Option MapId) (request : Entries) (h : cs.find? (.str id) = none) :
    cs.turn api (.dict o request) (.str id) =
      ⟨cs, api, [], .error (.service ⟨"Unknown checkpoint: " ++ id, none⟩)⟩ := by
  rw [turn, begin_unknown o request h]

/-! ## Conversations that are parked -/

@[simp] theorem find?_empty (model maxTokens : Value) : (empty model maxTokens).find? checkpoint = none := by
  cases checkpoint <;> rfl

@[simp] theorem find?_str (cs : Conversations) (id : String) : cs.find? (.str id) = cs.parked.lookup id := rfl

@[simp] theorem find?_drop_same (cs : Conversations) (id : String) : (cs.drop (.str id)).find? (.str id) = none := by
  simp only [find?_str, drop, Value.eq_str_str, List.lookup_eq_none_iff, List.mem_filter]
  intro parked hparked
  simpa using fun heq : id = parked.1 => by simp [heq] at hparked

theorem find?_drop_other {a b : String} (h : a ≠ b) : (cs.drop (.str a)).find? (.str b) = cs.find? (.str b) := by
  simp only [find?_str, drop, Value.eq_str_str]
  induction cs.parked with
  | nil => rfl
  | cons parked rest ih =>
      obtain ⟨c, messages⟩ := parked
      by_cases hc : c = a
      · have hb : (b == a) = false := beq_eq_false_iff_ne.mpr h.symm
        simp [hc, List.lookup_cons, ih, hb]
      · simp [hc, List.lookup_cons, ih]

/-- What is parked once another conversation has been taken was parked before. -/
theorem find?_drop_some {a b : String} (h : (cs.drop (.str a)).find? (.str b) = some messages) :
    cs.find? (.str b) = some messages := by
  by_cases hab : a = b
  · subst hab
    rw [find?_drop_same] at h
    cases h
  · rwa [find?_drop_other hab] at h

theorem find?_park (cs : Conversations) (messages : List Message) (id : String) : (cs.park messages).find? (.str id) =
    (cs.find? (.str id)).or (if id = cs.nextCheckpoint then some messages else none) := by
  simp only [find?_str, park, List.lookup_append, List.lookup_cons, List.lookup_nil]
  by_cases h : id = cs.nextCheckpoint
  · simp [h]
  · have hne : (id == cs.nextCheckpoint) = false := beq_eq_false_iff_ne.mpr h
    simp [h, hne]

/-- The second half of a turn parks the conversation if tools are asked for. -/
theorem conclude_conversations (cs : Conversations) (turn : Turn) (answer : Except String (List Block)) :
    (cs.conclude turn answer).1 = cs ∧ cs.issue? answer = none ∨
    ∃ blocks, answer = .ok blocks ∧ (cs.conclude turn answer).1 = cs.park (turn.asked blocks) ∧
      cs.issue? answer = some cs.nextCheckpoint := by
  cases answer with
  | error message => exact .inl ⟨rfl, rfl⟩
  | ok blocks =>
      unfold conclude issue? toolUses
      cases huses : blocks.filter (·.isKind "tool_use") with
      | nil => exact .inl ⟨by simp [huses], by simp [huses]⟩
      | cons use uses => exact .inr ⟨blocks, rfl, by simp [huses, askForTools, Turn.asked], by simp [huses]⟩

/-- The reply that ends a conversation asks for no tools. -/
theorem closingReply_calls {turn : Turn} {blocks : List Block} {reply : ChatReply}
    (h : (closingReply turn blocks).2 = .ok reply) : reply.toolCalls = [] := by
  unfold closingReply at h
  split at h
  · cases h
  · split at h
    · cases h
      rfl
    · split at h <;>
      · cases h
        rfl

/-- A turn that asks for tools has a call for each block that does, and names the
checkpoint that is issued. -/
theorem conclude_reply {turn : Turn} {answer : Except String (List Block)} {reply : ChatReply}
    (h : (cs.conclude turn answer).2.2 = .ok reply) : reply.toolCalls = [] ∨
    ∃ blocks, answer = .ok blocks ∧ cs.issue? answer = some cs.nextCheckpoint ∧
      reply.checkpoint = .str cs.nextCheckpoint ∧ (toolUses blocks).mapM toolCall = .ok reply.toolCalls := by
  cases answer with
  | error message => cases h
  | ok blocks =>
      unfold conclude at h
      cases huses : blocks.filter (·.isKind "tool_use") with
      | nil =>
          simp only [huses] at h
          exact .inl (closingReply_calls (mapError_ok h))
      | cons use uses =>
          simp only [huses, askForTools] at h
          obtain ⟨calls, hcalls, hreply⟩ := bind_ok (mapError_ok h)
          cases hreply
          exact .inr ⟨blocks, rfl, by simp [issue?, toolUses, huses], rfl, by rw [toolUses, huses, hcalls]⟩

/-! ## What a service has been through -/

/-- A half of a turn: what it went on with and what came of it, or the answer of
the API and the checkpoint that was issued. -/
inductive Half where
  | first (checkpoint : Value) (outcome : Except Problem Turn)
  | second (turn : Turn) (answer : Except String (List Block)) (checkpoint : Option String)

/-- In that half the checkpoint is issued. -/
def Half.Issues (h : Half) (id : String) : Prop := ∃ turn answer, h = .second turn answer (some id)

/-- In that half somebody takes the conversation that the checkpoint names. -/
def Half.Takes (h : Half) (id : String) : Prop :=
  ∃ outcome, h = .first (.str id) outcome ∧ ∀ e, outcome ≠ .error (.service e)

/-- The halves that a service has been through, the latest ones last. -/
inductive Served : List Half → Conversations → Prop
  | empty {model maxTokens} : Served [] (.empty model maxTokens)
  | first {hs cs} (o : Option MapId) (request : Entries) (checkpoint : Value) : Served hs cs →
      Served (hs ++ [.first checkpoint (cs.begin (.dict o request) checkpoint).2])
        (cs.begin (.dict o request) checkpoint).1
  | second {hs cs} (turn : Turn) (answer : Except String (List Block)) : Served hs cs →
      Served (hs ++ [.second turn answer (cs.issue? answer)]) (cs.conclude turn answer).1

/-- Checkpoints are issued once and taken once.  What is parked was parked as its
checkpoint was issued, and what was taken is gone. -/
structure Kept (hs : List Half) (cs : Conversations) : Prop where
  counted : ∀ h ∈ hs, ∀ id, h.Issues id → ∃ k ≤ cs.issued, id = checkpointName k
  once : hs.Pairwise fun g h => ∀ id, g.Issues id → ¬h.Issues id
  parked : ∀ id messages, cs.find? (.str id) = some messages →
    ∃ turn blocks, .second turn (.ok blocks) (some id) ∈ hs ∧ messages = turn.asked blocks
  taken : ∀ h ∈ hs, ∀ id, h.Takes id → (∃ g ∈ hs, g.Issues id) ∧ cs.find? (.str id) = none
  takenOnce : hs.Pairwise fun g h => ∀ id, g.Takes id → ¬h.Takes id

namespace Kept

variable {hs : List Half}

/-- The next checkpoint is one that has not been issued. -/
theorem fresh (h : Kept hs cs) : ∀ g ∈ hs, ¬g.Issues cs.nextCheckpoint := by
  intro g hg hissues
  obtain ⟨k, hk, hname⟩ := h.counted g hg _ hissues
  have hnext : cs.issued + 1 = k := checkpointName_inj hname
  omega

theorem empty (model maxTokens : Value) : Kept [] (.empty model maxTokens) := by
  constructor <;> simp [Conversations.empty]

/-- A half in which nothing is issued or taken changes nothing. -/
theorem idle {g : Half} (h : Kept hs cs) (hissues : ∀ id, ¬g.Issues id) (htakes : ∀ id, ¬g.Takes id) :
    Kept (hs ++ [g]) cs where
  counted := List.forall_mem_append.mpr ⟨h.counted, by simp [hissues]⟩
  once := List.pairwise_append.mpr ⟨h.once, List.pairwise_singleton .., by simp [hissues]⟩
  parked id messages hfound := by
    obtain ⟨turn, blocks, hmem, heq⟩ := h.parked id messages hfound
    exact ⟨turn, blocks, List.mem_append_left _ hmem, heq⟩
  taken := List.forall_mem_append.mpr ⟨fun f hf id hid => by
    obtain ⟨⟨g, hg, hissued⟩, hgone⟩ := h.taken f hf id hid
    exact ⟨⟨g, List.mem_append_left _ hg, hissued⟩, hgone⟩, by simp [htakes]⟩
  takenOnce := List.pairwise_append.mpr ⟨h.takenOnce, List.pairwise_singleton .., by simp [htakes]⟩

/-- A conversation that is taken is gone; it was parked, so nobody has taken it before. -/
theorem take (h : Kept hs cs) (hfound : cs.find? (.str id) = some messages) (outcome : Except Problem Turn) :
    Kept (hs ++ [.first (.str id) outcome]) (cs.drop (.str id)) where
  counted := List.forall_mem_append.mpr ⟨h.counted, by simp [Half.Issues]⟩
  once := List.pairwise_append.mpr ⟨h.once, List.pairwise_singleton .., by simp [Half.Issues]⟩
  parked id' messages' hfound' := by
    obtain ⟨turn, blocks, hmem, heq⟩ := h.parked id' messages' (find?_drop_some hfound')
    exact ⟨turn, blocks, List.mem_append_left _ hmem, heq⟩
  taken := by
    refine List.forall_mem_append.mpr ⟨fun f hf id' hid' => ?_, ?_⟩
    · obtain ⟨⟨g, hg, hissued⟩, hgone⟩ := h.taken f hf id' hid'
      exact ⟨⟨g, List.mem_append_left _ hg, hissued⟩, Option.eq_none_iff_forall_not_mem.mpr fun messages' hfound' => by
        rw [find?_drop_some hfound'] at hgone
        cases hgone⟩
    · rw [List.forall_mem_singleton]
      rintro id' ⟨_, hfirst, _⟩
      cases hfirst
      obtain ⟨turn, blocks, hmem, _⟩ := h.parked id messages hfound
      exact ⟨⟨_, List.mem_append_left _ hmem, turn, .ok blocks, rfl⟩, find?_drop_same cs id⟩
  takenOnce := by
    refine List.pairwise_append.mpr ⟨h.takenOnce, List.pairwise_singleton .., fun f hf => ?_⟩
    rw [List.forall_mem_singleton]
    rintro id' hid' ⟨_, hfirst, _⟩
    cases hfirst
    rw [(h.taken f hf id hid').2] at hfound
    cases hfound

/-- A conversation that is parked is parked under a fresh checkpoint. -/
theorem park {blocks : List Block} (h : Kept hs cs) (turn : Turn) :
    Kept (hs ++ [.second turn (.ok blocks) (some cs.nextCheckpoint)]) (cs.park (turn.asked blocks)) where
  counted := by
    refine List.forall_mem_append.mpr ⟨fun f hf id' hid' => ?_, ?_⟩
    · obtain ⟨k, hk, hname⟩ := h.counted f hf id' hid'
      exact ⟨k, Nat.le_succ_of_le hk, hname⟩
    · rw [List.forall_mem_singleton]
      rintro id' ⟨_, _, hsecond⟩
      cases hsecond
      exact ⟨cs.issued + 1, Nat.le_refl _, rfl⟩
  once := by
    refine List.pairwise_append.mpr ⟨h.once, List.pairwise_singleton .., fun f hf => ?_⟩
    rw [List.forall_mem_singleton]
    rintro id' hid' ⟨_, _, hsecond⟩
    cases hsecond
    exact h.fresh f hf hid'
  parked id' messages' hfound := by
    rw [find?_park] at hfound
    cases hbefore : cs.find? (.str id') with
    | some messages =>
        rw [hbefore, Option.some_or] at hfound
        obtain ⟨turn', blocks', hmem, heq⟩ := h.parked id' messages hbefore
        cases hfound
        exact ⟨turn', blocks', List.mem_append_left _ hmem, heq⟩
    | none =>
        rw [hbefore, Option.none_or] at hfound
        split at hfound
        next hid =>
          cases hfound
          exact ⟨turn, blocks, by simp [hid], rfl⟩
        next => cases hfound
  taken := by
    refine List.forall_mem_append.mpr ⟨fun f hf id' hid' => ?_, by simp [Half.Takes]⟩
    obtain ⟨⟨g, hg, hissued⟩, hgone⟩ := h.taken f hf id' hid'
    refine ⟨⟨g, List.mem_append_left _ hg, hissued⟩, ?_⟩
    rw [find?_park, hgone, Option.none_or, if_neg]
    rintro rfl
    exact h.fresh g hg hissued
  takenOnce := List.pairwise_append.mpr ⟨h.takenOnce, List.pairwise_singleton .., by simp [Half.Takes]⟩

/-- Nothing is parked under a checkpoint that has not been issued or has been taken. -/
theorem gone (h : Kept hs cs) (hid : (∀ g ∈ hs, ¬g.Issues id) ∨ ∃ g ∈ hs, g.Takes id) : cs.find? (.str id) = none := by
  rcases hid with hnever | ⟨g, hg, htaken⟩
  · refine Option.eq_none_iff_forall_not_mem.mpr fun messages hfound => ?_
    obtain ⟨turn, blocks, hmem, _⟩ := h.parked id messages hfound
    exact hnever _ hmem ⟨turn, .ok blocks, rfl⟩
  · exact (h.taken g hg id htaken).2

/-- A conversation is found under the checkpoint under which it has been parked. -/
theorem found (h : Kept hs cs) (messages : List Message) :
    (cs.park messages).find? (.str cs.nextCheckpoint) = some messages := by
  have hnone : cs.find? (.str cs.nextCheckpoint) = none := h.gone (.inl h.fresh)
  rw [find?_park, hnone, Option.none_or, if_pos rfl]

end Kept

/-- One half of a turn after the other, conversations are kept. -/
theorem Served.kept {hs : List Half} (h : Served hs cs) : Kept hs cs := by
  induction h with
  | empty => exact .empty ..
  | @first _ cs o request checkpoint _ ih =>
      have hbegins := begins cs o request checkpoint
      generalize cs.begin (.dict o request) checkpoint = begun at hbegins ⊢
      obtain ⟨cs', outcome⟩ := begun
      cases hbegins with
      | opening => exact ih.idle (by simp [Half.Issues]) (by simp [Half.Takes])
      | turnedDown hwhy =>
          refine ih.idle (by simp [Half.Issues]) ?_
          rintro id ⟨outcome, hfirst, houtcome⟩
          cases hfirst
          exact houtcome _ (congrArg _ (hwhy id rfl).2)
      | taken hfound _ _ => exact ih.take hfound outcome
  | @second _ cs turn answer _ ih =>
      rcases cs.conclude_conversations turn answer with ⟨hsame, hnone⟩ | ⟨blocks, rfl, hparked, hsome⟩
      · rw [hsame, hnone]
        exact ih.idle (by simp [Half.Issues]) (by simp [Half.Takes])
      · rw [hparked, hsome]
        exact ih.park turn

end Conversations
end Service
end Workflow
