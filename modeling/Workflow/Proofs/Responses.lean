import Workflow.Proofs.Loading
import Workflow.Service.Platform

/-!
# Workflow.Proofs.Responses

What becomes of the responses of the platform.

1. A question is a request, and a reading of what becomes of it (`ask_eq`).
2. The reading comes to a value or to a `ServiceError`, or it ends in the fault of
   an operation.  A fault comes from a shape that nothing checks: `HidesData` for
   mappings, `Spoils` for the lines of a stream and `Misread` for deliveries.
3. So a question is answered, or fails with a `ServiceError`, exactly if nothing is
   wrong with the request and the delivery is not misread (`answers_iff`).
-/

namespace Workflow.Service

open Run

/-- A value, or a failure of the service. -/
def Declares {α : Type} (r : Except Problem α) : Prop := ∀ p, r = .error p → ∃ e, p = .service e

theorem declares_mapError_iff {α : Type} {r : Except Fault α} :
    Declares (r.mapError .fault) ↔ ¬ ∃ f, r = .error f := by
  cases r with
  | ok a => exact ⟨fun _ => by rintro ⟨f, ⟨⟩⟩, fun _ _ h => nomatch h⟩
  | error f =>
    refine ⟨fun h => ?_, fun h => absurd ⟨f, rfl⟩ h⟩
    obtain ⟨e, he⟩ := h _ rfl
    cases he

/-! ## Exchanges -/

namespace Exchange

variable {α β : Type} {x : Exchange α} {next : α → Exchange β} {s : Session}

/-- The exchange comes to a value, or to a failure of the service. -/
def Answers (x : Exchange α) (s : Session) : Prop := Declares (x.run.run s).1

theorem run_bind (x : Exchange α) (next : α → Exchange β) (s : Session) :
    (x >>= next).run.run s = match x.run.run s with
      | (.ok a, t) => (next a).run.run t
      | (.error p, t) => (.error p, t) := by
  rw [ExceptT.run_bind, StateT.run_bind]
  cases x.run.run s with
  | mk r t => cases r <;> rfl

theorem answers_pure (a : α) : (pure a : Exchange α).Answers s := fun _ h => nomatch h

theorem answers_fail (message : String) (status : Option Int) :
    (fail message status : Exchange α).Answers s := by
  rintro p ⟨⟩
  exact ⟨_, rfl⟩

theorem answers_fail_bind (message : String) (status : Option Int) :
    (fail message status >>= next).Answers s := answers_fail message status

theorem answers_lift_iff {r : Except Fault α} : (lift r).Answers s ↔ ¬ ∃ f, r = .error f := by
  rw [← declares_mapError_iff]
  cases r <;> exact Iff.rfl

theorem answers_bind_iff :
    (x >>= next).Answers s ↔ x.Answers s ∧ ∀ a t, x.run.run s = (.ok a, t) → (next a).Answers t := by
  unfold Answers
  rw [run_bind]
  cases x.run.run s with
  | mk r t =>
    cases r with
    | ok a =>
      refine ⟨fun h => ⟨fun _ hp => (nomatch hp), fun b u hb => ?_⟩, fun h => h.2 a t rfl⟩
      cases hb
      exact h
    | error p =>
      refine ⟨fun h => ⟨fun q hq => ?_, nofun⟩, fun h q hq => ?_⟩
      · cases hq
        exact h p rfl
      · cases hq
        exact h.1 p rfl

/-- After an operation that has a value the exchange goes on with it. -/
theorem answers_lift_bind_iff {r : Except Fault α} :
    (lift r >>= next).Answers s ↔ ∃ a, r = .ok a ∧ (next a).Answers s := by
  cases r with
  | ok a =>
    unfold Answers
    rw [run_bind]
    exact ⟨fun h => ⟨a, rfl, h⟩, by rintro ⟨_, ⟨⟩, h⟩; exact h⟩
  | error f =>
    rw [answers_bind_iff, answers_lift_iff]
    exact ⟨fun h => absurd ⟨f, rfl⟩ h.1, by rintro ⟨_, ⟨⟩, _⟩⟩

end Exchange

/-! ## Requests -/

namespace Platform

/-- Sends a body to a path of the platform. -/
def send (p : Platform) (path : String) (body : Value) : Exchange Delivery := do
  let address ← Exchange.lift (Address.ofText p.baseUrl)
  let authorization ← p.authorization
  post address authorization path body

/-- The request that a question is. -/
def request (p : Platform) : Call → Exchange Delivery
  | .tool id args => p.send ("/built-in-tool-node/" ++ id.text ++ "/invoke") (.record [("args", args)])
  | .code .. => throw .noCodeRunner
  | .retrieval storage text topK searchType filters => do
    let body ← Exchange.lift (Entries.overlay
      [(.str "query", text), (.str "top_k", topK), (.str "search_type", searchType)] (filters.orElse (.record [])))
    p.send ("/ai-workflow/rag-storage-node/" ++ storage.text ++ "/query") (.dict none body)
  | .transform request sources target schema =>
    p.send "/ai-workflow/helper-node/auto-transformer"
      (.record [("userRequest", request), ("sources", .list sources), ("targetNode", target),
        ("targetInputType", schema)])
  | .chat request checkpoint => do
    let address ← Exchange.lift (Address.ofText p.baseUrl)
    let body ← Exchange.lift (Entries.overlay [] request)
    let authorization ← p.authorization
    post address authorization "/llm-completion"
      (.dict none ((body.setField "checkpoint_id" checkpoint).setField "stream" (.bool true)))

end Platform

/-! ## Readings -/

namespace Delivery

/-- The JSON that has been delivered. -/
def json (what : String) : Delivery → Exchange Value
  | .refused reason | .broken _ _ reason => Exchange.fail (what ++ " request failed: " ++ reason) none
  | .response status text =>
    if isFailure status then
      Exchange.fail (what ++ " failed: " ++ (errorDetail status text).text) (some status)
    else match readBody text with
      | .ok v => return v
      | .error _ => Exchange.fail (what ++ " returned invalid JSON") none

/-- The turn of a model that has been delivered. -/
def turn : Delivery → Exchange ChatReply
  | .refused reason => Exchange.fail ("Model service request failed: " ++ reason) none
  | .response status text =>
    if isFailure status then Exchange.fail s!"Model service failed: HTTP {status}" (some status)
    else Platform.keep (chatReply (Text.lines text))
  | .broken status text reason =>
    if isFailure status then Exchange.fail s!"Model service failed: HTTP {status}" (some status)
    else Platform.keep (brokenReply (Text.lines (Text.wholeLines text))
      ⟨"Model service request failed: " ++ reason, none⟩)

/-- The output of a tool in a response. -/
def output (response : Value) : Exchange Value := do
  let error ← Exchange.lift (response.read "error")
  if error.truthy then Exchange.fail ("Built-in tool failed: " ++ error.text) none
  match response.field? "output" with
  | some output => return output
  | none => Exchange.lift (Platform.dataField response "output")

/-- The text that has been found, in a response. -/
def context (response : Value) : Exchange Value := do
  let inner ← Exchange.lift (Platform.dataField response "context")
  if inner.truthy then return inner
  return (← Exchange.lift (response.read "context")).orElse (.str "")

/-- What a delivery says to a question. -/
def answer (d : Delivery) : Call → Exchange Reply
  | .tool .. => do return .value (← output (← d.json "Built-in tool"))
  | .code .. => throw .noCodeRunner
  | .retrieval .. => do return .value (← context (← d.json "RAG query"))
  | .transform .. => do
    return .value (← Exchange.lift (Platform.dataField (← d.json "Auto-transformer") "result"))
  | .chat .. => do return .chat (← d.turn)

end Delivery

namespace Platform

variable (p : Platform)

theorem postJson_eq (what path : String) (body : Value) :
    p.postJson what path body = p.send path body >>= (·.json what) := by
  unfold postJson send
  simp only [bind_assoc]
  rfl

theorem invoke_eq (id args : Value) :
    p.invoke id args = p.request (.tool id args) >>= (·.json "Built-in tool") >>= Delivery.output := by
  unfold invoke
  simp only [postJson_eq]
  rfl

theorem query_eq (storage text topK searchType filters : Value) :
    p.query storage text topK searchType filters =
      p.request (.retrieval storage text topK searchType filters) >>= (·.json "RAG query") >>= Delivery.context := by
  unfold query
  simp only [postJson_eq, request, bind_assoc]
  rfl

theorem transform_eq (request : Value) (sources : List Value) (target schema : Value) :
    p.transform request (.list sources) target schema =
      p.request (.transform request sources target schema) >>= (·.json "Auto-transformer") >>=
        fun v => Exchange.lift (dataField v "result") := by
  unfold transform
  rw [postJson_eq]
  rfl

theorem chat_eq (request checkpoint : Value) :
    p.chat request checkpoint = p.request (.chat request checkpoint) >>= Delivery.turn := by
  unfold chat
  simp only [Platform.request, bind_assoc]
  rfl

/-- To ask is to request and to read what is delivered. -/
theorem ask_eq (c : Call) : p.ask c = p.request c >>= (·.answer c) := by
  cases c with
  | tool id args => simp only [ask, invoke_eq, Delivery.answer, bind_assoc]
  | code => rfl
  | retrieval storage text topK searchType filters => simp only [ask, query_eq, Delivery.answer, bind_assoc]
  | transform request sources target schema => simp only [ask, transform_eq, Delivery.answer, bind_assoc]
  | chat request checkpoint => simp only [ask, chat_eq, Delivery.answer, bind_assoc]

end Platform

/-! ## Mappings -/

/-- The data of a response are neither false nor a mapping. -/
def HidesData (response : Value) : Prop :=
  ∃ data, response.field? "data" = some data ∧ data.truthy = true ∧ data.isMapping = false

/-- A mapping has the field that is asked for in its data unless it hides them. -/
theorem dataField_fails_iff (v : Value) (name : String) :
    (∃ f, Platform.dataField v name = .error f) ↔ v.isMapping = false ∨ HidesData v := by
  unfold Platform.dataField
  simp only [bind_error_iff, Value.read_error_iff]
  cases hmap : v.isMapping with
  | false => exact ⟨fun _ => .inl rfl, fun _ => ⟨_, .inl ⟨rfl, rfl⟩⟩⟩
  | true =>
    obtain ⟨i, es, rfl⟩ := Value.eq_dict_of_isMapping hmap
    simp only [Value.read_dict, HidesData, Value.field?, Entries.field]
    cases hdata : Entries.field? es "data" with
    | none => simp [Value.orElse, Value.truthy, Value.isMapping, Value.record]
    | some data =>
      cases htrue : data.truthy with
      | false => simp [Value.orElse, htrue, Value.isMapping, Value.record]
      | true => simp [Value.orElse, htrue]

namespace Delivery

/-- The JSON that a delivery brings, unless it reports a failure. -/
def value? : Delivery → Option Value
  | .response status text => if isFailure status then none else (readBody text).toOption
  | _ => none

/-- What brings no JSON is a failure of the service. -/
theorem json_cases (d : Delivery) (what : String) :
    (∃ v, d.value? = some v ∧ d.json what = pure v) ∨
      d.value? = none ∧ ∃ message status, d.json what = Exchange.fail message status := by
  cases d with
  | refused reason => exact .inr ⟨rfl, _, _, rfl⟩
  | broken status text reason => exact .inr ⟨rfl, _, _, rfl⟩
  | response status text =>
    simp only [value?, json]
    split
    · exact .inr ⟨rfl, _, _, rfl⟩
    · cases readBody text with
      | error e => exact .inr ⟨rfl, _, _, rfl⟩
      | ok v => exact .inl ⟨v, rfl, rfl⟩

theorem json_answers_iff {α : Type} {d : Delivery} {what : String} {next : Value → Exchange α} {s : Session} :
    (d.json what >>= next).Answers s ↔ ∀ v, d.value? = some v → (next v).Answers s := by
  obtain ⟨v, hvalue, hjson⟩ | ⟨hvalue, message, status, hjson⟩ := d.json_cases what
  · rw [hjson, hvalue, pure_bind]
    simp
  · rw [hjson, hvalue, Exchange.answers_bind_iff]
    refine ⟨fun _ => nofun, fun _ => ⟨Exchange.answers_fail _ _, ?_⟩⟩
    rintro _ _ ⟨⟩

/-- The response to the call of a tool has no output: it is no mapping, or it
hides its data, where it neither reports an error nor gives an output. -/
def Outputless (response : Value) : Prop :=
  response.isMapping = false ∨
    HidesData response ∧ response.field? "output" = none ∧
      ∀ error, response.field? "error" = some error → error.truthy = false

theorem output_answers_iff {response : Value} {s : Session} :
    (output response).Answers s ↔ ¬ Outputless response := by
  unfold output Outputless
  cases hmap : response.isMapping with
  | false =>
    have hread : response.read "error" = .error (.noAttribute response.typeName "get") :=
      Value.read_error_iff.mpr ⟨hmap, rfl⟩
    rw [hread, Exchange.answers_lift_bind_iff]
    simp
  | true =>
    obtain ⟨i, es, rfl⟩ := Value.eq_dict_of_isMapping hmap
    simp only [Value.read_dict, Exchange.answers_lift_bind_iff, Except.ok.injEq, exists_eq_left', Value.field?,
      Entries.field]
    have herror : (∀ error, Entries.field? es "error" = some error → error.truthy = false) ↔
        ((Entries.field? es "error").getD .null).truthy = false := by
      cases Entries.field? es "error" <;> simp [Value.truthy]
    rw [herror]
    cases htrue : ((Entries.field? es "error").getD .null).truthy with
    | true =>
      simp only [if_true]
      simp [Exchange.answers_fail_bind]
    | false =>
      cases houtput : Entries.field? es "output" with
      | some v => simp [Exchange.answers_pure]
      | none =>
        have hhides := dataField_fails_iff (.dict i es) "output"
        rw [hmap] at hhides
        simp [Exchange.answers_lift_iff, hhides]

/-- The response to a question whose answer stands in its data is no mapping, or it
hides them. -/
def Dataless (response : Value) : Prop := response.isMapping = false ∨ HidesData response

theorem context_answers_iff {response : Value} {s : Session} :
    (context response).Answers s ↔ ¬ Dataless response := by
  have hfails := dataField_fails_iff response "context"
  unfold context
  rw [Exchange.answers_lift_bind_iff]
  cases hdata : Platform.dataField response "context" with
  | error f =>
    have hless : Dataless response := hfails.mp ⟨f, hdata⟩
    simp [hless]
  | ok inner =>
    have hless : ¬ Dataless response := fun h => by
      obtain ⟨f, hf⟩ := hfails.mpr h
      rw [hdata] at hf
      cases hf
    have hmap : response.isMapping = true := by
      cases hmap : response.isMapping with
      | true => rfl
      | false => exact absurd (.inl hmap) hless
    obtain ⟨outer, houter⟩ := Value.read_of_mapping "context" hmap
    simp only [Except.ok.injEq, exists_eq_left', hless, not_false_eq_true, iff_true]
    split
    · exact Exchange.answers_pure inner
    · exact Exchange.answers_lift_bind_iff.mpr ⟨outer, houter, Exchange.answers_pure _⟩

end Delivery

/-! ## Streams -/

/-- The event of a line, if it is one. -/
def eventOf? (line : String) : Option Entries :=
  match readLine line with
  | .ok (.event es) => some es
  | _ => none

/-- The events of lines. -/
def eventsOf (lines : List String) : List Entries := lines.filterMap eventOf?

/-- Is it an event of the kind? -/
def IsEvent (kind : String) (event : Entries) : Prop := event.field "type" = .str kind

/-- The contents of the token among events. -/
def tokensOf (events : List Entries) : List Value :=
  events.filterMap fun event => match event.field "type" with
    | .str "token" => some ((event.field "content").orElse (.str ""))
    | _ => none

/-- The last final response among events. -/
def lastFinal? (events : List Entries) : Option Entries :=
  (events.filter fun event => match event.field "type" with
    | .str "final_response" => true
    | _ => false).getLast?

/-- The events leave the message open: the last final response has none, or there is
no final response and no end after a token. -/
def Unsaid (events : List Entries) : Prop :=
  match lastFinal? events with
  | some event => event.field "message" = .null
  | none => events.Pairwise fun e e' => ¬(IsEvent "token" e ∧ IsEvent "end" e')

/-- The content of a token is neither false nor a text. -/
def Garbles (event : Entries) : Prop :=
  IsEvent "token" event ∧ (event.field "content").truthy = true ∧ ∀ s, event.field "content" ≠ .str s

/-- The event asks for tools in a shape that nothing checks: its calls are neither
false nor a list of mappings with names, or what is configurable is neither false
nor a mapping. -/
def Misasks (event : Entries) : Prop :=
  ((event.field "tool_calls").truthy = true ∧
    ∀ calls, (event.field "tool_calls").items? = some calls → ∃ call ∈ calls, call.field? "name" = none) ∨
  (event.field "configurable").truthy = true ∧ (event.field "configurable").isMapping = false

/-- After the event nothing is read any more. -/
def Concludes (event : Entries) : Prop := IsEvent "error" event ∨ IsEvent "tool_call_required" event

/-- The event ends the reading in a fault: it ends a turn without final response in
which a token is no text, or it asks for tools in the wrong shape. -/
def Derails (before : List Entries) (event : Entries) : Prop :=
  (IsEvent "end" event ∧ lastFinal? before = none ∧ ∃ token ∈ before, Garbles token) ∨
    IsEvent "tool_call_required" event ∧ Misasks event

/-- The line ends the reading of a stream in a fault: its event does, or it writes an
integer too long to convert. -/
def Spoils (before : List String) (line : String) : Prop :=
  (∃ text n, eventText? line = some text ∧ Json.read text = .error (.tooManyDigits n)) ∨
    ∃ event, eventOf? line = some event ∧ Derails (eventsOf before) event

/-- After the line no other is read. -/
def Decides (line : String) : Prop := ∃ event, eventOf? line = some event ∧ Concludes event

/-- A line of the stream ends its reading in a fault. -/
def Broken (before lines : List String) : Prop :=
  ∃ passed line rest, lines = passed ++ line :: rest ∧ (∀ l ∈ passed, ¬ Decides l) ∧ Spoils (before ++ passed) line

/-- The end of the stream is a fault: no line has ended its reading, the message is
still open, and a token is no text. -/
def Unclosed (lines : List String) : Prop :=
  (∀ line ∈ lines, ¬ Decides line) ∧ Unsaid (eventsOf lines) ∧ ∃ token ∈ eventsOf lines, Garbles token

theorem broken_cons {before lines : List String} {line : String} :
    Broken before (line :: lines) ↔ Spoils before line ∨ ¬ Decides line ∧ Broken (before ++ [line]) lines := by
  constructor
  · rintro ⟨passed, l, rest, hsplit, hpassed, hspoils⟩
    cases passed with
    | nil =>
      obtain ⟨rfl, rfl⟩ := List.cons.inj hsplit
      rw [List.append_nil] at hspoils
      exact .inl hspoils
    | cons first passed =>
      obtain ⟨rfl, rfl⟩ := List.cons.inj hsplit
      refine .inr ⟨hpassed _ List.mem_cons_self, passed, l, rest, rfl,
        fun l hl => hpassed l (List.mem_cons_of_mem _ hl), ?_⟩
      rw [List.append_assoc]
      exact hspoils
  · rintro (hspoils | ⟨hline, passed, l, rest, rfl, hpassed, hspoils⟩)
    · exact ⟨[], line, lines, rfl, nofun, by rwa [List.append_nil]⟩
    · refine ⟨line :: passed, l, rest, rfl, List.forall_mem_cons.mpr ⟨hline, hpassed⟩, ?_⟩
      rw [List.append_assoc] at hspoils
      exact hspoils

/-! ## Drafts -/

theorem joinTexts_fails_iff {vs : List Value} :
    (∃ f, joinTexts vs = .error f) ↔ ∃ v ∈ vs, ∀ s, v ≠ .str s := by
  have hfrom : ∀ i, (∃ f, joinTextsFrom i vs = .error f) ↔ ∃ v ∈ vs, ∀ s, v ≠ .str s := by
    induction vs with
    | nil => simp [joinTextsFrom]
    | cons v vs ih =>
      intro i
      cases v with
      | str s =>
        simp only [joinTextsFrom, List.exists_mem_cons_iff]
        rw [← ih (i + 1)]
        cases joinTextsFrom (i + 1) vs <;> simp [Except.map]
      | _ => simp [joinTextsFrom]
  exact hfrom 0

theorem tokensOf_token {event : Entries} (h : IsEvent "token" event) (events : List Entries) :
    tokensOf (events ++ [event]) = tokensOf events ++ [(event.field "content").orElse (.str "")] := by
  unfold IsEvent at h
  simp [tokensOf, List.filterMap_append, h]

theorem tokensOf_other {event : Entries} (h : ¬ IsEvent "token" event) (events : List Entries) :
    tokensOf (events ++ [event]) = tokensOf events := by
  unfold tokensOf
  rw [List.filterMap_append, List.filterMap_cons]
  split
  next => simp
  next hsome =>
    split at hsome
    next htype => exact absurd htype h
    next => cases hsome

theorem tokensOf_ne_nil_iff {events : List Entries} : tokensOf events ≠ [] ↔ ∃ e ∈ events, IsEvent "token" e := by
  induction events with
  | nil => simp [tokensOf]
  | cons event events ih =>
    have hsplit : tokensOf (event :: events) = tokensOf ([] ++ [event]) ++ tokensOf events := by
      rw [tokensOf, ← List.singleton_append, List.filterMap_append]
      rfl
    rw [List.exists_mem_cons_iff, ← ih, hsplit]
    by_cases h : IsEvent "token" event
    · rw [tokensOf_token h]
      simp [h]
    · rw [tokensOf_other h]
      simp [tokensOf, h]

/-- A token that is no text is a token with garbled content. -/
theorem garbled_iff {events : List Entries} :
    (∃ v ∈ tokensOf events, ∀ s, v ≠ .str s) ↔ ∃ token ∈ events, Garbles token := by
  unfold tokensOf
  simp only [List.mem_filterMap]
  constructor
  · rintro ⟨v, ⟨event, hmem, hv⟩, hother⟩
    split at hv
    next htype =>
      cases hv
      unfold Value.orElse at hother
      split at hother
      next htrue => exact ⟨event, hmem, htype, htrue, hother⟩
      next => exact absurd rfl (hother "")
    next => cases hv
  · rintro ⟨event, hmem, htype, htrue, hother⟩
    unfold IsEvent at htype
    refine ⟨event.field "content", ⟨event, hmem, ?_⟩, hother⟩
    simp [htype, Value.orElse, htrue]

theorem lastFinal?_final {event : Entries} (h : IsEvent "final_response" event) (events : List Entries) :
    lastFinal? (events ++ [event]) = some event := by
  unfold IsEvent at h
  simp [lastFinal?, List.filter_append, h]

theorem lastFinal?_other {event : Entries} (h : ¬ IsEvent "final_response" event) (events : List Entries) :
    lastFinal? (events ++ [event]) = lastFinal? events := by
  unfold lastFinal?
  rw [List.filter_append, List.filter_singleton]
  split
  next htype => exact absurd htype h
  next => rw [cond_false, List.append_nil]

theorem unsaid_final {event : Entries} (h : IsEvent "final_response" event) (events : List Entries) :
    Unsaid (events ++ [event]) ↔ event.field "message" = .null := by
  unfold Unsaid
  rw [lastFinal?_final h]

/-- The message stays open unless the turn ends after a token. -/
theorem unsaid_other {event : Entries} (h : ¬ IsEvent "final_response" event) (events : List Entries) :
    Unsaid (events ++ [event]) ↔
      Unsaid events ∧ (lastFinal? events = none → IsEvent "end" event → ∀ e ∈ events, ¬ IsEvent "token" e) := by
  unfold Unsaid
  rw [lastFinal?_other h]
  cases lastFinal? events with
  | some final => simp
  | none =>
    simp only [List.pairwise_append, List.pairwise_singleton, List.mem_singleton, forall_eq, true_and, forall_const]
    grind

/-- A list of results fails where one of them does. -/
theorem mapM_fails_iff {α β ε : Type} {g : α → Except ε β} {xs : List α} :
    (∃ e, xs.mapM g = .error e) ↔ ∃ x ∈ xs, ∃ e, g x = .error e := by
  induction xs with
  | nil => simp [pure, Except.pure]
  | cons x xs ih =>
    rw [List.mapM_cons, List.exists_mem_cons_iff, ← ih]
    cases g x with
    | error e => simp [bind, Except.bind]
    | ok y => cases xs.mapM g <;> simp [bind, Except.bind, pure, Except.pure]

theorem toolCall_fails_iff {entry : Value} :
    (∃ f, Draft.toolCall entry = .error f) ↔ entry.field? "name" = none := by
  unfold Draft.toolCall
  simp only [bind_error_iff, Value.read_error_iff]
  cases hmap : entry.isMapping with
  | true =>
    obtain ⟨i, es, rfl⟩ := Value.eq_dict_of_isMapping hmap
    have hitem : (Value.dict i es).item (.str "name") = match Entries.field? es "name" with
        | some w => .ok w
        | none => .error (.missingKey (Value.str "name").repr) := by
      simp only [Value.item, Value.key?_str]
      rfl
    rw [hitem, Value.field?]
    cases Entries.field? es "name" with
    | none => simp
    | some name => simp [pure, Except.pure]
  | false =>
    have hfield : entry.field? "name" = none := by
      cases entry <;> first | rfl | cases hmap
    cases entry.item (.str "name") with
    | error f => simp [hfield]
    | ok name => simp [hfield]

theorem toolReply_fails_iff {d : Draft} {event : Entries} :
    (∃ f, d.toolReply event = .error f) ↔ Misasks event := by
  have hread : ∀ v : Value, (∃ f, (v.orElse (.record [])).read "checkpoint_id" = .error f) ↔
      v.truthy = true ∧ v.isMapping = false := by
    intro v
    cases htrue : v.truthy with
    | true => simp [Value.read_error_iff, Value.orElse, htrue]
    | false => simp [Value.read_error_iff, Value.orElse, htrue, Value.isMapping, Value.record]
  unfold Draft.toolReply Misasks
  dsimp only
  rw [← hread]
  generalize event.field "tool_calls" = entries
  generalize ((event.field "configurable").orElse (.record [])).read "checkpoint_id" = checkpoint
  have hcalls : ∀ calls : List Value, (∃ f, calls.mapM Draft.toolCall = .error f) ↔
      ∃ call ∈ calls, call.field? "name" = none := fun calls => by simp only [mapM_fails_iff, toolCall_fails_iff]
  unfold Value.itemsOrNone Value.iterate
  cases htrue : entries.truthy with
  | false =>
    cases checkpoint <;> simp [bind, Except.bind, pure, Except.pure]
  | true =>
    cases hitems : entries.items? with
    | none => simp [bind, Except.bind]
    | some calls =>
      rw [if_pos rfl]
      simp only [true_and, Option.some.injEq, forall_eq', ← hcalls]
      cases hmap : calls.mapM Draft.toolCall <;> cases checkpoint <;> simp [bind, Except.bind, pure, Except.pure, hmap]

/-- What the draft holds is what the events have said. -/
structure Draft.Holds (d : Draft) (events : List Entries) : Prop where
  tokens : d.tokens = tokensOf events
  final : d.final = (lastFinal? events).isSome
  message : d.message = .null ↔ Unsaid events

/-- How an event is taken after others: more is read after it, nothing is read after
it, or it ends the reading in a fault. -/
inductive Progress.Takes (events : List Entries) (event : Entries) : Progress → Prop
  | reading {d : Draft} (hholds : d.Holds (events ++ [event])) (hopen : ¬ Concludes event)
      (hfits : ¬ Derails events event) : Takes events event (.reading d)
  | finished {r : ChatReply} (hconcludes : Concludes event) (hfits : ¬ Derails events event) :
      Takes events event (.finished r)
  | refused {e : ServiceError} (hconcludes : Concludes event) (hfits : ¬ Derails events event) :
      Takes events event (.failed (.service e))
  | broken {f : Fault} (hderails : Derails events event) : Takes events event (.failed (.fault f))

namespace Draft.Holds

variable {d : Draft} {events : List Entries}

theorem empty : Draft.empty.Holds [] := ⟨rfl, rfl, ⟨fun _ => .nil, fun _ => rfl⟩⟩

/-- An event that neither speaks nor ends an open turn leaves the draft as it is. -/
theorem other {event : Entries} (h : d.Holds events) (htoken : ¬ IsEvent "token" event)
    (hfinal : ¬ IsEvent "final_response" event)
    (hopen : IsEvent "end" event → lastFinal? events = none → ∀ e ∈ events, ¬ IsEvent "token" e) :
    d.Holds (events ++ [event]) := by
  refine ⟨?_, ?_, ?_⟩
  · rw [tokensOf_other htoken, h.tokens]
  · rw [lastFinal?_other hfinal, h.final]
  · rw [unsaid_other hfinal, h.message]
    exact ⟨fun hunsaid => ⟨hunsaid, fun hlast hend => hopen hend hlast⟩, fun hunsaid => hunsaid.1⟩

/-- At the end of an open turn the tokens are the message, if they are texts. -/
theorem withTokens {event : Entries} (h : d.Holds events) (hend : IsEvent "end" event)
    (hlast : lastFinal? events = none) {e : Entries} (he : e ∈ events) (hspoken : IsEvent "token" e) :
    (Progress.ofResult .reading d.withTokens).Takes events event := by
  have hconcludes : ¬ Concludes event := by
    unfold IsEvent at hend
    simp [Concludes, IsEvent, hend]
  unfold Draft.withTokens
  cases hjoin : joinTexts d.tokens with
  | ok text =>
    have htexts : ¬ ∃ token ∈ events, Garbles token := by
      rw [← garbled_iff, ← h.tokens, ← joinTexts_fails_iff, hjoin]
      simp
    unfold IsEvent at hend
    have htoken : ¬ IsEvent "token" event := by simp [IsEvent, hend]
    have hfinal : ¬ IsEvent "final_response" event := by simp [IsEvent, hend]
    refine .reading ⟨?_, ?_, ?_⟩ hconcludes ?_
    · rw [tokensOf_other htoken, h.tokens]
    · rw [lastFinal?_other hfinal, h.final]
    · rw [unsaid_other hfinal]
      exact ⟨nofun, fun hunsaid => absurd hspoken (hunsaid.2 hlast hend e he)⟩
    · rintro (⟨-, -, hgarbles⟩ | ⟨htool, -⟩)
      · exact htexts hgarbles
      · exact hconcludes (.inr htool)
  | error f =>
    refine .broken (.inl ⟨hend, hlast, ?_⟩)
    rw [← garbled_iff, ← h.tokens, ← joinTexts_fails_iff]
    exact ⟨f, hjoin⟩

theorem take (h : d.Holds events) (event : Entries) : (d.take event).Takes events event := by
  unfold Draft.take
  split
  next htype =>
    refine .reading ⟨?_, ?_, ?_⟩ (by simp [Concludes, IsEvent, htype]) (by simp [Derails, IsEvent, htype])
    · rw [tokensOf_token htype, h.tokens]
    · rw [lastFinal?_other (by simp [IsEvent, htype]), h.final]
    · rw [unsaid_other (by simp [IsEvent, htype]), h.message]
      simp [IsEvent, htype]
  next htype =>
    refine .reading ⟨?_, ?_, ?_⟩ (by simp [Concludes, IsEvent, htype]) (by simp [Derails, IsEvent, htype])
    · rw [tokensOf_other (by simp [IsEvent, htype]), h.tokens]
    · rw [lastFinal?_final htype]
      rfl
    · rw [unsaid_final htype]
  next htype =>
    have hopen : (!d.final && !d.tokens.isEmpty) = true ↔
        lastFinal? events = none ∧ ∃ e ∈ events, IsEvent "token" e := by
      rw [h.final, h.tokens, ← tokensOf_ne_nil_iff]
      simp
    split
    next hends =>
      obtain ⟨hlast, e, he, hspoken⟩ := hopen.mp hends
      exact h.withTokens htype hlast he hspoken
    next hgoes =>
      have hnone : lastFinal? events = none → ∀ e ∈ events, ¬ IsEvent "token" e := fun hlast e he hspoken =>
        hgoes (hopen.mpr ⟨hlast, e, he, hspoken⟩)
      refine .reading (h.other (by simp [IsEvent, htype]) (by simp [IsEvent, htype]) fun _ => hnone)
        (by simp [Concludes, IsEvent, htype]) ?_
      rintro (⟨-, hlast, e, he, hgarbles⟩ | ⟨htool, -⟩)
      · exact hnone hlast e he hgarbles.1
      · simp [IsEvent, htype] at htool
  next htype => exact .refused (.inl htype) (by simp [Derails, IsEvent, htype])
  next htype =>
    have hderails : Derails events event ↔ Misasks event := by simp [Derails, IsEvent, htype]
    rw [← toolReply_fails_iff] at hderails
    cases hreply : d.toolReply event with
    | ok r =>
      refine .finished (.inr htype) (hderails.not.mpr ?_)
      rintro ⟨f, hf⟩
      cases hreply.symm.trans hf
    | error f => exact .broken (hderails.mpr ⟨f, hreply⟩)
  next htoken hfinal hend herror htool =>
    refine .reading (h.other htoken hfinal fun htype => (hend htype).elim) (fun hconcludes => ?_) fun hderails => ?_
    · exact hconcludes.elim herror htool
    · exact hderails.elim (fun hbad => hend hbad.1) fun hbad => htool hbad.1

end Draft.Holds

/-! ## Whole streams -/

theorem readLine_fails_iff (line : String) :
    (∃ f, readLine line = .error f) ↔
      ∃ text n, eventText? line = some text ∧ Json.read text = .error (.tooManyDigits n) := by
  unfold readLine
  cases eventText? line with
  | none => simp
  | some text =>
    simp only [Option.some.injEq]
    split <;> simp_all

/-- How far lines are read: to their end, to a line after which nothing is read, or to
one that ends the reading in a fault. -/
inductive Progress.Reads (before lines : List String) : Progress → Prop
  | through {d : Draft} (hholds : d.Holds (eventsOf (before ++ lines))) (hopen : ∀ line ∈ lines, ¬ Decides line)
      (hwhole : ¬ Broken before lines) : Reads before lines (.reading d)
  | finished {r : ChatReply} (hdecided : ∃ line ∈ lines, Decides line) (hwhole : ¬ Broken before lines) :
      Reads before lines (.finished r)
  | refused {e : ServiceError} (hdecided : ∃ line ∈ lines, Decides line) (hwhole : ¬ Broken before lines) :
      Reads before lines (.failed (.service e))
  | broken {f : Fault} (hbroken : Broken before lines) : Reads before lines (.failed (.fault f))

theorem Progress.Reads.cons {before lines : List String} {line : String} {progress : Progress}
    (hline : ¬ Decides line) (hspoils : ¬ Spoils before line) (h : progress.Reads (before ++ [line]) lines) :
    progress.Reads before (line :: lines) := by
  have hwhole : ¬ Broken (before ++ [line]) lines → ¬ Broken before (line :: lines) := by
    rw [broken_cons]
    tauto
  cases h with
  | through hholds hopen hrest =>
    rw [List.append_assoc] at hholds
    exact .through hholds (List.forall_mem_cons.mpr ⟨hline, hopen⟩) (hwhole hrest)
  | finished hdecided hrest => exact .finished (List.exists_mem_cons_of_exists hdecided) (hwhole hrest)
  | refused hdecided hrest => exact .refused (List.exists_mem_cons_of_exists hdecided) (hwhole hrest)
  | broken hbroken => exact .broken (broken_cons.mpr (.inr ⟨hline, hbroken⟩))

theorem readLines_reads {d : Draft} {before : List String} (h : d.Holds (eventsOf before)) (lines : List String) :
    (d.readLines lines).2.Reads before lines := by
  induction lines generalizing d before with
  | nil =>
    refine .through (by rwa [List.append_nil]) nofun ?_
    rintro ⟨passed, line, rest, hsplit, _⟩
    simp at hsplit
  | cons line lines ih =>
    have hlong := readLine_fails_iff line
    cases hline : readLine line with
    | error f =>
      rw [Draft.readLines, hline]
      exact .broken (broken_cons.mpr (.inl (.inl (hlong.mp ⟨f, hline⟩))))
    | ok content =>
      have hshort : ¬ ∃ text n, eventText? line = some text ∧ Json.read text = .error (.tooManyDigits n) := by
        rw [← hlong, hline]
        simp
      -- a line that is no event changes nothing
      have hpasses : eventOf? line = none → (d.readLines lines).2.Reads before (line :: lines) := by
        intro hnone
        have hevents : eventsOf (before ++ [line]) = eventsOf before := by
          simp [eventsOf, List.filterMap_append, hnone]
        refine .cons (by simp [Decides, hnone]) ?_ (ih (hevents ▸ h))
        rw [Spoils, or_iff_right hshort]
        simp [hnone]
      cases content with
      | event event =>
        have hevent : eventOf? line = some event := by rw [eventOf?, hline]
        have hdecides : Decides line ↔ Concludes event := by simp [Decides, hevent]
        have hspoils : Spoils before line ↔ Derails (eventsOf before) event := by
          rw [Spoils, or_iff_right hshort]
          simp [hevent]
        have hevents : eventsOf (before ++ [line]) = eventsOf before ++ [event] := by
          simp [eventsOf, List.filterMap_append, hevent]
        have hwhole : Concludes event → ¬ Derails (eventsOf before) event → ¬ Broken before (line :: lines) := by
          rw [broken_cons, hspoils, hdecides]
          tauto
        have htakes := h.take event
        rw [Draft.readLines, hline]
        dsimp only
        generalize d.take event = progress at htakes ⊢
        cases htakes with
        | reading hholds hopen hfits =>
          exact .cons (hdecides.not.mpr hopen) (hspoils.not.mpr hfits) (ih (hevents ▸ hholds))
        | finished hconcludes hfits =>
          exact .finished ⟨line, List.mem_cons_self, hdecides.mpr hconcludes⟩ (hwhole hconcludes hfits)
        | refused hconcludes hfits =>
          exact .refused ⟨line, List.mem_cons_self, hdecides.mpr hconcludes⟩ (hwhole hconcludes hfits)
        | broken hderails => exact .broken (broken_cons.mpr (.inl (hspoils.mpr hderails)))
      | nothing =>
        rw [Draft.readLines, hline]
        exact hpasses (by rw [eventOf?, hline])
      | malformed =>
        rw [Draft.readLines, hline]
        exact hpasses (by rw [eventOf?, hline])

theorem Draft.Holds.reply_fails_iff {d : Draft} {events : List Entries} (h : d.Holds events) :
    (∃ f, d.reply = .error f) ↔ Unsaid events ∧ ∃ token ∈ events, Garbles token := by
  rw [← h.message, ← garbled_iff, ← h.tokens, ← joinTexts_fails_iff]
  unfold Draft.reply Draft.withTokens
  split
  next token rest hmessage htokens =>
    rw [hmessage, htokens]
    cases joinTexts (token :: rest) <;> simp [bind, Except.bind, pure, Except.pure]
  next hother =>
    suffices hnone : ¬(d.message = .null ∧ ∃ f, joinTexts d.tokens = .error f) by
      simp [bind, Except.bind, pure, Except.pure, hnone]
    rintro ⟨hmessage, f, hf⟩
    cases htokens : d.tokens with
    | nil =>
      rw [htokens] at hf
      cases hf
    | cons token rest => exact hother token rest hmessage htokens

theorem chatReply_declares_iff {lines : List String} :
    Declares (chatReply lines).2 ↔ ¬ Broken [] lines ∧ ¬ Unclosed lines := by
  have hreads := readLines_reads (show Draft.empty.Holds (eventsOf []) from .empty) lines
  unfold chatReply
  generalize Draft.empty.readLines lines = result at hreads ⊢
  obtain ⟨records, progress⟩ := result
  have hdecided : (∃ line ∈ lines, Decides line) → ¬ Unclosed lines := fun ⟨line, hline, hdecides⟩ h =>
    h.1 line hline hdecides
  cases hreads with
  | through hholds hopen hwhole =>
    rw [List.nil_append] at hholds
    rw [declares_mapError_iff, hholds.reply_fails_iff]
    exact ⟨fun h => ⟨hwhole, fun hunclosed => h hunclosed.2⟩, fun h hfails => h.2 ⟨hopen, hfails⟩⟩
  | finished hends hwhole => exact ⟨fun _ => ⟨hwhole, hdecided hends⟩, fun _ _ hp => nomatch hp⟩
  | refused hends hwhole => exact ⟨fun _ => ⟨hwhole, hdecided hends⟩, fun _ _ hp => by cases hp; exact ⟨_, rfl⟩⟩
  | broken hbroken =>
    refine ⟨fun h => ?_, fun h => absurd hbroken h.1⟩
    obtain ⟨e, he⟩ := h _ rfl
    cases he

theorem brokenReply_declares_iff {lines : List String} {reason : ServiceError} :
    Declares (brokenReply lines reason).2 ↔ ¬ Broken [] lines := by
  have hreads := readLines_reads (show Draft.empty.Holds (eventsOf []) from .empty) lines
  unfold brokenReply
  generalize Draft.empty.readLines lines = result at hreads ⊢
  obtain ⟨records, progress⟩ := result
  cases hreads with
  | through _ _ hwhole => exact ⟨fun _ => hwhole, fun _ _ hp => by cases hp; exact ⟨_, rfl⟩⟩
  | finished _ hwhole => exact ⟨fun _ => hwhole, fun _ _ hp => nomatch hp⟩
  | refused _ hwhole => exact ⟨fun _ => hwhole, fun _ _ hp => by cases hp; exact ⟨_, rfl⟩⟩
  | broken hbroken =>
    refine ⟨fun h => ?_, fun h => absurd hbroken h⟩
    obtain ⟨e, he⟩ := h _ rfl
    cases he

/-! ## Deliveries -/

namespace Delivery

/-- The stream of a model's turn ends in a fault.  Where the connection breaks, only
the lines that have arrived are read, and the end of the stream is not reached. -/
def Garbled : Delivery → Prop
  | .refused _ => False
  | .response status text =>
    isFailure status = false ∧ (Broken [] (Text.lines text) ∨ Unclosed (Text.lines text))
  | .broken status text _ => isFailure status = false ∧ Broken [] (Text.lines (Text.wholeLines text))

theorem turn_answers_iff {d : Delivery} {s : Session} : d.turn.Answers s ↔ ¬ d.Garbled := by
  have hkeep : ∀ r, (Platform.keep r).Answers s ↔ Declares r.2 := by
    rintro ⟨records, r⟩
    cases r <;> exact Iff.rfl
  cases d with
  | refused reason => exact ⟨fun _ => not_false, fun _ => Exchange.answers_fail _ _⟩
  | response status text =>
    cases hfails : isFailure status with
    | true => simp [turn, Garbled, hfails, Exchange.answers_fail]
    | false => simp [turn, Garbled, hfails, hkeep, chatReply_declares_iff]
  | broken status text reason =>
    cases hfails : isFailure status with
    | true => simp [turn, Garbled, hfails, Exchange.answers_fail]
    | false => simp [turn, Garbled, hfails, hkeep, brokenReply_declares_iff]

/-- The delivery is read as something that it is not. -/
def Misread (d : Delivery) : Call → Prop
  | .tool .. => ∃ response, d.value? = some response ∧ Outputless response
  | .code .. => False
  | .retrieval .. | .transform .. => ∃ response, d.value? = some response ∧ Dataless response
  | .chat .. => d.Garbled

theorem answer_answers_iff {d : Delivery} {c : Call} {s : Session} : (d.answer c).Answers s ↔ ¬ d.Misread c := by
  have hpure : ∀ {α : Type} {x : Exchange α} {f : α → Reply} {s : Session},
      (x >>= fun a => pure (f a)).Answers s ↔ x.Answers s := by
    intro α x f s
    rw [Exchange.answers_bind_iff]
    exact and_iff_left fun _ _ _ => Exchange.answers_pure _
  have hjson : ∀ {next : Value → Exchange Value} {Bad : Value → Prop} (what : String),
      (∀ response, (next response).Answers s ↔ ¬ Bad response) →
        ((d.json what >>= fun response => next response >>= fun v => pure (Reply.value v)).Answers s ↔
          ¬ ∃ response, d.value? = some response ∧ Bad response) := by
    intro next Bad what hnext
    simp only [json_answers_iff, hpure, hnext, not_exists, not_and]
  cases c with
  | tool => exact hjson "Built-in tool" fun _ => output_answers_iff
  | code => exact ⟨fun _ => not_false, fun _ p hp => by cases hp; exact ⟨_, rfl⟩⟩
  | retrieval => exact hjson "RAG query" fun _ => context_answers_iff
  | transform =>
    exact hjson "Auto-transformer" fun _ => Exchange.answers_lift_iff.trans (not_congr (dataField_fails_iff _ _))
  | chat => exact hpure.trans turn_answers_iff

end Delivery

/-- A question comes to a value, or fails with a `ServiceError`, exactly if that is so
of the request and what is delivered is not misread. -/
theorem Platform.answers_iff (p : Platform) (c : Call) (s : Session) :
    (∀ problem, ((p.ask c).run.run s).1 = .error problem → ∃ e, problem = .service e) ↔
      (∀ problem, ((p.request c).run.run s).1 = .error problem → ∃ e, problem = .service e) ∧
        ∀ d t, (p.request c).run.run s = (.ok d, t) → ¬ d.Misread c := by
  rw [ask_eq]
  refine Exchange.answers_bind_iff.trans (and_congr_right fun _ => ?_)
  simp only [Delivery.answer_answers_iff]

/-- A list in the place of a mapping is no failure of the service. -/
theorem list_response_misread :
    ¬ ∀ problem, (((Platform.mk "http://platform.test" (.fixed "t")).ask (.tool (.str "tool") (.record []))).run.run
      ⟨⟨[.response 200 "[]"], [], "no response"⟩, []⟩).1 = .error problem → ∃ e, problem = .service e := by
  intro h
  obtain ⟨e, he⟩ := h (.fault (.noAttribute "list" "get")) (by rfl)
  cases he

end Workflow.Service
