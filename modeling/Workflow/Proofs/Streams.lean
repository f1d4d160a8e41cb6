import Workflow.Proofs.Responses

/-!
# Workflow.Proofs.Streams

What the stream of a model's turn comes to.

1. A line that says nothing may be there or not (`Idle`); what counts are the
   events of the other lines, in order (`Draft.readLines_append`).
2. The first event after which nothing is read decides the turn, and what follows
   it is of no account.
3. Without such an event the reply is a function of the tokens and of the final
   responses among the events (`chatReply_through`).  Ends of turns add nothing to
   it, as long as no token follows one (`chatReply_withoutEnds`).

All of this is about streams without integers that are too long to convert.  One
that is met ends the reading with a fault, even where the line says nothing else
(`chatReply_overlong`).
-/

namespace Workflow.Service

open Run

/-! ## Lines that say nothing -/

/-- The kinds of events that mean something. -/
def eventKinds : List String := ["token", "final_response", "end", "error", "tool_call_required"]

/-- The line says nothing: it is not marked as an event, its JSON is malformed or no
object, or the object is of a kind that means nothing. -/
inductive Idle (line : String) : Prop
  | unmarked (hmark : eventText? line = none)
  | malformed {text : String} {problem : Json.Problem} {position : Nat} (htext : eventText? line = some text)
      (hread : Json.read text = .error (.at problem position))
  | other {text : String} {v : Value} (htext : eventText? line = some text) (hread : Json.read text = .ok v)
      (hother : v.isMapping = false)
  | unknown {text : String} {i : Option MapId} {event : Entries} (htext : eventText? line = some text)
      (hread : Json.read text = .ok (.dict i event)) (hkind : ∀ kind ∈ eventKinds, ¬ IsEvent kind event)

/-- The line writes an integer of so many digits, which are too many to convert. -/
def Overlong (line : String) (digits : Nat) : Prop :=
  ∃ text, eventText? line = some text ∧ Json.read text = .error (.tooManyDigits digits)

/-- An event of an unknown kind changes nothing. -/
theorem Draft.take_unknown {d : Draft} {event : Entries} (h : ∀ kind ∈ eventKinds, ¬ IsEvent kind event) :
    d.take event = .reading d := by
  simp only [eventKinds, List.forall_mem_cons, IsEvent] at h
  obtain ⟨htoken, hfinal, hend, herror, htool, _⟩ := h
  unfold Draft.take
  split <;> first | rfl | contradiction

/-- A line that says nothing is passed over. -/
theorem Draft.readLines_idle (d : Draft) {line : String} (h : Idle line) (rest : List String) :
    (d.readLines (line :: rest)).2 = (d.readLines rest).2 := by
  cases h with
  | unmarked hmark => simp [Draft.readLines, readLine, hmark]
  | malformed htext hread => simp [Draft.readLines, readLine, htext, hread]
  | unknown htext hread hkind => simp [Draft.readLines, readLine, htext, hread, Draft.take_unknown hkind]
  | @other text v htext hread hother =>
    have hline : readLine line = .ok .nothing := by
      cases v <;> simp_all [readLine, Value.isMapping]
    rw [Draft.readLines, hline]

/-- A line that says nothing may stand anywhere. -/
theorem Draft.readLines_insert {line : String} (h : Idle line) (before after : List String) : ∀ d : Draft,
    (d.readLines (before ++ line :: after)).2 = (d.readLines (before ++ after)).2 := by
  induction before with
  | nil => exact fun d => readLines_idle d h after
  | cons first rest ih =>
    intro d
    simp only [List.cons_append, Draft.readLines]
    cases readLine first with
    | error f => rfl
    | ok content =>
      cases content with
      | nothing => exact ih d
      | malformed => exact ih d
      | event event =>
        cases htake : d.take event with
        | reading d' => simpa only [htake] using ih d'
        | finished r => simp only [htake]
        | failed p => simp only [htake]

/-! ## Events in order -/

/-- Goes on with a reading that has not come to its end. -/
def Progress.andThen (next : Draft → Progress) : Progress → Progress
  | .reading d => next d
  | .finished r => .finished r
  | .failed p => .failed p

/-- Takes events into a draft, up to one after which nothing is read. -/
def Draft.takeAll (d : Draft) : List Entries → Progress
  | [] => .reading d
  | event :: rest => (d.take event).andThen fun d => d.takeAll rest

/-- An event is taken before what follows it is read. -/
theorem Draft.readLines_event (d : Draft) {line : String} {event : Entries} (h : eventOf? line = some event)
    (rest : List String) : (d.readLines (line :: rest)).2 = (d.take event).andThen fun d => (d.readLines rest).2 := by
  have hline : readLine line = .ok (.event event) := by
    unfold eventOf? at h
    split at h
    next es hread => rw [hread, Option.some.inj h]
    next => cases h
  rw [Draft.readLines, hline]
  cases htake : d.take event <;> simp [htake, Progress.andThen]

/-- A line without an event is passed over, unless it writes an overlong integer. -/
theorem Draft.readLines_no_event (d : Draft) {line : String} (h : eventOf? line = none)
    (hline : ∀ n, ¬ Overlong line n) (rest : List String) : (d.readLines (line :: rest)).2 = (d.readLines rest).2 := by
  rw [Draft.readLines]
  cases hread : readLine line with
  | error f =>
    obtain ⟨text, n, hoverlong⟩ := (readLine_fails_iff line).mp ⟨f, hread⟩
    exact absurd ⟨text, hoverlong⟩ (hline n)
  | ok content =>
    cases content with
    | nothing => rfl
    | malformed => rfl
    | event event => simp [eventOf?, hread] at h

/-- Of lines without overlong integers only the events count.  What is behind them
is read if none of the events ends the reading. -/
theorem Draft.readLines_append {before : List String} (h : ∀ line ∈ before, ∀ n, ¬ Overlong line n)
    (after : List String) : ∀ d : Draft,
      (d.readLines (before ++ after)).2 = (d.takeAll (eventsOf before)).andThen fun d => (d.readLines after).2 := by
  induction before with
  | nil => exact fun _ => rfl
  | cons line rest ih =>
    intro d
    obtain ⟨hline, hrest⟩ := List.forall_mem_cons.mp h
    specialize ih hrest
    rw [List.cons_append]
    cases hevent : eventOf? line with
    | none =>
      have hevents : eventsOf (line :: rest) = eventsOf rest := by simp [eventsOf, hevent]
      rw [readLines_no_event d hevent hline, hevents, ih]
    | some event =>
      have hevents : eventsOf (line :: rest) = event :: eventsOf rest := by simp [eventsOf, hevent]
      rw [readLines_event d hevent, hevents, takeAll]
      cases d.take event with
      | reading d' => exact ih d'
      | finished r => rfl
      | failed p => rfl

/-- What a draft keeps to event by event holds of the draft that all events leave. -/
theorem Draft.takeAll_keeps {P : Draft → List Entries → Prop} {events : List Entries} (hempty : P .empty [])
    (hstep : ∀ before event after d, before ++ event :: after = events → P d before →
      ∃ d' : Draft, d.take event = .reading d' ∧ P d' (before ++ [event])) :
    ∃ d', Draft.empty.takeAll events = .reading d' ∧ P d' events := by
  have hfrom : ∀ (rest before : List Entries) (d : Draft), before ++ rest = events → P d before →
      ∃ d', d.takeAll rest = .reading d' ∧ P d' events := by
    intro rest
    induction rest with
    | nil =>
      intro before d hsplit h
      rw [List.append_nil] at hsplit
      exact ⟨d, rfl, hsplit ▸ h⟩
    | cons event rest ih =>
      intro before d hsplit h
      obtain ⟨d', htake, hd'⟩ := hstep before event rest d hsplit h
      obtain ⟨d'', htakeAll, hd''⟩ := ih (before ++ [event]) d' (by simp [hsplit]) hd'
      refine ⟨d'', ?_, hd''⟩
      rw [Draft.takeAll, htake]
      exact htakeAll
  exact hfrom events [] Draft.empty rfl hempty

/-- Where all tokens are texts, more is read after every event that does not end the
reading. -/
theorem Draft.takeAll_open {events : List Entries} (hopen : ∀ e ∈ events, ¬ Concludes e)
    (htexts : ∀ e ∈ events, ¬ Garbles e) : ∃ d, Draft.empty.takeAll events = .reading d := by
  obtain ⟨d, hd, -⟩ : ∃ d, Draft.empty.takeAll events = .reading d ∧ d.Holds events := by
    refine takeAll_keeps .empty fun before event after d hsplit h => ?_
    have hevent : event ∈ events := by simp [← hsplit]
    have htakes := h.take event
    generalize d.take event = progress at htakes ⊢
    cases htakes with
    | reading hd' => exact ⟨_, rfl, hd'⟩
    | finished hconcludes | refused hconcludes => exact absurd hconcludes (hopen event hevent)
    | broken hderails =>
      obtain ⟨-, -, token, htoken, hgarbles⟩ | ⟨htool, -⟩ := hderails
      · exact absurd hgarbles (htexts token (by simp [← hsplit, htoken]))
      · exact absurd (.inr htool) (hopen event hevent)
  exact ⟨d, hd⟩

/-! ## What has been said -/

/-- The texts of all tokens among events, one after the other. -/
def spokenText (events : List Entries) : String := String.join ((tokensOf events).map Value.text)

/-- The tokens among events as a message; there is none without tokens. -/
def spoken (events : List Entries) : Value :=
  if (tokensOf events).isEmpty then .null else .str (spokenText events)

/-- The message of the last final response among events. -/
def finalMessage (events : List Entries) : Value := ((lastFinal? events).map (·.field "message")).getD .null

/-- What a final response among events has parsed. -/
def parsedBy (event : Entries) : Option Value :=
  match event.field "type", event.field "parsed" with
  | .str "final_response", .null => none
  | .str "final_response", v => some v
  | _, _ => none

/-- What was parsed last among events. -/
def lastParsed (events : List Entries) : Value := ((events.filterMap parsedBy).getLast?).getD .null

/-- The message that events come to: that of the last final response, or else all
tokens. -/
def saidBy (events : List Entries) : Value :=
  match finalMessage events with
  | .null => spoken events
  | message => message

/-- Nothing is spoken after an end. -/
def Settled (events : List Entries) : Prop := events.Pairwise fun e e' => ¬ (IsEvent "end" e ∧ IsEvent "token" e')

/-- What the draft says is what the events have said. -/
structure Draft.Says (d : Draft) (events : List Entries) : Prop where
  tokens : d.tokens = tokensOf events
  final : d.final = (lastFinal? events).isSome
  parsed : d.parsed = lastParsed events
  ended : ∀ final, lastFinal? events = some final → d.message = final.field "message"
  unended : lastFinal? events = none → d.message = .null ∨ d.message = spoken events ∧ ∃ e ∈ events, IsEvent "end" e

theorem joinTexts_texts {vs : List Value} (h : ∀ v ∈ vs, ∃ s, v = .str s) :
    joinTexts vs = .ok (String.join (vs.map Value.text)) := by
  have hfrom : ∀ i, joinTextsFrom i vs = .ok (String.join (vs.map Value.text)) := by
    induction vs with
    | nil => exact fun _ => rfl
    | cons v vs ih =>
      obtain ⟨⟨s, rfl⟩, hrest⟩ := List.forall_mem_cons.mp h
      intro i
      simp [joinTextsFrom, ih hrest, Except.map, Value.text]
  exact hfrom 0

/-- Tokens that are no texts aside, all tokens can be joined. -/
theorem joinTexts_tokensOf {events : List Entries} (h : ∀ event ∈ events, ¬ Garbles event) :
    joinTexts (tokensOf events) = .ok (spokenText events) := by
  refine joinTexts_texts fun v hv => ?_
  by_contra hother
  obtain ⟨token, htoken, hgarbles⟩ := garbled_iff.mp ⟨v, hv, fun s hs => hother ⟨s, hs⟩⟩
  exact h token htoken hgarbles

theorem spoken_of_token {events : List Entries} {event : Entries} (hmem : event ∈ events) (h : IsEvent "token" event) :
    spoken events = .str (spokenText events) := by
  have hne : tokensOf events ≠ [] := tokensOf_ne_nil_iff.mpr ⟨event, hmem, h⟩
  simp [spoken, hne]

theorem spoken_other {event : Entries} (h : ¬ IsEvent "token" event) (events : List Entries) :
    spoken (events ++ [event]) = spoken events := by
  simp only [spoken, spokenText, tokensOf_other h]

theorem lastParsed_final {event : Entries} (h : IsEvent "final_response" event) (events : List Entries) :
    lastParsed (events ++ [event]) = match event.field "parsed" with
      | .null => lastParsed events
      | v => v := by
  unfold IsEvent at h
  unfold lastParsed
  rw [List.filterMap_append]
  cases hparsed : event.field "parsed" <;> simp [parsedBy, h, hparsed]

theorem lastParsed_other {event : Entries} (h : ¬ IsEvent "final_response" event) (events : List Entries) :
    lastParsed (events ++ [event]) = lastParsed events := by
  have hnone : parsedBy event = none := by
    unfold parsedBy
    split <;> first | rfl | exact absurd ‹event.field "type" = .str "final_response"› h
  simp [lastParsed, List.filterMap_append, hnone]

namespace Draft.Says

variable {d : Draft} {events : List Entries} {event : Entries}

theorem empty : Draft.empty.Says [] := ⟨rfl, rfl, rfl, nofun, fun _ => .inl rfl⟩

/-- An event that is neither a token nor a final response leaves what has been said. -/
theorem other (h : d.Says events) (htoken : ¬ IsEvent "token" event) (hfinal : ¬ IsEvent "final_response" event) :
    d.Says (events ++ [event]) := by
  refine ⟨?_, ?_, ?_, ?_, ?_⟩
  · rw [tokensOf_other htoken, h.tokens]
  · rw [lastFinal?_other hfinal, h.final]
  · rw [lastParsed_other hfinal, h.parsed]
  · rw [lastFinal?_other hfinal]
    exact h.ended
  · rw [lastFinal?_other hfinal, spoken_other htoken]
    intro hnone
    obtain hnull | ⟨hspoken, e, he, hend⟩ := h.unended hnone
    · exact .inl hnull
    · exact .inr ⟨hspoken, e, List.mem_append_left _ he, hend⟩

theorem token (h : d.Says events) (htype : IsEvent "token" event) (hend : ∀ e ∈ events, ¬ IsEvent "end" e) :
    Draft.Says { d with tokens := d.tokens ++ [(event.field "content").orElse (.str "")] } (events ++ [event]) := by
  have hfinal : ¬ IsEvent "final_response" event := by
    unfold IsEvent at htype ⊢
    simp [htype]
  refine ⟨?_, ?_, ?_, ?_, ?_⟩
  · rw [tokensOf_token htype, h.tokens]
  · rw [lastFinal?_other hfinal, h.final]
  · rw [lastParsed_other hfinal, h.parsed]
  · rw [lastFinal?_other hfinal]
    exact h.ended
  · rw [lastFinal?_other hfinal]
    intro hnone
    obtain hnull | ⟨_, e, he, hends⟩ := h.unended hnone
    · exact .inl hnull
    · exact absurd hends (hend e he)

theorem finalResponse (h : d.Says events) (htype : IsEvent "final_response" event) :
    Draft.Says { d with
      final := true
      message := event.field "message"
      parsed := match event.field "parsed" with
        | .null => d.parsed
        | v => v } (events ++ [event]) := by
  have htoken : ¬ IsEvent "token" event := by
    unfold IsEvent at htype ⊢
    simp [htype]
  refine ⟨?_, ?_, ?_, ?_, ?_⟩
  · rw [tokensOf_other htoken, h.tokens]
  · rw [lastFinal?_final htype]
    rfl
  · rw [lastParsed_final htype, h.parsed]
  · rw [lastFinal?_final htype]
    rintro _ ⟨⟩
    rfl
  · rw [lastFinal?_final htype]
    nofun

/-- An event after which more is read leaves a draft that says it too, as long as
nothing but texts is spoken, and nothing after an end. -/
theorem take (h : d.Says events) (hopen : ¬ Concludes event) (hsettled : Settled (events ++ [event]))
    (htexts : ∀ e ∈ events, ¬ Garbles e) : ∃ d', d.take event = .reading d' ∧ d'.Says (events ++ [event]) := by
  unfold Draft.take
  split
  next htype =>
    have hend : ∀ e ∈ events, ¬ IsEvent "end" e := fun e he hends =>
      (List.pairwise_append.mp hsettled).2.2 e he event List.mem_cons_self ⟨hends, htype⟩
    exact ⟨_, rfl, h.token htype hend⟩
  next htype => exact ⟨_, rfl, h.finalResponse htype⟩
  next htype =>
    have hother : d.Says (events ++ [event]) := h.other (by simp [IsEvent, htype]) (by simp [IsEvent, htype])
    split
    next hends =>
      -- the tokens become the message
      simp only [Bool.and_eq_true, Bool.not_eq_true', List.isEmpty_eq_false_iff] at hends
      obtain ⟨hunfinal, htokens⟩ := hends
      rw [h.tokens] at htokens
      obtain ⟨e, he, htoken⟩ := tokensOf_ne_nil_iff.mp htokens
      have hjoin : d.withTokens = .ok { d with message := .str (spokenText events) } := by
        unfold Draft.withTokens
        rw [h.tokens, joinTexts_tokensOf htexts]
        rfl
      rw [hjoin]
      have hnone : lastFinal? (events ++ [event]) = none := by
        rw [← Option.isNone_iff_eq_none, ← Option.not_isSome, ← hother.final, hunfinal]
        rfl
      refine ⟨_, rfl, hother.tokens, hother.final, hother.parsed, by simp [hnone], fun _ => .inr ⟨?_, event, ?_, htype⟩⟩
      · rw [spoken_other (by simp [IsEvent, htype]), spoken_of_token he htoken]
      · exact List.mem_append_right _ List.mem_cons_self
    next => exact ⟨d, rfl, hother⟩
  next htype => exact absurd (.inl htype) hopen
  next htype => exact absurd (.inr htype) hopen
  next htoken hfinal _ _ _ => exact ⟨d, rfl, h.other htoken hfinal⟩

/-- Events after which more is read leave a draft that says them all. -/
theorem takeAll (hopen : ∀ e ∈ events, ¬ Concludes e) (hsettled : Settled events) (htexts : ∀ e ∈ events, ¬ Garbles e) :
    ∃ d', Draft.empty.takeAll events = .reading d' ∧ d'.Says events := by
  refine takeAll_keeps empty fun before event after d hsplit h => ?_
  subst hsplit
  have hnext : before ++ event :: after = (before ++ [event]) ++ after := by simp
  rw [hnext] at hsettled
  exact h.take (hopen event (by simp)) (hsettled.sublist (List.sublist_append_left _ _)) fun e he => htexts e (by simp [he])

/-- At the end of a stream the reply is what has been said. -/
theorem reply (h : d.Says events) (htexts : ∀ e ∈ events, ¬ Garbles e) :
    d.reply = .ok ⟨saidBy events, [], lastParsed events, .null⟩ := by
  have hjoin : d.withTokens = .ok { d with message := .str (spokenText events) } := by
    unfold Draft.withTokens
    rw [h.tokens, joinTexts_tokensOf htexts]
    rfl
  have hreply : d.reply = .ok ⟨match d.message with | .null => spoken events | message => message, [], d.parsed, .null⟩ := by
    unfold Draft.reply
    split
    next token rest hmessage htokens =>
      have hspoken : spoken events = .str (spokenText events) := by simp [spoken, ← h.tokens, htokens]
      rw [hjoin, hmessage, hspoken]
      rfl
    next hother =>
      cases htokens : d.tokens with
      | nil =>
        have hspoken : spoken events = .null := by simp [spoken, ← h.tokens, htokens]
        rw [hspoken]
        cases hmessage : d.message <;> simp_all [pure, Except.pure, bind, Except.bind]
      | cons token rest =>
        cases hmessage : d.message with
        | null => exact absurd htokens (hother token rest hmessage)
        | _ => simp_all [pure, Except.pure, bind, Except.bind]
  rw [hreply, h.parsed, saidBy, finalMessage]
  cases hlast : lastFinal? events with
  | some final => rw [h.ended final hlast]; rfl
  | none =>
    obtain hnull | ⟨hspoken, -⟩ := h.unended hlast
    · rw [hnull]; rfl
    · rw [hspoken]
      cases spoken events <;> rfl

end Draft.Says

/-! ## Streams -/

/-- Lines that are read to their end: none of them ends the reading or writes an
overlong integer, and their tokens are texts. -/
structure Open (lines : List String) : Prop where
  undecided : ∀ line ∈ lines, ¬ Decides line
  short : ∀ line ∈ lines, ∀ n, ¬ Overlong line n
  texts : ∀ event ∈ eventsOf lines, ¬ Garbles event

/-- The tool call that an entry asks for. -/
def callOf (entry : Value) : ToolCall :=
  ⟨(entry.field? "name").getD .null, ((entry.field? "args").getD .null).orElse (.record []),
    (entry.field? "tool_call_id").getD .null⟩

/-- The tool calls that an event asks for, in order. -/
def callsOf (event : Entries) : List ToolCall := ((event.field "tool_calls").items?.getD []).map callOf

/-- The checkpoint that an event names. -/
def checkpointOf (event : Entries) : Value := ((event.field "configurable").field? "checkpoint_id").getD .null

theorem toolCall_eq {entry : Value} (h : entry.field? "name" ≠ none) : Draft.toolCall entry = .ok (callOf entry) := by
  obtain ⟨name, hname⟩ := Option.ne_none_iff_exists'.mp h
  cases entry with
  | dict i es =>
    have hitem : (Value.dict i es).item (.str "name") = .ok name := by
      have hfield : Entries.get? es (Key.ofString "name") = some name := hname
      simp [Value.item, hfield]
    rw [Draft.toolCall, hitem]
    simp only [callOf, hname]
    rfl
  | _ => cases hname

theorem mapM_eq_map {α β ε : Type} {g : α → Except ε β} {f : α → β} {xs : List α} (h : ∀ x ∈ xs, g x = .ok (f x)) :
    xs.mapM g = .ok (xs.map f) := by
  induction xs with
  | nil => rfl
  | cons x xs ih =>
    obtain ⟨hx, hxs⟩ := List.forall_mem_cons.mp h
    rw [List.mapM_cons, hx, ih hxs]
    rfl

theorem Value.field?_false {v : Value} (h : v.truthy = false) (name : String) : v.field? name = none := by
  cases v <;> simp_all [Value.field?, Value.truthy, Entries.field?, Entries.get?]

/-- What is false has no items. -/
theorem Value.items?_false {v : Value} (h : v.truthy = false) : v.items?.getD [] = [] := by
  cases v with
  | set xs =>
    obtain rfl : xs = [] := by simpa [Value.truthy] using h
    simp [Value.items?, Value.setOrder]
  | view kind es =>
    obtain rfl : es = [] := by simpa [Value.truthy] using h
    cases kind <;> rfl
  | _ => simp_all [Value.items?, Value.truthy]

/-- A request for tools in the right shape is read as it is. -/
theorem toolReply_eq (d : Draft) {event : Entries} (h : ¬ Misasks event) :
    d.toolReply event = .ok ⟨d.message, callsOf event, d.parsed, checkpointOf event⟩ := by
  unfold Misasks at h
  push Not at h
  obtain ⟨hcalls, hconfigurable⟩ := h
  have hcheckpoint : ((event.field "configurable").orElse (.record [])).read "checkpoint_id" = .ok (checkpointOf event) := by
    unfold checkpointOf Value.orElse
    cases htrue : (event.field "configurable").truthy with
    | false =>
      rw [Value.field?_false htrue]
      rfl
    | true =>
      obtain ⟨i, es, hes⟩ := Value.eq_dict_of_isMapping (by simpa using hconfigurable htrue)
      rw [hes]
      rfl
  have hentries : ∃ entries, (event.field "tool_calls").itemsOrNone = .ok entries ∧
      entries.mapM Draft.toolCall = .ok (callsOf event) := by
    unfold callsOf Value.itemsOrNone
    cases htrue : (event.field "tool_calls").truthy with
    | false =>
      rw [Value.items?_false htrue]
      exact ⟨[], rfl, rfl⟩
    | true =>
      obtain ⟨entries, hitems, hnamed⟩ := hcalls htrue
      refine ⟨entries, ?_, ?_⟩
      · simp [Value.iterate, hitems]
      · rw [hitems]
        exact mapM_eq_map fun entry hentry => toolCall_eq (hnamed entry hentry)
  obtain ⟨entries, hitems, hmap⟩ := hentries
  simp only [Draft.toolReply, hitems, hmap, hcheckpoint, bind, Except.bind, pure, Except.pure]

/-- What a stream comes to that is read so far and no further. -/
def Progress.outcome : Progress → Except Problem ChatReply
  | .reading d => d.reply.mapError .fault
  | .finished r => .ok r
  | .failed p => .error p

theorem chatReply_snd (lines : List String) : (chatReply lines).2 = (Draft.empty.readLines lines).2.outcome := by
  unfold chatReply
  cases Draft.empty.readLines lines with
  | mk records progress => cases progress <;> rfl

variable {before lines : List String} {line : String} {event : Entries}

/-- Lines are read to their end if all can be read, none of their events ends the
reading and their tokens are texts. -/
theorem Open.of_events (hread : ∀ line ∈ lines, ∃ content, readLine line = .ok content)
    (hevents : ∀ event ∈ eventsOf lines, ¬ Concludes event ∧ ¬ Garbles event) : Open lines where
  undecided := by
    rintro line hline ⟨event, hevent, hconcludes⟩
    exact (hevents event (List.mem_filterMap.mpr ⟨line, hline, hevent⟩)).1 hconcludes
  short := by
    rintro line hline n ⟨text, hoverlong⟩
    obtain ⟨content, hcontent⟩ := hread line hline
    obtain ⟨f, hfails⟩ := (readLine_fails_iff line).mpr ⟨text, n, hoverlong⟩
    rw [hfails] at hcontent
    cases hcontent
  texts event hevent := (hevents event hevent).2

theorem Open.events (h : Open lines) : ∀ event ∈ eventsOf lines, ¬ Concludes event := by
  intro event hevent hconcludes
  obtain ⟨line, hline, hread⟩ := List.mem_filterMap.mp hevent
  exact h.undecided line hline ⟨event, hread, hconcludes⟩

/-- Behind lines that are read to their end everything depends on what follows. -/
theorem Open.chatReply_append (h : Open before) : ∃ d : Draft, ∀ after,
    (chatReply (before ++ after)).2 = (d.readLines after).2.outcome := by
  obtain ⟨d, hd⟩ := Draft.takeAll_open h.events h.texts
  refine ⟨d, fun after => ?_⟩
  rw [chatReply_snd, Draft.readLines_append h.short, hd]
  rfl

/-- An error that is met is the failure of the turn. -/
theorem chatReply_error (h : Open before) (hevent : eventOf? line = some event) (hkind : IsEvent "error" event)
    (after : List String) : (chatReply (before ++ line :: after)).2 = .error (.service (errorOf event)) := by
  obtain ⟨d, hd⟩ := h.chatReply_append
  have htake : d.take event = .failed (.service (errorOf event)) := by
    unfold IsEvent at hkind
    simp [Draft.take, hkind]
  rw [hd, Draft.readLines_event d hevent, htake]
  rfl

/-- A request for tools that is met is the reply, whatever follows. -/
theorem chatReply_tools (h : Open before) (hevent : eventOf? line = some event)
    (hkind : IsEvent "tool_call_required" event) (hasks : ¬ Misasks event) :
    ∃ message parsed, ∀ after, (chatReply (before ++ line :: after)).2 =
      .ok ⟨message, callsOf event, parsed, checkpointOf event⟩ := by
  obtain ⟨d, hd⟩ := h.chatReply_append
  refine ⟨d.message, d.parsed, fun after => ?_⟩
  have htake : d.take event = .finished ⟨d.message, callsOf event, d.parsed, checkpointOf event⟩ := by
    unfold IsEvent at hkind
    simp [Draft.take, hkind, toolReply_eq d hasks, Progress.ofResult]
  rw [hd, Draft.readLines_event d hevent, htake]
  rfl

/-- An overlong integer that is met is a fault. -/
theorem chatReply_overlong (h : Open before) {n : Nat} (hline : Overlong line n) (after : List String) :
    (chatReply (before ++ line :: after)).2 = .error (.fault (.tooManyDigitsIn n)) := by
  obtain ⟨d, hd⟩ := h.chatReply_append
  obtain ⟨text, htext, hread⟩ := hline
  simp [hd, Draft.readLines, readLine, htext, hread, Progress.outcome]

/-- A stream that is read to its end comes to what its events have said. -/
theorem chatReply_through (h : Open lines) (hsettled : Settled (eventsOf lines)) :
    (chatReply lines).2 = .ok ⟨saidBy (eventsOf lines), [], lastParsed (eventsOf lines), .null⟩ := by
  obtain ⟨d, hd, hsays⟩ := Draft.Says.takeAll h.events hsettled h.texts
  have hread := Draft.readLines_append h.short [] Draft.empty
  rw [List.append_nil, hd] at hread
  rw [chatReply_snd, hread]
  simp only [Progress.andThen, Draft.readLines, Progress.outcome, hsays.reply h.texts]
  rfl

/-! ## Ends of turns -/

/-- The event is not the end of a turn. -/
def goesOn (event : Entries) : Bool :=
  match event.field "type" with
  | .str "end" => false
  | _ => true

/-- What is read off events that go on is read off them alone. -/
theorem filterMap_goesOn {α : Type} {f : Entries → Option α} (h : ∀ event, goesOn event = false → f event = none)
    (events : List Entries) : (events.filter goesOn).filterMap f = events.filterMap f := by
  rw [List.filterMap_filter]
  refine List.filterMap_congr fun event _ => ?_
  cases hgoes : goesOn event with
  | true => rfl
  | false => exact (h event hgoes).symm

theorem field_of_not_goesOn (h : goesOn event = false) : event.field "type" = .str "end" := by
  unfold goesOn at h
  split at h
  next htype => exact htype
  next => cases h

theorem saidBy_goesOn (events : List Entries) : saidBy (events.filter goesOn) = saidBy events := by
  have htokens : tokensOf (events.filter goesOn) = tokensOf events :=
    filterMap_goesOn (fun event h => by simp [field_of_not_goesOn h]) events
  have hfinal : lastFinal? (events.filter goesOn) = lastFinal? events := by
    unfold lastFinal?
    rw [List.filter_filter]
    congr 1
    refine List.filter_congr fun event _ => ?_
    cases hgoes : goesOn event with
    | true => rw [Bool.and_true]
    | false => simp [field_of_not_goesOn hgoes]
  simp only [saidBy, finalMessage, spoken, spokenText, htokens, hfinal]

theorem lastParsed_goesOn (events : List Entries) : lastParsed (events.filter goesOn) = lastParsed events := by
  unfold lastParsed
  rw [filterMap_goesOn fun event h => by simp [parsedBy, field_of_not_goesOn h]]

/-- The lines without those that are ends of turns. -/
def withoutEnds (lines : List String) : List String := lines.filter fun line => (eventOf? line).all goesOn

theorem eventsOf_withoutEnds (lines : List String) : eventsOf (withoutEnds lines) = (eventsOf lines).filter goesOn := by
  unfold eventsOf withoutEnds
  rw [List.filterMap_filter, List.filter_filterMap]
  refine List.filterMap_congr fun line _ => ?_
  cases eventOf? line <;> simp [Option.filter]

theorem Open.withoutEnds (h : Open lines) : Open (withoutEnds lines) where
  undecided line hline := h.undecided line (List.mem_of_mem_filter hline)
  short line hline := h.short line (List.mem_of_mem_filter hline)
  texts event hevent := by
    rw [eventsOf_withoutEnds] at hevent
    exact h.texts event (List.mem_of_mem_filter hevent)

/-- Ends of turns may be there or not. -/
theorem chatReply_withoutEnds (h : Open lines) (hsettled : Settled (eventsOf lines)) :
    (chatReply (withoutEnds lines)).2 = (chatReply lines).2 := by
  have hsettled' : Settled (eventsOf (Service.withoutEnds lines)) := by
    rw [eventsOf_withoutEnds]
    exact hsettled.sublist List.filter_sublist
  rw [chatReply_through h hsettled, chatReply_through h.withoutEnds hsettled', eventsOf_withoutEnds, saidBy_goesOn,
    lastParsed_goesOn]

/-! ## Overlong integers -/

/-- So many ones in a row. -/
def ones (n : Nat) : List Char := List.replicate n '1'

/-- An integer of too many ones is not converted. -/
theorem readNumber_ones {n : Nat} (h : Json.maxDigits < n + 1) (position : Nat) :
    Json.readNumber ⟨'1' :: ones n, position⟩ = .error (.tooManyDigits (n + 1)) := by
  have hones : '1' :: ones n = ones (n + 1) := rfl
  have hwhole : Json.leadingDigits ('1' :: ones n) = '1' :: ones n := by
    rw [hones]
    exact List.takeWhile_eq_self_iff.mpr fun ch hch => by rw [List.eq_of_mem_replicate hch]; rfl
  have hlength : (ones n).length = n := List.length_replicate
  have hdrop : (ones n).drop n = [] := by simp [ones]
  simp [Json.readNumber, hwhole, hlength, hdrop, h, Json.fraction, Json.exponent?]

theorem read_ones {n : Nat} (h : Json.maxDigits < n + 1) :
    Json.read (String.ofList ('1' :: ones n)) = .error (.tooManyDigits (n + 1)) := by
  have hvalue : ∀ fuel, Json.readValue (fuel + 1) ⟨'1' :: ones n, 0⟩ = .error (.tooManyDigits (n + 1)) := by
    intro fuel
    simp [Json.readValue, Json.word?, readNumber_ones h]
  have hskip : Json.Cursor.skipBlanks ⟨'1' :: ones n, 0⟩ = ⟨'1' :: ones n, 0⟩ := by
    simp [Json.Cursor.skipBlanks, Json.Cursor.isBlank, Json.Cursor.drop]
  simp [Json.read, hskip, hvalue, bind, Except.bind]

theorem eventText?_marked (text : List Char) :
    eventText? (String.ofList ("data: ".toList ++ text)) = some (String.ofList text) := by
  have hline : (String.ofList ("data: ".toList ++ text)).toList = "data: ".toList ++ text := String.toList_ofList
  have hmark : "data: ".toList.isPrefixOf ("data: ".toList ++ text) = true :=
    List.isPrefixOf_iff_prefix.mpr (List.prefix_append ..)
  have hdrop : ("data: ".toList ++ text).drop 6 = text := List.drop_left' rfl
  rw [eventText?, hline, if_pos hmark, hdrop]

/-- The line that marks so many ones as an event. -/
def onesLine (n : Nat) : String := String.ofList ("data: ".toList ++ '1' :: ones n)

theorem onesLine_overlong {n : Nat} (h : Json.maxDigits < n + 1) : Overlong (onesLine n) (n + 1) :=
  ⟨_, eventText?_marked _, read_ones h⟩

/-! ## Faithful reading -/

/-- A stream is folded faithfully.

* A line that says nothing may stand anywhere.
* An error behind lines that are read to their end is the failure of the turn,
  whatever follows.
* A request for tools there is the reply, with its calls in order and its
  checkpoint, whatever follows.
* Lines that are all read to their end, in which nothing is spoken after an end, come
  to the message of the last final response or else to all tokens, and to what was
  parsed last.  Their ends of turns do not matter.
* An integer with too many digits ends the reading in a fault. -/
theorem stream_folded (before after : List String) (line : String) (event : Entries) :
    (Idle line → (chatReply (before ++ line :: after)).2 = (chatReply (before ++ after)).2) ∧
    (Open before → eventOf? line = some event → IsEvent "error" event →
      (chatReply (before ++ line :: after)).2 = .error (.service (errorOf event))) ∧
    (Open before → eventOf? line = some event → IsEvent "tool_call_required" event → ¬ Misasks event →
      ∃ message parsed, ∀ later,
        (chatReply (before ++ line :: later)).2 = .ok ⟨message, callsOf event, parsed, checkpointOf event⟩) ∧
    (Open before → Settled (eventsOf before) →
      (chatReply before).2 = .ok ⟨saidBy (eventsOf before), [], lastParsed (eventsOf before), .null⟩ ∧
        (chatReply (withoutEnds before)).2 = (chatReply before).2) ∧
    (∀ digits, Open before → Overlong line digits →
      (chatReply (before ++ line :: after)).2 = .error (.fault (.tooManyDigitsIn digits))) := by
  refine ⟨fun h => ?_, fun h hevent hkind => chatReply_error h hevent hkind after, fun h hevent hkind hasks => ?_,
    fun h hsettled => ?_, fun digits h hline => chatReply_overlong h hline after⟩
  · rw [chatReply_snd, chatReply_snd, Draft.readLines_insert h]
  · exact chatReply_tools h hevent hkind hasks
  · exact ⟨chatReply_through h hsettled, chatReply_withoutEnds h hsettled⟩

/-- A turn in two tokens, with a line of no meaning and an end. -/
def greeting : List String :=
  ["data: \x7b\"type\": \"token\", \"content\": \"Hel\"\x7d", ": ping",
    "data: \x7b\"type\": \"token\", \"content\": \"lo\"\x7d", "data: \x7b\"type\": \"end\"\x7d"]

/-- The events of `greeting`. -/
def greetingEvents : List Entries :=
  [[(.str "type", .str "token"), (.str "content", .str "Hel")], [(.str "type", .str "token"), (.str "content", .str "lo")],
    [(.str "type", .str "end")]]

/-- A request for a tool. -/
def toolEvent : Entries :=
  [(.str "type", .str "tool_call_required"), (.str "tool_calls", .list [.record [("name", .str "f")]]),
    (.str "configurable", .record [("checkpoint_id", .str "c1")])]

/-- The line of `toolEvent`. -/
def toolLine : String :=
  "data: \x7b\"type\":\"tool_call_required\",\"tool_calls\":[\x7b\"name\":\"f\"\x7d],\"configurable\":\x7b\"checkpoint_id\":\"c1\"\x7d\x7d"

/-- A refusal. -/
def refusalEvent : Entries := [(.str "type", .str "error"), (.str "message", .str "full")]

/-- The line of `refusalEvent`. -/
def refusalLine : String := "data: \x7b\"type\": \"error\", \"message\": \"full\"\x7d"

theorem eventsOf_greeting : eventsOf greeting = greetingEvents := by rfl

theorem token_plain {text : String} (hkind : IsEvent "token" event) (hcontent : event.field "content" = .str text) :
    ¬ Concludes event ∧ ¬ Garbles event := by
  unfold IsEvent at hkind
  simp [Concludes, Garbles, IsEvent, hkind, hcontent]

theorem end_plain (hkind : IsEvent "end" event) : ¬ Concludes event ∧ ¬ Garbles event := by
  unfold IsEvent at hkind
  simp [Concludes, Garbles, IsEvent, hkind]

theorem greeting_open : Open greeting := by
  refine Open.of_events ?_ ?_
  · simp only [greeting, List.forall_mem_cons]
    exact ⟨⟨_, rfl⟩, ⟨_, rfl⟩, ⟨_, rfl⟩, ⟨_, rfl⟩, by simp⟩
  · rw [eventsOf_greeting]
    simp only [greetingEvents, List.forall_mem_cons]
    exact ⟨token_plain rfl rfl, token_plain rfl rfl, end_plain rfl, by simp⟩

theorem greeting_settled : Settled (eventsOf greeting) := by
  rw [eventsOf_greeting]
  have htoken : ∀ text : String, ¬ IsEvent "end" [(.str "type", .str "token"), (.str "content", .str text)] := by
    simp [IsEvent, Entries.field, Entries.field?, Entries.get?]
  simp [Settled, greetingEvents, htoken]

set_option maxRecDepth 4000 in
theorem eventOf?_toolLine : eventOf? toolLine = some toolEvent := by
  unfold toolLine toolEvent
  simp only [eventOf?, readLine, eventText?, Json.read]
  simp [Json.readValue, Json.readItems, Json.readMembers, Json.readString, Json.Cursor.skipBlanks, Json.Cursor.isBlank,
    Json.Cursor.drop, bind, Except.bind, pure, Except.pure, Entries.setField, Entries.set, Key.ofString]
  exact ⟨rfl, rfl⟩

theorem toolEvent_asks : ¬ Misasks toolEvent := by
  rintro (⟨-, hcalls⟩ | ⟨-, hconfigurable⟩)
  · obtain ⟨call, hcall, hname⟩ := hcalls [.record [("name", .str "f")]] (by rfl)
    rw [List.mem_singleton.mp hcall] at hname
    cases hname
  · cases hconfigurable

theorem greeting_folded :
    (chatReply greeting).2 = .ok ⟨.str "Hello", [], .null, .null⟩ ∧
    (chatReply (withoutEnds greeting)).2 = (chatReply greeting).2 ∧
    (chatReply (greeting ++ ": ping" :: [toolLine])).2 = (chatReply (greeting ++ [toolLine])).2 ∧
    (chatReply (greeting ++ refusalLine :: [toolLine])).2 = .error (.service ⟨"Model service error: full", none⟩) ∧
    (∃ message parsed, ∀ later, (chatReply (greeting ++ toolLine :: later)).2 =
      .ok ⟨message, [⟨.str "f", .record [], .null⟩], parsed, .str "c1"⟩) ∧
    (chatReply (greeting ++ onesLine 4300 :: [])).2 = .error (.fault (.tooManyDigitsIn 4301)) := by
  have hsaid : saidBy (eventsOf greeting) = .str "Hello" := by rw [eventsOf_greeting]; rfl
  have hparsed : lastParsed (eventsOf greeting) = .null := by rw [eventsOf_greeting]; rfl
  have hcalls : callsOf toolEvent = [⟨.str "f", .record [], .null⟩] := by rfl
  have hcheckpoint : checkpointOf toolEvent = .str "c1" := by rfl
  have hreason : errorOf refusalEvent = ⟨"Model service error: full", none⟩ := by rfl
  obtain ⟨hreply, hends⟩ := (stream_folded greeting [] "" []).2.2.2.1 greeting_open greeting_settled
  have hidle := (stream_folded greeting [toolLine] ": ping" []).1 (.unmarked (by rfl))
  have herror := (stream_folded greeting [toolLine] refusalLine refusalEvent).2.1 greeting_open (by rfl) (by rfl)
  have htools := (stream_folded greeting [] toolLine toolEvent).2.2.1 greeting_open eventOf?_toolLine (by rfl) toolEvent_asks
  have hlong := (stream_folded greeting [] (onesLine 4300) []).2.2.2.2 4301 greeting_open (onesLine_overlong (by decide))
  rw [hsaid, hparsed] at hreply
  rw [hcalls, hcheckpoint] at htools
  rw [hreason] at herror
  exact ⟨hreply, hends, hidle, herror, htools, hlong⟩

/-- A line that holds an integer and no event is not always passed over. -/
theorem long_number_not_ignored : ¬ ∀ before line after, eventOf? line = none →
    (chatReply (before ++ line :: after)).2 = (chatReply (before ++ after)).2 := by
  intro h
  have hlong : Overlong (onesLine 4300) 4301 := onesLine_overlong (by decide)
  have hempty : Open [] := Open.of_events (by simp) (by simp [eventsOf])
  obtain ⟨f, hfails⟩ := (readLine_fails_iff (onesLine 4300)).mpr (hlong.imp fun _ h => ⟨4301, h⟩)
  have hevent : eventOf? (onesLine 4300) = none := by
    rw [eventOf?, hfails]
  have hsame : (chatReply ([] ++ onesLine 4300 :: [])).2 = (chatReply []).2 := h [] (onesLine 4300) [] hevent
  rw [chatReply_overlong hempty hlong] at hsame
  cases hsame

end Workflow.Service
