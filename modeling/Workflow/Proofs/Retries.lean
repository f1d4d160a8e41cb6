import Workflow.Proofs.Checkpoints

/-!
# Workflow.Proofs.Retries

What is left of a conversation when the API lets a turn down.

1. The second half of a turn that the API lets down changes nothing, whenever it
   comes (`conclude_failed`).  So what such a turn changes is what its first half
   does, before the API is asked.
2. A turn that begins a conversation changes nothing before that, and can be
   repeated.  A turn that goes on with one has taken it, and nobody puts it back:
   whatever comes in between, every repetition is turned down without the API being
   asked (`failed_turn_spends`).
-/

namespace Workflow.Service.Conversations

open Run

variable {cs begun : Conversations} {o : Option MapId} {request : Entries} {checkpoint : Value} {turn : Turn}

/-! ## Turns that the API lets down -/

/-- Nothing is parked for an API that fails. -/
theorem conclude_failed (cs : Conversations) (turn : Turn) (message : String) :
    cs.conclude turn (.error message) = (cs, [], .error (.service ⟨"Anthropic request failed: " ++ message, none⟩)) :=
  rfl

/-- A whole turn that the API lets down leaves what its first half leaves. -/
theorem turn_failed {api : Api} {message : String} (hbegin : cs.begin (.dict o request) checkpoint = (begun, .ok turn))
    (hask : (api.ask turn.query).1 = .error message) :
    cs.turn api (.dict o request) checkpoint =
      ⟨begun, (api.ask turn.query).2, [], .error (.service ⟨"Anthropic request failed: " ++ message, none⟩)⟩ := by
  unfold Conversations.turn
  simp only [hbegin, hask, conclude_failed]

/-- What a whole turn leaves is what one or two halves leave. -/
theorem Served.whole {hs : List Half} (h : Served hs cs) (api : Api) (o : Option MapId) (request : Entries)
    (checkpoint : Value) : ∃ hs', Served hs' (cs.turn api (.dict o request) checkpoint).conversations := by
  have hfirst := h.first o request checkpoint
  unfold Conversations.turn
  generalize cs.begin (.dict o request) checkpoint = begun at hfirst ⊢
  obtain ⟨begun, p | turn⟩ := begun
  · exact ⟨_, hfirst⟩
  · exact ⟨_, hfirst.second turn (api.ask turn.query).1⟩

/-! ## Conversations that have been taken -/

/-- One conversation has been taken, and nothing else has changed. -/
structure Spent (cs begun : Conversations) (id : String) : Prop where
  found : (cs.find? (.str id)).isSome
  gone : begun.find? (.str id) = none
  others : ∀ other, other ≠ id → begun.find? (.str other) = cs.find? (.str other)
  settings : begun.model = cs.model ∧ begun.maxTokens = cs.maxTokens ∧ begun.issued = cs.issued

/-- Before the API is asked, a turn takes the conversation that it goes on with. -/
theorem begin_spends (hbegin : cs.begin (.dict o request) checkpoint = (begun, .ok turn)) :
    (checkpoint = .null ∧ begun = cs) ∨ ∃ id, checkpoint = .str id ∧ Spent cs begun id := by
  have hbegins := begins cs o request checkpoint
  rw [hbegin] at hbegins
  cases hbegins with
  | opening => exact .inl ⟨rfl, rfl⟩
  | @taken id messages _ hfound _ _ =>
    exact .inr ⟨id, rfl, by rw [hfound]; rfl, find?_drop_same cs id, fun _ hne => find?_drop_other hne.symm, rfl, rfl, rfl⟩

/-- Whatever a service goes through once a conversation has been taken, it is not
found again, and whoever asks for it is turned down. -/
theorem turned_down_for_good {hs between : List Half} {later : Conversations} {id : String}
    (h : Served (hs ++ .first (.str id) (.ok turn) :: between) later) :
    later.find? (.str id) = none ∧ ∀ api o request, later.turn api (.dict o request) (.str id) =
      ⟨later, api, [], .error (.service ⟨"Unknown checkpoint: " ++ id, none⟩)⟩ := by
  have htaken : Half.Takes (.first (.str id) (.ok turn)) id := ⟨_, rfl, nofun⟩
  have hgone : later.find? (.str id) = none := h.kept.gone (.inr ⟨_, by simp, htaken⟩)
  exact ⟨hgone, fun api o request => turn_unknown api o request hgone⟩

/-- A turn that the API lets down tells why, and leaves what its first half left,
however late the API fails.  If the turn began a conversation, that is everything as
it was.  If it went on with one, that conversation alone is gone, and for good:
whatever others do before and after the failure, a repetition never gets to the API. -/
theorem failed_turn_spends {hs : List Half} (hserved : Served hs cs)
    (hbegin : cs.begin (.dict o request) checkpoint = (begun, .ok turn)) :
    Served (hs ++ [.first checkpoint (.ok turn)]) begun ∧
    (∀ api message, (api.ask turn.query).1 = .error message → cs.turn api (.dict o request) checkpoint =
      ⟨begun, (api.ask turn.query).2, [], .error (.service ⟨"Anthropic request failed: " ++ message, none⟩)⟩) ∧
    (∀ (later : Conversations) message, later.conclude turn (.error message) =
      (later, [], .error (.service ⟨"Anthropic request failed: " ++ message, none⟩))) ∧
    ((checkpoint = .null ∧ begun = cs) ∨ ∃ id, checkpoint = .str id ∧ Spent cs begun id ∧
      ∀ between later, Served (hs ++ .first checkpoint (.ok turn) :: between) later →
        later.find? (.str id) = none ∧ ∀ api o request, later.turn api (.dict o request) (.str id) =
          ⟨later, api, [], .error (.service ⟨"Unknown checkpoint: " ++ id, none⟩)⟩) := by
  refine ⟨?_, fun _ _ => turn_failed hbegin, fun later message => conclude_failed later turn message, ?_⟩
  · have hfirst := Served.first o request checkpoint hserved
    rwa [hbegin] at hfirst
  · rcases begin_spends hbegin with hopening | ⟨id, rfl, hspent⟩
    · exact .inl hopening
    · exact .inr ⟨id, rfl, hspent, fun between later => turned_down_for_good⟩

/-! ## A turn repeated -/

/-- A request that begins a conversation. -/
def asking : Entries := [(.str "messages", .list [.record [("role", .str "user"), ("content", .str "cats?")]])]

/-- A request that carries the result of a tool. -/
def telling : Entries :=
  [(.str "messages", .list [.record [("tool_call_id", .str "tu_1"), ("content", .str "mammals")]])]

/-- An API that asks for a tool, fails once, and would then answer. -/
def overloaded : Api where
  pending := [.ok [⟨[(.str "type", .str "tool_use"), (.str "name", .str "search"), (.str "id", .str "tu_1")]⟩],
    .error "overloaded", .ok [⟨[(.str "type", .str "text"), (.str "text", .str "Cats are mammals.")]⟩]]
  queries := []
  silence := "no scripted response"

/-- The conversation is begun. -/
def begunTurn : TurnEnd := (Conversations.empty .null .null).turn overloaded (.dict none asking) .null

/-- The API fails as the conversation is gone on with. -/
def failedTurn : TurnEnd :=
  begunTurn.conversations.turn begunTurn.api (.dict none telling) (.str "checkpoint-1")

/-- The same turn once more. -/
def repeatedTurn : TurnEnd :=
  failedTurn.conversations.turn failedTurn.api (.dict none telling) (.str "checkpoint-1")

/-- The text of the service error in which a turn ends. -/
def refusal? (e : TurnEnd) : Option String :=
  match e.reply with
  | .error (.service p) => some p.message
  | _ => none

/-- The API fails once; the conversation that was parked before is not parked any
more, and the same turn is turned down although the API would answer. -/
theorem failed_continuation_not_repeatable :
    begunTurn.conversations.parked.map Prod.fst = ["checkpoint-1"] ∧
      refusal? failedTurn = some "Anthropic request failed: overloaded" ∧
      failedTurn.conversations.parked.map Prod.fst = [] ∧
      refusal? repeatedTurn = some "Unknown checkpoint: checkpoint-1" ∧ repeatedTurn.api.pending.length = 1 := by
  decide +kernel

/-- The conversation of the failed turn is the one that is gone, for everybody and
from then on. -/
theorem failed_continuation_spends : ∃ hs turn, Served hs begunTurn.conversations ∧
    begunTurn.conversations.begin (.dict none telling) (.str "checkpoint-1") = (failedTurn.conversations, .ok turn) ∧
    Spent begunTurn.conversations failedTurn.conversations "checkpoint-1" ∧
    ∀ between later, Served (hs ++ .first (.str "checkpoint-1") (.ok turn) :: between) later →
      later.find? (.str "checkpoint-1") = none := by
  obtain ⟨hs, hserved⟩ := (@Served.empty .null .null).whole overloaded none asking .null
  rcases hbegin : begunTurn.conversations.begin (.dict none telling) (.str "checkpoint-1") with ⟨begun, outcome⟩
  have hok : (begunTurn.conversations.begin (.dict none telling) (.str "checkpoint-1")).2.isOk = true := by
    decide +kernel
  rw [hbegin] at hok
  rcases outcome with p | turn
  · cases hok
  have hask : (begunTurn.api.ask turn.query).1 = .error "overloaded" := rfl
  obtain ⟨-, hfailed, -, ⟨hnull, -⟩ | ⟨id, hid, hspent, hafter⟩⟩ := failed_turn_spends hserved hbegin
  · cases hnull
  cases hid
  have hend : failedTurn.conversations = begun := congrArg TurnEnd.conversations (hfailed _ _ hask)
  exact ⟨hs, turn, hserved, by rw [hend], hend ▸ hspent, fun between later h => (hafter between later h).1⟩

end Workflow.Service.Conversations
