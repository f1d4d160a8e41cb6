import Workflow.Proofs.Tokens

/-!
# Workflow.Proofs.Stages

The life of a visit.

A move changes the stage of one visit at most, and it is told from what is in
hand before and after which one and how (`Restage`).  `Move.restage` follows a
visit through a move, and `Move.staged` finds out where one has come from that
stands at some stage afterwards.  What concerns stages alone is read off them.
-/

namespace Workflow.Run

open Machine

variable {σ : Type}

theorem Hand.about_of_event {h : Hand} {e : Event} (he : h.event? = some e) : h.about? = (Hand.holds e).about? := by
  cases h with
  | holds => rw [Option.some.inj he]
  | _ => cases he

theorem Hand.about_of_visit {h : Hand} {t : Nat} (hh : h.visit? = some t) : h.about? = some t := by
  cases h with
  | works | ends => exact hh
  | _ => cases hh

/-- Does a visit at the stage heed the event? -/
def Stage.Heeds : Stage → Event → Prop
  | _, .start _ => True
  | _, .pass _ => True
  | .calling _, .answer _ _ => True
  | .waiting _, .ended _ _ => True
  | .gathering _ _, .settled _ _ _ => True
  | _, _ => False

/-- What becomes of the stage of a visit, between two things in hand. -/
inductive Restage (t : Nat) : Hand → Stage → Hand → Stage → Prop where
  /-- The move is about another task. -/
  | other {h stage h'} : h.about? ≠ some t → h'.about? ≠ some t → Restage t h stage h' stage
  /-- The event comes too late. -/
  | late {e stage} : ¬stage.Heeds e → Restage t (.holds e) stage .idle stage
  | enter {work} : Restage t (.holds (.start t)) .queued (.works t work) .over
  | turn {failure} : Restage t (.holds (.start t)) .queued (.ends t failure) .over
  | park : Restage t (.holds (.start t)) .queued .idle .parked
  | pass : Restage t (.holds (.pass t)) .parked (.ends t none) .over
  | answer {outcome next w} :
      Restage t (.holds (.answer t outcome)) (.calling next) (.works t (next outcome w)) .over
  | resume {failure left} : failure.isSome ∨ left ≤ 1 →
      Restage t (.holds (.ended t failure)) (.waiting left) (.ends t failure) .over
  | count {left} : 1 < left →
      Restage t (.holds (.ended t none)) (.waiting left) .idle (.waiting (left - 1))
  /-- The last tool call has ended, or one has failed. -/
  | gather {index outcome slots next r w} :
      Restage t (.holds (.settled t index outcome)) (.gathering slots next) (.works t (next r w)) .over
  | fill {slots next index v} : filled? (slots.set index (some v)) = none →
      Restage t (.holds (.settled t index (.ok v))) (.gathering slots next) .idle
        (.gathering (slots.set index (some v)) next)
  /-- A call is answered at once. -/
  | reply {w c next work} : Restage t (.works t (.call w c next)) .over (.works t work) .over
  | noTools {w next work} : Restage t (.works t (.tools w [] next)) .over (.works t work) .over
  | call {w c next} : Restage t (.works t (.call w c next)) .over .idle (.calling next)
  | tools {w tasks next} : tasks ≠ [] →
      Restage t (.works t (.tools w tasks next)) .over .idle (.gathering (tasks.map fun _ => none) next)
  | spread {w v n} : 1 ≤ n → Restage t (.works t (.done w v)) .over .idle (.waiting n)
  | stop {w v} : Restage t (.works t (.done w v)) .over (.ends t none) .over
  | fail {w f} : Restage t (.works t (.fail w f)) .over (.ends t (some f)) .over
  | leave {failure} : Restage t (.ends t failure) .over .idle .over

section

variable {s : Setup σ} {start : Node} {h h' : Hand} {m m' : Machine σ} {t : Nat} {id : NodeId} {parent : Option Nat}
  {stage stage' : Stage}

/-- What is in hand after a move is about the same task as before, if it is
about any. -/
theorem Move.about (hmove : Move s h m h' m') : h'.about? = none ∨ h'.about? = h.about? := by
  cases hmove with
  | drop | park | count | fill | toolError | toolReply | toolCall | toolAnswer | spread | call | tools | tell
  | conclude => exact .inl rfl
  | _ => exact .inr rfl

/-- Of what comes of nothing a visit takes no heed. -/
theorem Visits.deaf (hu : m.Visits t id parent stage) {e : Event} (hstale : m.Stale e)
    (habout : (Hand.holds e).about? = some t) : ¬stage.Heeds e := by
  intro hheeds
  cases e with
  | start =>
      cases habout
      cases hu.symm.trans hstale
  | pass =>
      cases habout
      exact hstale _ _ _ hu
  | answer =>
      cases habout
      cases stage with
      | calling => exact hstale.2 _ _ _ hu
      | _ => exact hheeds
  | ended =>
      cases habout
      cases stage with
      | waiting => exact hstale _ _ _ hu
      | _ => exact hheeds
  | settled =>
      cases habout
      cases stage with
      | gathering => exact hstale _ _ _ _ hu
      | _ => exact hheeds

/-- What becomes of a visit in a move. -/
theorem Move.restage (hmove : Move s h m h' m') (hshape : Shape s.plan.graph start h m) (htokens : Tokens h m)
    (hu : m.Visits t id parent stage) : ∃ stage', m'.Visits t id parent stage' ∧ Restage t h stage h' stage' := by
  by_cases habout : h.about? = some t
  · have hset : ∀ {q}, m'.tasks = (m.setStage t q).tasks → Restage t h stage h' q →
        ∃ stage', m'.Visits t id parent stage' ∧ Restage t h stage h' stage' := fun htasks hre =>
      ⟨_, (hu.setStage _).of_tasks htasks, hre⟩
    have hsame : m'.tasks = m.tasks → Restage t h stage h' stage →
        ∃ stage', m'.Visits t id parent stage' ∧ Restage t h stage h' stage' := fun htasks hre =>
      ⟨_, hu.of_tasks htasks, hre⟩
    have hover : h.visit? = some t → stage = .over := fun hh =>
      let ⟨_, _, hover⟩ := hshape.hand t hh
      (hu.unique hover).2.2
    cases hmove with
    | skip | refuse | absent =>
        cases habout
        obtain ⟨rfl, _⟩ := htokens.begun hu
        exact hset rfl .turn
    | enter =>
        cases habout
        obtain ⟨rfl, _⟩ := htokens.begun hu
        exact hset rfl .enter
    | release =>
        cases habout
        obtain ⟨rfl, _⟩ := htokens.begun hu
        exact hset (setStage_tasks (wake_tasks ..) ..) .enter
    | turn =>
        cases habout
        obtain ⟨rfl, _⟩ := htokens.begun hu
        exact hset (setStage_tasks (turned_tasks ..) ..) .turn
    | park =>
        cases habout
        obtain ⟨rfl, _⟩ := htokens.begun hu
        exact hset (setStage_tasks (turnAway_tasks ..) ..) .park
    | pass =>
        cases habout
        obtain ⟨rfl, _⟩ := htokens.passed hu
        exact hset rfl .pass
    | answer hvisits =>
        cases habout
        obtain ⟨_, _, rfl⟩ := hu.unique hvisits
        exact hset rfl .answer
    | resume hvisits hlast =>
        cases habout
        obtain ⟨_, _, rfl⟩ := hu.unique hvisits
        exact hset rfl (.resume hlast)
    | count hvisits hmany =>
        cases habout
        obtain ⟨_, _, rfl⟩ := hu.unique hvisits
        exact hset rfl (.count hmany)
    | spoil hvisits | gather hvisits =>
        cases habout
        obtain ⟨_, _, rfl⟩ := hu.unique hvisits
        exact hset rfl .gather
    | fill hvisits hlacking =>
        cases habout
        obtain ⟨_, _, rfl⟩ := hu.unique hvisits
        exact hset rfl (.fill hlacking)
    | toolError htools | toolReply htools | toolCall htools | toolAnswer htools =>
        cases habout
        exact absurd htools hu.not_tools
    | drop hstale => exact hsame rfl (.late (Visits.deaf hu hstale habout))
    | spread _ _ htargets =>
        cases habout
        obtain rfl := hover rfl
        exact ⟨_, visits_fanOut.mpr (.inl ⟨rfl, rfl, _, hu⟩), .spread (List.length_pos_iff.mpr htargets)⟩
    | stop =>
        cases habout
        obtain rfl := hover rfl
        exact hsame rfl .stop
    | fail =>
        cases habout
        obtain rfl := hover rfl
        exact hsame rfl .fail
    | reply =>
        cases habout
        obtain rfl := hover rfl
        exact hsame rfl .reply
    | noTools =>
        cases habout
        obtain rfl := hover rfl
        exact hsame rfl .noTools
    | call =>
        cases habout
        obtain rfl := hover rfl
        exact hset rfl .call
    | tools htasks =>
        cases habout
        obtain rfl := hover rfl
        exact ⟨_, visits_beginTools.mpr (.inl ⟨rfl, rfl, _, hu⟩), .tools htasks⟩
    | tell =>
        cases habout
        obtain rfl := hover rfl
        exact hsame (checkStalled_tasks ..) .leave
    | conclude =>
        cases habout
        obtain rfl := hover rfl
        exact hsame ((conclude_tasks ..).trans (checkStalled_tasks ..)) .leave
  · refine ⟨stage, hmove.others hu habout, .other habout ?_⟩
    rcases hmove.about with hnone | hsame
    · rw [hnone]
      exact nofun
    · rwa [hsame]

/-- A visit that stands at some stage after a move has come there from another,
or it has just been begun. -/
theorem Move.staged (hmove : Move s h m h' m') (hshape : Shape s.plan.graph start h m) (htokens : Tokens h m)
    (hu : m'.Visits t id parent stage') :
    (∃ stage, m.Visits t id parent stage ∧ Restage t h stage h' stage') ∨
    stage' = .queued ∧ h' = .idle ∧ ∃ p w v, parent = some p ∧ h = .works p (.done w v) := by
  have hold : m.jobs[t]? = some (.visit id parent) →
      ∃ stage, m.Visits t id parent stage ∧ Restage t h stage h' stage' := by
    intro hjob
    obtain ⟨stage, hvisits⟩ := jobs_getElem?.mp hjob
    obtain ⟨stage₁, hu₁, hre⟩ := hmove.restage hshape htokens hvisits
    obtain ⟨_, _, rfl⟩ := hu.unique hu₁
    exact ⟨stage, hvisits, hre⟩
  have hjob := hu.job
  rcases hmove.jobs with hjobs | ⟨p, _, _, _, n, w, v, rfl, _, _, hjobs⟩ | ⟨p, w, tasks, next, _, hjobs⟩
  · exact .inl (hold (hjobs ▸ hjob))
  · cases hmove with
    | stop => exact .inl (hold hjob)
    | spread =>
        rcases visits_fanOut.mp hu with ⟨rfl, _, _, hvisits⟩ | ⟨_, hvisits⟩ | ⟨rfl, rfl, _⟩
        · exact .inl (hold (Visits.job hvisits))
        · exact .inl (hold (Visits.job hvisits))
        · exact .inr ⟨rfl, rfl, _, _, _, rfl, rfl⟩
  · rw [hjobs] at hjob
    by_cases hlt : t < m.jobs.length
    · exact .inl (hold (by rwa [List.getElem?_append_left hlt] at hjob))
    · rw [List.getElem?_append_right (Nat.le_of_not_lt hlt)] at hjob
      obtain ⟨i, _, heq⟩ := List.mem_mapIdx.mp (List.mem_of_getElem? hjob)
      cases heq

end
end Workflow.Run
