import Workflow.Proofs.Stretches

/-!
# Workflow.Proofs.Calls

Calls and their answers.

As long as nodes make one call at a time, every answer on its way is for a visit
that waits for it, and no visit has two of them coming (`Calls`).  So what is
known of the rest of the work as a call is made is known of it still when the
answer arrives.
-/

namespace Workflow.Run

open Machine

variable {σ : Type}

/-- The answers on their way, with the tasks they are for. -/
def coming (h : Hand) (m : Machine σ) : List (Nat × Except Problem Reply) :=
  (match h with
    | .holds (.answer t outcome) => [(t, outcome)]
    | _ => []) ++ m.sleepers.map fun x => (x.task, x.outcome)

/-- Every answer on its way is for a visit that has called, and of the rest of the
work of that visit, with this answer, `G` holds. -/
structure Calls (G : NodeId → (World → Step Value) → Prop) (h : Hand) (m : Machine σ) : Prop where
  visits : ∀ job ∈ m.jobs, ∃ id parent, job = .visit id parent
  ungathered : ∀ {t id parent slots next}, ¬m.Visits t id parent (.gathering slots next)
  quiet : ∀ t outcome, .answer t outcome ∉ m.ready
  sole : ((coming h m).map Prod.fst).Nodup
  awaited : ∀ {t outcome}, (t, outcome) ∈ coming h m →
    ∃ id parent next, m.Visits t id parent (.calling next) ∧ G id (next outcome)

section

variable {s : Setup σ} {start : Node} {G : NodeId → (World → Step Value) → Prop} {h h' : Hand} {m m' : Machine σ}
  {t : Nat} {id : NodeId} {parent : Option Nat}

theorem coming_of_event (hnone : h.event? = none) (m : Machine σ) :
    coming h m = m.sleepers.map fun x => (x.task, x.outcome) := by
  cases h with
  | holds e => cases hnone
  | _ => rfl

/-- A visit that has called waits until it is answered. -/
theorem Move.calling (hmove : Move s h m h' m') (hsound : Sound s start h m)
    {next : Except Problem Reply → World → Step Value} (hu : m.Visits t id parent (.calling next))
    (hne : ∀ outcome, h ≠ .holds (.answer t outcome)) : m'.Visits t id parent (.calling next) := by
  obtain ⟨_, hu', hre⟩ := hmove.restage hsound.shape hsound.tokens hu
  cases hre with
  | other | late => exact hu'
  | answer => exact absurd rfl (hne _)

namespace Calls

theorem not_tools (hcalls : Calls G h m) {p index : Nat} {task : ToolTask} {stage : Stage} :
    ¬m.Tools t p index task stage := fun htools => by
  obtain ⟨_, _, heq⟩ := hcalls.visits _ (List.mem_map_of_mem (List.mem_of_getElem? htools))
  cases heq

theorem takes {e : Event} (htakes : Takes m e m') (hcalls : Calls G .idle m) : Calls G (.holds e) m' := by
  have hcoming : (coming (.holds e) m').Perm (coming .idle m) := by
    cases htakes with
    | next _ hready =>
        cases e with
        | answer t outcome => exact absurd (hready ▸ List.mem_cons_self) (hcalls.quiet t outcome)
        | _ => exact .refl _
    | tick _ _ hearliest => exact ((earliest_perm hearliest).map fun x => (x.task, x.outcome)).symm
  have hvisits : ∀ {t id parent stage}, m'.Visits t id parent stage ↔ m.Visits t id parent stage := by
    intro t id parent stage
    unfold Visits
    rw [htakes.tasks]
  constructor
  case visits =>
    rw [htakes.jobs]
    exact hcalls.visits
  case ungathered => exact fun hu => hcalls.ungathered (hvisits.mp hu)
  case quiet =>
    cases htakes with
    | next _ hready => exact fun t outcome hmem => hcalls.quiet t outcome (hready ▸ List.mem_cons_of_mem _ hmem)
    | tick => exact hcalls.quiet
  case sole => exact ((hcoming.map _).nodup_iff).mpr hcalls.sole
  case awaited =>
    intro t outcome hmem
    obtain ⟨id, parent, next, hu, hG⟩ := hcalls.awaited (hcoming.mem_iff.mp hmem)
    exact ⟨id, parent, next, hvisits.mpr hu, hG⟩

/-- A call that is made adds an answer, one that is answered takes it away, and all
other answers are still awaited. -/
theorem move (hmove : Move s h m h' m') (hsound : Sound s start h m) (hcalls : Calls G h m)
    (hcall : ∀ {t w c next services served id parent}, h = .works t (.call w c next) →
      s.serve m.services w.clock c = (services, served) → m.Visits t id parent .over → G id (next served.outcome))
    (htools : ∀ {t w tasks next}, h ≠ .works t (.tools w tasks next)) : Calls G h' m' := by
  have hsleeping : m.sleepers.map (fun x => (x.task, x.outcome)) <:+ coming h m := List.suffix_append ..
  have hcoming : coming h' m' = m'.sleepers.map fun x => (x.task, x.outcome) := coming_of_event hmove.empty m'
  -- Who is still to be answered is not answered by the move.
  have hstill : ∀ {t outcome}, (t, outcome) ∈ m.sleepers.map (fun x => (x.task, x.outcome)) →
      ∃ id parent next, m'.Visits t id parent (.calling next) ∧ G id (next outcome) := by
    intro t outcome hmem
    obtain ⟨id, parent, next, hu, hG⟩ := hcalls.awaited (hsleeping.subset hmem)
    refine ⟨id, parent, next, hmove.calling hsound hu ?_, hG⟩
    rintro outcome' rfl
    have hsole : (t :: (m.sleepers.map fun x => (x.task, x.outcome)).map Prod.fst).Nodup := hcalls.sole
    exact (List.nodup_cons.mp hsole).1 (List.mem_map_of_mem hmem)
  -- Who has just called has not been waiting for an answer.
  have hnew : ∀ {x : Sleeper}, m'.sleepers = m.sleepers ++ [x] →
      (∃ w c next services served, h = .works x.task (.call w c next) ∧
        s.serve m.services w.clock c = (services, served) ∧ x.outcome = served.outcome) →
      x.task ∉ (coming h m).map Prod.fst ∧ ∃ id parent next, m'.Visits x.task id parent (.calling next) ∧
        G id (next x.outcome) := by
    rintro x hmore ⟨w, c, next, services, served, rfl, hserve, hx⟩
    obtain ⟨id, parent, hover⟩ := hsound.shape.hand x.task rfl
    refine ⟨fun hmem => ?_, id, parent, next, ?_, hx ▸ hcall rfl hserve hover⟩
    · obtain ⟨⟨_, outcome⟩, hmem, rfl⟩ := List.mem_map.mp hmem
      obtain ⟨_, _, _, hu, _⟩ := hcalls.awaited hmem
      cases (hu.unique hover).2.2
    · cases hmove with
      | call => exact hover.setStage _
      | reply => exact absurd (congrArg List.length hmore) (by simp)
  constructor
  case visits =>
    rcases hmove.jobs with hsame | ⟨_, _, _, _, _, _, _, _, _, _, hmore⟩ | ⟨_, _, _, _, hh, _⟩
    · exact hsame ▸ hcalls.visits
    · intro job hjob
      rw [hmore] at hjob
      rcases List.mem_append.mp hjob with hjob | hjob
      · exact hcalls.visits job hjob
      · obtain ⟨id, _, rfl⟩ := List.mem_map.mp hjob
        exact ⟨_, _, rfl⟩
    · exact absurd hh htools
  case ungathered =>
    intro t id parent slots next hu
    rcases Awaited.gathering_of_move hmove hsound.shape hsound.tokens hu with ⟨hold, _⟩ | ⟨_, _, _, hold, _⟩ | ⟨_, _, hh, _⟩
    · exact hcalls.ungathered hold
    · exact hcalls.ungathered hold
    · exact htools hh
  case quiet =>
    intro t outcome hmem
    obtain ⟨es, hready, hanswers, _⟩ := hmove.ready hsound.tokens
    rw [hready] at hmem
    exact (List.mem_append.mp hmem).elim (hcalls.quiet t outcome) (hanswers t outcome)
  case sole =>
    have hbefore := hcalls.sole.sublist (hsleeping.sublist.map Prod.fst)
    rw [hcoming]
    rcases hmove.sleepers_eq hsound.tokens with hsame | ⟨_, x, hmore, _, hcaller | ⟨_, _, _, _, htool⟩⟩
    · exact hsame ▸ hbefore
    · rw [hmore, List.map_append, List.map_append]
      refine List.nodup_append.mpr ⟨hbefore, List.nodup_singleton _, fun t ht u hu heq => ?_⟩
      rw [heq, List.mem_singleton.mp hu] at ht
      exact (hnew hmore hcaller).1 ((hsleeping.sublist.map Prod.fst).subset ht)
    · exact absurd htool hcalls.not_tools
  case awaited =>
    intro t outcome hmem
    rw [hcoming] at hmem
    rcases hmove.sleepers_eq hsound.tokens with hsame | ⟨_, x, hmore, _, hcaller | ⟨_, _, _, _, htool⟩⟩
    · exact hstill (hsame ▸ hmem)
    · rw [hmore, List.map_append] at hmem
      rcases List.mem_append.mp hmem with hmem | hmem
      · exact hstill hmem
      · cases List.mem_singleton.mp hmem
        exact (hnew hmore hcaller).2
    · exact absurd htool hcalls.not_tools

/-- Nobody has called as a run begins. -/
theorem single (w : World) (services : σ) (id : NodeId) (active : Int) :
    Calls G .idle (Machine.single w services (.visit id none) active) := by
  refine ⟨fun job hjob => ⟨id, none, List.mem_singleton.mp hjob⟩, fun {t _ _ _ _} hu => ?_, fun t outcome hmem => ?_,
    List.nodup_nil, nofun⟩
  · cases (visits_single hu).2.2.2
  · cases List.mem_singleton.mp hmem

end Calls
end
end Workflow.Run
