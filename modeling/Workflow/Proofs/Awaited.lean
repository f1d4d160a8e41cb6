import Workflow.Proofs.Debts

/-!
# Workflow.Proofs.Awaited

Whoever waits for an answer will get one.

A visit that has called a collaborator is named by a sleeper, or by an event
that answers it.  A visit that gathers tool calls lacks the result of one at
least, and for each that it lacks there is a tool call under way, or one whose
end is about to be told.  A tool call under way is about to begin, or has called.
-/

namespace Workflow.Run

open Machine

variable {σ : Type}

/-! ## Sleepers -/

theorem earliest_none {xs : List Sleeper} (h : earliest xs = none) : xs = [] := by
  cases xs with
  | nil => rfl
  | cons z zs =>
      unfold earliest at h
      split at h
      · cases h
      · split at h <;> cases h

/-- The call that is answered first is taken out, and the others stay. -/
theorem earliest_perm {x : Sleeper} {xs rest : List Sleeper} (h : earliest xs = some (x, rest)) :
    xs.Perm (x :: rest) := by
  induction xs generalizing x rest with
  | nil => cases h
  | cons z zs ih =>
      unfold earliest at h
      cases hzs : earliest zs with
      | none =>
          rw [hzs] at h
          cases h
          rw [earliest_none hzs]
      | some found =>
          rw [hzs] at h
          dsimp only at h
          split at h
          · cases h
            exact ((ih hzs).cons z).trans (.swap ..)
          · cases h
            exact .refl _

/-- No call is answered before it. -/
theorem earliest_le {x : Sleeper} {xs rest : List Sleeper} (h : earliest xs = some (x, rest)) :
    ∀ y ∈ xs, x.time ≤ y.time := by
  induction xs generalizing x rest with
  | nil => exact nofun
  | cons z zs ih =>
      intro y hy
      unfold earliest at h
      cases hzs : earliest zs with
      | none =>
          rw [hzs] at h
          cases h
          rw [earliest_none hzs] at hy
          rw [List.mem_singleton.mp hy]
      | some found =>
          have hfound := ih hzs
          rw [hzs] at h
          dsimp only at h
          split at h
          next hlt =>
            cases h
            rcases List.mem_cons.mp hy with rfl | hy
            · exact hlt.le
            · exact hfound y hy
          next hle =>
            cases h
            rcases List.mem_cons.mp hy with rfl | hy
            · exact le_rfl
            · exact (Nat.le_of_not_lt hle).trans (hfound y hy)

/-- An answer to the task is about to come. -/
def Answering (h : Hand) (m : Machine σ) (t : Nat) : Prop :=
  (∃ x ∈ m.sleepers, x.task = t) ∨ ∃ outcome, .answer t outcome ∈ pending h m

/-- Whoever waits for answers will get them. -/
structure Awaited (h : Hand) (m : Machine σ) : Prop where
  calling : ∀ {t id parent next}, m.Visits t id parent (.calling next) → Answering h m t
  tools : ∀ {t p index task}, m.Tools t p index task .queued → .start t ∈ pending h m ∨ Answering h m t
  lacking : ∀ {t id parent slots next}, m.Visits t id parent (.gathering slots next) → filled? slots = none
  gathering : ∀ {t id parent slots next} {i : Nat}, m.Visits t id parent (.gathering slots next) → slots[i]? = some none →
    (∃ u task, m.Tools u t i task .queued) ∨ ∃ outcome, .settled t i outcome ∈ pending h m

section

variable {s : Setup σ} {start : Node} {h h' : Hand} {m m' : Machine σ} {t : Nat} {id : NodeId} {parent : Option Nat}
  {e : Event}

theorem filled?_some {slots : List (Option Value)} (h : filled? slots = none) : ∃ i : Nat, slots[i]? = some none := by
  induction slots with
  | nil => cases h
  | cons slot slots ih =>
      cases slot with
      | none => exact ⟨0, rfl⟩
      | some v =>
          have hrest : filled? slots = none := by
            unfold filled? at h ⊢
            rw [List.mapM_cons] at h
            cases hslots : slots.mapM id with
            | none => rfl
            | some vs =>
                rw [hslots] at h
                cases h
          obtain ⟨i, hi⟩ := ih hrest
          exact ⟨i + 1, hi⟩

theorem mem_pending_takes (htakes : Takes m e m') {e' : Event} (he' : e' ∈ pending .idle m) :
    e' ∈ pending (.holds e) m' := by
  cases htakes with
  | @next _ _ _ hready =>
      have hmem : e' ∈ m.ready := he'
      rw [hready] at hmem
      exact hmem
  | tick => exact List.mem_cons_of_mem _ he'

theorem Answering.takes (htakes : Takes m e m') (hanswering : Answering .idle m t) : Answering (.holds e) m' t := by
  rcases hanswering with ⟨x, hx, ht⟩ | ⟨outcome, hmem⟩
  · cases htakes with
    | next => exact .inl ⟨x, hx, ht⟩
    | @tick y rest _ _ hearliest =>
        rcases List.mem_cons.mp ((earliest_perm hearliest).mem_iff.mp hx) with rfl | hx
        · exact .inr ⟨x.outcome, ht ▸ List.mem_cons_self⟩
        · exact .inl ⟨x, hx, ht⟩
  · exact .inr ⟨outcome, mem_pending_takes htakes hmem⟩

theorem Awaited.takes (htakes : Takes m e m') (hawaited : Awaited .idle m) : Awaited (.holds e) m' := by
  have htasks := htakes.tasks
  have hvisits : ∀ {t id parent stage}, m'.Visits t id parent stage → m.Visits t id parent stage := fun h =>
    h.of_tasks htasks.symm
  have htools : ∀ {t p index task stage}, m'.Tools t p index task stage ↔ m.Tools t p index task stage := by
    intro t p index task stage
    unfold Tools
    rw [htasks]
  refine ⟨fun hu => (hawaited.calling (hvisits hu)).takes htakes, fun hu => ?_, fun hu => hawaited.lacking (hvisits hu),
    fun hu hi => ?_⟩
  · exact (hawaited.tools (htools.mp hu)).imp (mem_pending_takes htakes) (·.takes htakes)
  · refine (hawaited.gathering (hvisits hu) hi).imp ?_ ?_
    · exact fun ⟨u, task, htool⟩ => ⟨u, task, htools.mpr htool⟩
    · exact fun ⟨outcome, hmem⟩ => ⟨outcome, mem_pending_takes htakes hmem⟩

theorem checkStalled_sleepers (plan : Plan) (hkeys : (m.joins.map (·.id.key)).Nodup) :
    (m.checkStalled plan).sleepers = m.sleepers :=
  checkStalled_same plan hkeys (·.sleepers) fun _ => rfl

theorem turnAway_sleepers (plan : Plan) (hkeys : (m.joins.map (·.id.key)).Nodup) (j : Join) :
    (m.turnAway plan j).sleepers = m.sleepers :=
  turnAway_same plan hkeys j (·.sleepers) fun _ => rfl

theorem conclude_sleepers (m : Machine σ) (failure : Option Failure) :
    (m.conclude failure).sleepers = m.sleepers := by
  cases failure <;> rfl

/-- A move lets no sleeper go, and only a call that is answered later adds one. -/
theorem Move.sleepers_eq (hmove : Move s h m h' m') (htokens : Tokens h m) :
    m'.sleepers = m.sleepers ∨ h' = .idle ∧ ∃ x, m'.sleepers = m.sleepers ++ [x] ∧ m'.world.clock ≤ x.time ∧
      ((∃ w c next services served, h = .works x.task (.call w c next) ∧
        s.serve m.services w.clock c = (services, served) ∧ x.outcome = served.outcome) ∨
      ∃ p index task stage, m.Tools x.task p index task stage) := by
  have hkeys := htokens.keys
  have hstalled := checkStalled_sleepers s.plan (m := m.addActive (-1)) hkeys
  cases hmove with
  | @release _ t id _ _ required gate =>
      have hwake : (m.wake { m.join id required with gate }).sleepers = m.sleepers := by rw [wake_eq]
      exact .inl hwake
  | @park _ t id _ _ required gate => exact .inl (turnAway_sleepers s.plan hkeys { m.join id required with gate })
  | @turn _ t id _ _ required gate => exact .inl (turnAway_sleepers s.plan hkeys { m.join id required with gate })
  | tell => exact .inl hstalled
  | conclude => exact .inl ((conclude_sleepers ..).trans hstalled)
  | toolCall htools => exact .inr ⟨rfl, _, rfl, Nat.le_add_right .., .inr ⟨_, _, _, _, htools⟩⟩
  | call hserve => exact .inr ⟨rfl, _, rfl, Nat.le_add_right .., .inl ⟨_, _, _, _, _, rfl, hserve, rfl⟩⟩
  | _ => exact .inl rfl

theorem Move.sleepers (hmove : Move s h m h' m') (htokens : Tokens h m) {x : Sleeper} (hx : x ∈ m.sleepers) :
    x ∈ m'.sleepers := by
  rcases hmove.sleepers_eq htokens with hsame | ⟨_, y, hmore, _⟩
  · exact hsame ▸ hx
  · exact hmore ▸ List.mem_append_left _ hx

theorem Move.pending (hmove : Move s h m h' m') (htokens : Tokens h m) {e' : Event} (he' : e' ∈ pending h m)
    (hne : h.event? ≠ some e') : e' ∈ Run.pending h' m' := by
  obtain ⟨es, hready, _⟩ := hmove.ready htokens
  have hmem : e' ∈ m.ready := by
    unfold Run.pending at he'
    rcases List.mem_append.mp he' with hmem | hmem
    · exact absurd (Option.mem_toList.mp hmem) hne
    · exact hmem
  unfold Run.pending
  rw [hready]
  exact List.mem_append_right _ (List.mem_append_left _ hmem)

theorem Answering.move (hmove : Move s h m h' m') (htokens : Tokens h m)
    (hne : ∀ outcome, h.event? ≠ some (.answer t outcome)) (hanswering : Answering h m t) : Answering h' m' t := by
  rcases hanswering with ⟨x, hx, ht⟩ | ⟨outcome, hmem⟩
  · exact .inl ⟨x, hmove.sleepers htokens hx, ht⟩
  · exact .inr ⟨outcome, hmove.pending htokens hmem (hne outcome)⟩

namespace Awaited

/-- A visit that waits for an answer waited for it before, or it has just called. -/
theorem calling_of_move (hmove : Move s h m h' m') (hshape : Shape s.plan.graph start h m) (htokens : Tokens h m)
    {next : Except Problem Reply → World → Step Value} (hu : m'.Visits t id parent (.calling next)) :
    (m.Visits t id parent (.calling next) ∧ ∀ outcome, h.event? ≠ some (.answer t outcome)) ∨
    ∃ w c services served, h = .works t (.call w c next) ∧ s.serve m.services w.clock c = (services, served) ∧
      m'.sleepers = m.sleepers ++ [⟨w.clock + served.delay, t, served.outcome⟩] := by
  rcases hmove.staged hshape htokens hu with ⟨_, hvisits, hre⟩ | ⟨hfalse, _⟩
  · cases hre with
    | other habout => exact .inl ⟨hvisits, fun _ he => habout (Hand.about_of_event he)⟩
    | late hdeaf =>
        refine .inl ⟨hvisits, fun _ he => ?_⟩
        cases he
        exact hdeaf trivial
    | call =>
        cases hmove with
        | call hserve => exact .inr ⟨_, _, _, _, rfl, hserve, rfl⟩
  · cases hfalse

theorem calling_move (hmove : Move s h m h' m') (hshape : Shape s.plan.graph start h m) (htokens : Tokens h m)
    (hawaited : Awaited h m) {next : Except Problem Reply → World → Step Value} (hu : m'.Visits t id parent (.calling next)) :
    Answering h' m' t := by
  rcases calling_of_move hmove hshape htokens hu with ⟨hold, hne⟩ | ⟨w, c, services, served, _, _, hmore⟩
  · exact (hawaited.calling hold).move hmove htokens hne
  · exact .inl ⟨_, hmore ▸ List.mem_append_right _ List.mem_cons_self, rfl⟩

/-- A tool call is left alone, or it is called, or it ends and its end is told. -/
theorem tool_of_move (hmove : Move s h m h' m') (hshape : Shape s.plan.graph start h m) {p index : Nat}
    {task : ToolTask} (hu : m.Tools t p index task stage) :
    (m'.Tools t p index task stage ∧ h.event? ≠ some (.start t) ∧ ∀ outcome, h.event? ≠ some (.answer t outcome)) ∨
    (m'.Tools t p index task stage ∧ ∃ x ∈ m'.sleepers, x.task = t) ∨
    m'.Tools t p index task .over ∧ ∃ outcome, .settled p index outcome ∈ m'.ready := by
  by_cases habout : h.about? = some t
  · have hhand : h.visit? ≠ some t := fun hh =>
      let ⟨_, _, hover⟩ := hshape.hand t hh
      hover.not_tools hu
    have hsettle : ∀ {m₁ : Machine σ} {outcome}, m₁.tasks = m.tasks →
        (m₁.settle t p index outcome).Tools t p index task .over ∧
          ∃ outcome', .settled p index outcome' ∈ (m₁.settle t p index outcome).ready := fun htasks =>
      ⟨tools_setStage.mpr (.inl ⟨rfl, rfl, stage, by unfold Tools; rw [htasks]; exact hu⟩),
        _, List.mem_append_right _ List.mem_cons_self⟩
    cases hmove with
    | toolError htools | toolReply htools | toolAnswer htools =>
        cases habout
        cases hu.symm.trans htools
        exact .inr (.inr (hsettle rfl))
    | toolCall =>
        cases habout
        exact .inr (.inl ⟨hu, _, List.mem_append_right _ List.mem_cons_self, rfl⟩)
    | drop hstale =>
        refine .inl ⟨hu, fun he => ?_, fun _ he => ?_⟩
        · cases he
          cases hu.symm.trans hstale
        · cases he
          exact hstale.1 _ _ _ _ hu
    | skip hvisits | refuse hvisits | absent hvisits | enter hvisits | release hvisits | park hvisits | turn hvisits
    | pass hvisits | answer hvisits | resume hvisits | count hvisits | spoil hvisits | gather hvisits | fill hvisits =>
        cases habout
        exact absurd hu hvisits.not_tools
    | spread | stop | fail | reply | call | noTools | tools | tell | conclude => exact absurd habout hhand
  · exact .inl ⟨hmove.others hu habout, fun he => habout (Hand.about_of_event he),
      fun _ he => habout (Hand.about_of_event he)⟩

/-- A tool call that is to begin was to begin before, or it has just been put in the queue. -/
theorem tools_move (hmove : Move s h m h' m') (hshape : Shape s.plan.graph start h m) (htokens : Tokens h m)
    (hawaited : Awaited h m) {p index : Nat} {task : ToolTask} (hu : m'.Tools t p index task .queued) :
    .start t ∈ pending h' m' ∨ Answering h' m' t := by
  have hold : m.jobs[t]? = some (.tool p index task) → .start t ∈ pending h' m' ∨ Answering h' m' t := by
    intro hjob
    obtain ⟨stage, htools⟩ := jobs_getElem?.mp hjob
    rcases tool_of_move hmove hshape htools with ⟨hu', hstart, hanswer⟩ | ⟨_, x, hx, ht⟩ | ⟨hover, _⟩
    · cases hu.symm.trans hu'
      exact (hawaited.tools htools).imp (fun hmem => hmove.pending htokens hmem hstart) (·.move hmove htokens hanswer)
    · exact .inr (.inl ⟨x, hx, ht⟩)
    · cases hu.symm.trans hover
  have hjob : m'.jobs[t]? = some (.tool p index task) := jobs_getElem?.mpr ⟨_, hu⟩
  rcases hmove.jobs with hjobs | ⟨u, _, _, _, _, _, _, _, _, _, hjobs⟩ | ⟨u, w, tasks, next, rfl, hjobs⟩
  · exact hold (hjobs ▸ hjob)
  · rw [hjobs] at hjob
    by_cases hlt : t < m.jobs.length
    · exact hold (by rwa [List.getElem?_append_left hlt] at hjob)
    · rw [List.getElem?_append_right (Nat.le_of_not_lt hlt)] at hjob
      obtain ⟨_, _, heq⟩ := List.mem_map.mp (List.mem_of_getElem? hjob)
      cases heq
  · cases hmove with
    | noTools => exact hold hjob
    | tools =>
        unfold beginTools at hu
        rcases tools_addTasks.mp hu with hu | ⟨_, i, hi, rfl⟩
        · rcases tools_setStage.mp hu with ⟨_, hfalse, _⟩ | ⟨_, hu⟩
          · cases hfalse
          · exact hold (jobs_getElem?.mpr ⟨_, hu⟩)
        · refine .inl (List.mem_append_right _ (List.mem_append_right _ (List.mem_map.mpr ⟨i, ?_, rfl⟩)))
          exact List.mem_range.mpr (List.getElem?_eq_some_iff.mp hi).1

/-- A gathering visit was one before, and its slots have not changed, unless a
result has come in or it begins to gather. -/
theorem gathering_of_move (hmove : Move s h m h' m') (hshape : Shape s.plan.graph start h m) (htokens : Tokens h m)
    {slots : List (Option Value)} {next : Except Problem (List Value) → World → Step Value}
    (hu : m'.Visits t id parent (.gathering slots next)) :
    (m.Visits t id parent (.gathering slots next) ∧ ∀ index outcome, h.event? ≠ some (.settled t index outcome)) ∨
    (∃ slots₀ index v, m.Visits t id parent (.gathering slots₀ next) ∧ slots = slots₀.set index (some v) ∧
      h = .holds (.settled t index (.ok v)) ∧ filled? slots = none) ∨
    ∃ w tasks, h = .works t (.tools w tasks next) ∧ tasks ≠ [] ∧ slots = tasks.map (fun _ => none) ∧
      m' = { m with world := w }.beginTools t tasks next := by
  rcases hmove.staged hshape htokens hu with ⟨_, hvisits, hre⟩ | ⟨hfalse, _⟩
  · cases hre with
    | other habout => exact .inl ⟨hvisits, fun _ _ he => habout (Hand.about_of_event he)⟩
    | late hdeaf =>
        refine .inl ⟨hvisits, fun _ _ he => ?_⟩
        cases he
        exact hdeaf trivial
    | fill hlacking => exact .inr (.inl ⟨_, _, _, hvisits, rfl, rfl, hlacking⟩)
    | tools htasks =>
        cases hmove with
        | tools => exact .inr (.inr ⟨_, _, rfl, htasks, rfl, rfl⟩)
  · cases hfalse

/-- A tool call under way goes on, or its end is told. -/
theorem tool_kept (hmove : Move s h m h' m') (hshape : Shape s.plan.graph start h m) {u p index : Nat}
    {task : ToolTask} (hu : m.Tools u p index task .queued) :
    m'.Tools u p index task .queued ∨ ∃ outcome, .settled p index outcome ∈ pending h' m' := by
  rcases tool_of_move hmove hshape hu with ⟨hu', _⟩ | ⟨hu', _⟩ | ⟨_, outcome, hmem⟩
  · exact .inl hu'
  · exact .inl hu'
  · exact .inr ⟨outcome, List.mem_append_right _ hmem⟩

/-- Every move keeps to it. -/
theorem move (hmove : Move s h m h' m') (hshape : Shape s.plan.graph start h m) (htokens : Tokens h m)
    (hawaited : Awaited h m) : Awaited h' m' := by
  refine ⟨fun hu => hawaited.calling_move hmove hshape htokens hu, fun hu => hawaited.tools_move hmove hshape htokens hu,
    fun {t id parent slots next} hu => ?_, fun {t id parent slots next i} hu hi => ?_⟩
  · rcases gathering_of_move hmove hshape htokens hu with ⟨hold, _⟩ | ⟨_, _, _, _, _, _, hlacking⟩ | ⟨w, tasks, _, htasks, rfl, _⟩
    · exact hawaited.lacking hold
    · exact hlacking
    · cases tasks with
      | nil => exact absurd rfl htasks
      | cons task tasks => rfl
  · have hkept : ∀ {slots₀}, m.Visits t id parent (.gathering slots₀ next) → slots₀[i]? = some none →
        (∀ outcome, h.event? ≠ some (.settled t i outcome)) →
        (∃ u task, m'.Tools u t i task .queued) ∨ ∃ outcome, .settled t i outcome ∈ pending h' m' := by
      intro slots₀ hold hi hne
      rcases hawaited.gathering hold hi with ⟨u, task, htool⟩ | ⟨outcome, hmem⟩
      · exact (tool_kept hmove hshape htool).imp_left fun hu => ⟨u, task, hu⟩
      · exact .inr ⟨outcome, hmove.pending htokens hmem (hne outcome)⟩
    rcases gathering_of_move hmove hshape htokens hu with ⟨hold, hne⟩ | ⟨slots₀, index, v, hold, rfl, rfl, _⟩ |
      ⟨w, tasks, rfl, _, rfl, rfl⟩
    · exact hkept hold hi (hne i)
    · have hindex : index ≠ i := by
        rintro rfl
        rw [List.getElem?_set] at hi
        split at hi
        · split at hi <;> cases hi
        · exact absurd rfl ‹_›
      rw [List.getElem?_set_ne hindex] at hi
      exact hkept hold hi fun outcome he => hindex (by cases he; rfl)
    · refine .inl ?_
      have hlt : i < tasks.length := by
        have hlt := (List.getElem?_eq_some_iff.mp hi).1
        rwa [List.length_map] at hlt
      refine ⟨_, tasks[i], tools_addTasks.mpr (.inr ⟨rfl, i, ?_, rfl⟩)⟩
      rw [toolCalls, List.getElem?_mapIdx, List.getElem?_eq_getElem hlt]
      rfl

/-- Nobody waits for answers as a run begins. -/
theorem single (w : World) (services : σ) (id : NodeId) (active : Int) :
    Awaited .idle (Machine.single w services (.visit id none) active) := by
  refine ⟨fun hu => ?_, fun hu => ?_, fun hu => ?_, fun hu => ?_⟩
  · cases (task_single hu).2
  · cases (task_single hu).2
  · cases (task_single hu).2
  · cases (task_single hu).2

end Awaited
end
end Workflow.Run
