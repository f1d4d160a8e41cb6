import Workflow.Proofs.Moves

/-!
# Workflow.Proofs.Shape

The tasks of a run form a tree.

The first task visits the start node.  Every other visit was begun by an
earlier one, from whose node an edge leads to its own.  What a task is for
never changes, and tasks are only added (`Move.tasks`), so the tree only grows.
-/

namespace Workflow.Run

open Machine

variable {σ : Type}

theorem conclude_tasks (m : Machine σ) (failure : Option Failure) : (m.conclude failure).tasks = m.tasks := by
  cases failure <;> rfl

theorem addTasks_nil (m : Machine σ) : (m.addTasks []).tasks = m.tasks := List.append_nil _

/-! ## What a move is about -/

/-- The task that the thing in hand is about. -/
def Hand.about? : Hand → Option Nat
  | .idle => none
  | .holds (.start t) | .holds (.pass t) | .holds (.answer t _) | .holds (.ended t _) | .holds (.settled t _ _) => some t
  | .works t _ | .ends t _ => some t

section

variable {s : Setup σ} {h h' : Hand} {m m' : Machine σ}

/-- What the task that a move is about begins: the visits behind a node that is
done, the tool calls of a visit, or nothing. -/
inductive Spawns (s : Setup σ) (h : Hand) (m : Machine σ) (t : Nat) : List Job → Prop where
  | nothing : Spawns s h m t []
  | branches {id parent stage n w v} : h = .works t (.done w v) → m.Visits t id parent stage →
      s.plan.graph.node? id.key = some n →
      Spawns s h m t (branches t (s.plan.graph.targets n (w.look (selectedHandle v))))
  | toolCalls {w tasks next} : h = .works t (.tools w tasks next) → Spawns s h m t (toolCalls t tasks)

/-- A move leaves the tasks as they are, or it changes the stage of the one it is
about, which may begin others. -/
theorem Move.tasks (hmove : Move s h m h' m') :
    m'.tasks = m.tasks ∨
    ∃ t q js, h.about? = some t ∧ Spawns s h m t js ∧ m'.tasks = ((m.setStage t q).addTasks js).tasks := by
  have hset : ∀ {t q}, m'.tasks = (m.setStage t q).tasks → h.about? = some t →
      ∃ t q js, h.about? = some t ∧ Spawns s h m t js ∧ m'.tasks = ((m.setStage t q).addTasks js).tasks :=
    fun htasks ht => ⟨_, _, [], ht, .nothing, htasks.trans (addTasks_nil _).symm⟩
  cases hmove with
  | skip | refuse | absent | enter | pass | answer | resume | count | spoil | gather | fill => exact .inr (hset rfl rfl)
  | toolError | toolReply | toolAnswer => exact .inr (hset rfl rfl)
  | release => exact .inr (hset (setStage_tasks (wake_tasks ..) ..) rfl)
  | park => exact .inr (hset (setStage_tasks (turnAway_tasks ..) _ .parked) rfl)
  | turn => exact .inr (hset (setStage_tasks (turned_tasks ..) ..) rfl)
  | @call _ t w c next => exact .inr (hset (q := .calling next) rfl rfl)
  | spread hvisits hn => exact .inr ⟨_, .waiting _, _, rfl, .branches rfl hvisits hn, rfl⟩
  | @tools _ t w tasks next => exact .inr ⟨_, .gathering _ next, _, rfl, .toolCalls rfl, rfl⟩
  | drop | toolCall | stop | fail | reply | noTools => exact .inl rfl
  | tell => exact .inl (checkStalled_tasks ..)
  | conclude => exact .inl ((conclude_tasks ..).trans (checkStalled_tasks ..))

/-- A move begins the visits behind a node that is done, or the tool calls of
a visit, or nothing. -/
theorem Move.jobs (hmove : Move s h m h' m') :
    m'.jobs = m.jobs ∨
    (∃ t id parent stage n w v, h = .works t (.done w v) ∧ m.Visits t id parent stage ∧
      s.plan.graph.node? id.key = some n ∧
      m'.jobs = m.jobs ++ branches t (s.plan.graph.targets n (w.look (selectedHandle v)))) ∨
    ∃ t w tasks next, h = .works t (.tools w tasks next) ∧ m'.jobs = m.jobs ++ toolCalls t tasks := by
  rcases hmove.tasks with hsame | ⟨t, q, js, _, hspawns, htasks⟩
  · exact .inl (congrArg (List.map Task.job) hsame)
  have hjobs : m'.jobs = m.jobs ++ js :=
    (congrArg (List.map Task.job) htasks).trans ((jobs_addTasks ..).trans (congrArg (· ++ js) (jobs_setStage ..)))
  cases hspawns with
  | nothing => exact .inl (hjobs.trans (List.append_nil _))
  | branches hh hvisits hn => exact .inr (.inl ⟨t, _, _, _, _, _, _, hh, hvisits, hn, hjobs⟩)
  | toolCalls hh => exact .inr (.inr ⟨t, _, _, _, hh, hjobs⟩)

/-- A move leaves every task alone but the one it is about. -/
theorem Move.others (hmove : Move s h m h' m') {u : Nat} {task : Task} (htask : m.tasks[u]? = some task)
    (hu : h.about? ≠ some u) : m'.tasks[u]? = some task := by
  rcases hmove.tasks with hsame | ⟨t, q, js, ht, _, htasks⟩
  · rw [hsame, htask]
  have hne : u ≠ t := by
    rintro rfl
    exact hu ht
  have hlt : u < (m.setStage t q).tasks.length := by
    rw [length_setStage]
    exact (List.getElem?_eq_some_iff.mp htask).1
  rw [htasks, getElem?_addTasks, if_pos hlt, getElem?_setStage, if_neg hne, htask]

end

/-! ## The tree of visits -/

/-- The first task visits the start node, and every other visit goes along an
edge from the node of an earlier visit. -/
structure Tree (g : Graph) (start : Node) (jobs : List Job) : Prop where
  root : jobs[0]? = some (.visit start.id none)
  parentless : ∀ {t : Nat} {id : NodeId}, jobs[t]? = some (.visit id none) → t = 0
  known : ∀ {t : Nat} {id : NodeId} {parent : Option Nat}, jobs[t]? = some (.visit id parent) → ∃ n, g.node? id.key = some n
  child : ∀ {t p : Nat} {id : NodeId}, jobs[t]? = some (.visit id (some p)) → p < t ∧ ∃ pid pparent n,
    jobs[p]? = some (.visit pid pparent) ∧ g.node? pid.key = some n ∧ n.kind ≠ .finish ∧
      g.Links pid.key id.key

namespace Tree

variable {g : Graph} {start : Node} {jobs : List Job}

/-- The tree goes on growing where every new visit is rooted in it. -/
theorem append (h : Tree g start jobs) {js : List Job}
    (hjs : ∀ id parent, Job.visit id parent ∈ js → ∃ p pid pparent n, parent = some p ∧
      jobs[p]? = some (.visit pid pparent) ∧ g.node? pid.key = some n ∧ n.kind ≠ .finish ∧
      g.Links pid.key id.key) :
    Tree g start (jobs ++ js) := by
  have hold : ∀ {t : Nat} {job : Job}, jobs[t]? = some job → (jobs ++ js)[t]? = some job := fun ht => by
    rw [List.getElem?_append_left (List.getElem?_eq_some_iff.mp ht).1, ht]
  have hcases : ∀ {t : Nat} {id : NodeId} {parent : Option Nat},
      (jobs ++ js)[t]? = some (.visit id parent) →
      jobs[t]? = some (.visit id parent) ∨ jobs.length ≤ t ∧ Job.visit id parent ∈ js := by
    intro t id parent ht
    by_cases hlt : t < jobs.length
    · exact .inl (by rw [List.getElem?_append_left hlt] at ht; exact ht)
    · rw [List.getElem?_append_right (Nat.le_of_not_lt hlt)] at ht
      exact .inr ⟨Nat.le_of_not_lt hlt, List.mem_of_getElem? ht⟩
  constructor
  case root => exact hold h.root
  case parentless =>
    intro t id ht
    rcases hcases ht with ht | ⟨_, hmem⟩
    · exact h.parentless ht
    · obtain ⟨p, _, _, _, hp, _⟩ := hjs _ _ hmem
      cases hp
  case known =>
    intro t id parent ht
    rcases hcases ht with ht | ⟨_, hmem⟩
    · exact h.known ht
    · obtain ⟨_, _, _, _, _, _, _, _, hlinks⟩ := hjs _ _ hmem
      exact Graph.node?_of_mem_keys hlinks.mem_keys.2
  case child =>
    intro t p id ht
    rcases hcases ht with ht | ⟨hle, hmem⟩
    · obtain ⟨hlt, pid, pparent, n, hp, hrest⟩ := h.child ht
      exact ⟨hlt, pid, pparent, n, hold hp, hrest⟩
    · obtain ⟨p', pid, pparent, n, hp', hp, hrest⟩ := hjs _ _ hmem
      cases hp'
      have hlt : p < jobs.length := (List.getElem?_eq_some_iff.mp hp).1
      exact ⟨Nat.lt_of_lt_of_le hlt hle, pid, pparent, n, hold hp, hrest⟩

/-- Every move keeps the tree. -/
theorem move {s : Setup σ} {h h' : Hand} {m m' : Machine σ} (hmove : Move s h m h' m')
    (htree : Tree s.plan.graph start m.jobs) : Tree s.plan.graph start m'.jobs := by
  rcases hmove.jobs with hjobs | ⟨t, id, parent, stage, n, w, v, _, hvisits, hn, hjobs⟩ | ⟨t, w, tasks, next, _, hjobs⟩
  · rw [hjobs]
    exact htree
  · rw [hjobs]
    refine htree.append fun id' parent' hmem => ?_
    obtain ⟨i, hi, heq⟩ := List.mem_map.mp hmem
    cases heq
    have hkey : n.id.key = id.key := (Graph.node?_some hn).2
    exact ⟨t, id, parent, n, rfl, hvisits.job, hn, Graph.not_finish_of_mem_targets hi,
      hkey ▸ Graph.links_of_mem_targets hi⟩
  · rw [hjobs]
    refine htree.append fun id' parent' hmem => ?_
    obtain ⟨i, _, heq⟩ := List.mem_mapIdx.mp hmem
    cases heq

end Tree

/-! ## What is in hand -/

/-- The visit in hand. -/
def Hand.visit? : Hand → Option Nat
  | .works t _ => some t
  | .ends t _ => some t
  | _ => none

/-- The tasks form a tree, tool calls are plain, and what is in hand is a visit
that counts as over. -/
structure Shape (g : Graph) (start : Node) (h : Hand) (m : Machine σ) : Prop where
  tree : Tree g start m.jobs
  plain : m.Plain
  hand : ∀ t, h.visit? = some t → ∃ id parent, m.Visits t id parent .over

theorem Plain.setStage {m : Machine σ} (hplain : m.Plain) {t : Nat} {stage : Stage}
    (h : ∀ job st, m.tasks[t]? = some ⟨job, st⟩ → (⟨job, stage⟩ : Task).Plain) : (m.setStage t stage).Plain := by
  intro task hmem
  obtain ⟨u, hu⟩ := List.mem_iff_getElem?.mp hmem
  obtain ⟨job, st⟩ := task
  rcases task_setStage.mp hu with ⟨rfl, rfl, st₀, htask⟩ | ⟨_, htask⟩
  · exact h job st₀ htask
  · exact hplain _ (List.mem_of_getElem? htask)

theorem Plain.addTasks {m : Machine σ} (hplain : m.Plain) {js : List Job}
    (h : ∀ job ∈ js, (⟨job, .queued⟩ : Task).Plain) : (m.addTasks js).Plain := by
  intro task hmem
  rcases List.mem_append.mp hmem with hmem | hmem
  · exact hplain _ hmem
  · obtain ⟨job, hjob, rfl⟩ := List.mem_map.mp hmem
    exact h job hjob

theorem Visits.plain {m : Machine σ} (hplain : m.Plain) {t : Nat} {id : NodeId} {parent : Option Nat}
    {stage : Stage} (h : m.Visits t id parent stage) (stage' : Stage) : (m.setStage t stage').Plain := by
  refine Plain.setStage hplain fun job st htask => ?_
  cases h.symm.trans htask
  exact trivial

theorem Tools.plain {m : Machine σ} (hplain : m.Plain) {t p index : Nat} {task : ToolTask} {stage : Stage}
    (h : m.Tools t p index task stage) : (m.setStage t .over).Plain := by
  refine Plain.setStage hplain fun job st htask => ?_
  cases h.symm.trans htask
  exact trivial

theorem Plain.of_tasks {m m' : Machine σ} (hplain : m.Plain) (h : m'.tasks = m.tasks) : m'.Plain := by
  unfold Machine.Plain
  rw [h]
  exact hplain

theorem Shape.move {s : Setup σ} {start : Node} {h h' : Hand} {m m' : Machine σ} (hmove : Move s h m h' m')
    (hshape : Shape s.plan.graph start h m) : Shape s.plan.graph start h' m' := by
  have hplain := hshape.plain
  refine ⟨hshape.tree.move hmove, ?plain, ?hand⟩
  case plain =>
    cases hmove with
    | skip h | refuse h | absent h | answer h | count h | spoil h | gather h | fill h => exact Visits.plain hplain h _
    | enter h => exact Visits.plain (m := m.visit _) hplain h _
    | pass h => exact Visits.plain (m := (m.addActive 1).withRecords _) hplain h _
    | resume h => exact Visits.plain (m := m.addActive 1) hplain h _
    | release h => exact Plain.of_tasks (Visits.plain hplain h .over) (setStage_tasks (wake_tasks ..) ..)
    | park h => exact Plain.of_tasks (Visits.plain hplain h .parked) (setStage_tasks (turnAway_tasks ..) ..)
    | turn h => exact Plain.of_tasks (Visits.plain hplain h .over) (setStage_tasks (turned_tasks ..) ..)
    | toolError h => exact Tools.plain (m := { m with world := _ }) hplain h
    | toolReply h => exact Tools.plain (m := { m with world := _, services := _ }) hplain h
    | toolAnswer h => exact Tools.plain hplain h
    | tell => exact Plain.of_tasks hplain (checkStalled_tasks ..)
    | conclude => exact Plain.of_tasks hplain ((conclude_tasks ..).trans (checkStalled_tasks ..))
    | drop | stop | fail | reply | noTools | toolCall => exact hplain
    | spread h =>
        unfold fanOut
        refine Plain.addTasks (Visits.plain (m := { m with world := _ }) hplain h _) ?_
        intro job hjob
        obtain ⟨_, _, rfl⟩ := List.mem_map.mp hjob
        exact trivial
    | @call m t =>
        obtain ⟨id, parent, h⟩ := hshape.hand t rfl
        exact Visits.plain (m := { m with world := _, services := _ }.sleep _ _ _) hplain h _
    | @tools m t =>
        obtain ⟨id, parent, h⟩ := hshape.hand t rfl
        refine Plain.addTasks (Visits.plain (m := { m with world := _ }) hplain h _) ?_
        intro job hjob
        obtain ⟨_, _, rfl⟩ := List.mem_mapIdx.mp hjob
        exact trivial
  case hand =>
    intro u hu
    cases hmove with
    | skip h | refuse h | absent h | answer h | spoil h | gather h =>
        cases hu
        exact ⟨_, _, h.setStage _⟩
    | enter h => cases hu; exact ⟨_, _, Visits.setStage (m := m.visit _) h _⟩
    | pass h => cases hu; exact ⟨_, _, Visits.setStage (m := (m.addActive 1).withRecords _) h _⟩
    | resume h => cases hu; exact ⟨_, _, Visits.setStage (m := m.addActive 1) h _⟩
    | release h =>
        cases hu
        exact ⟨_, _, (Visits.setStage h _).of_tasks (setStage_tasks (wake_tasks ..) ..)⟩
    | turn h =>
        cases hu
        exact ⟨_, _, (Visits.setStage h _).of_tasks (setStage_tasks (turned_tasks ..) ..)⟩
    | stop | fail | reply | noTools => exact hshape.hand u hu
    | _ => cases hu

end Workflow.Run
