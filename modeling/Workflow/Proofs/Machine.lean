import Workflow.Run.Runner
import Mathlib.Data.List.Nodup

/-!
# Workflow.Proofs.Machine

The small changes of a machine, in a form that shows at once what they leave
alone.

1. The joins of a machine are a table from keys to joins (`gateAt`), and
   `putJoin` changes one place of it.
2. `wake_eq` and `checkStalled_eq` write the changes at gates as one update.
   The latter is where the scheduler's loop over all joins is worked out: every
   closed gate is abandoned, and its visits go to the end of the queue.
3. `setStage` and `addTasks` change what can be said of tasks in one way each
   (`visits_setStage`, `visits_addTasks`, and the like).
-/

namespace Workflow.Run
namespace Machine

variable {σ : Type} {m : Machine σ} {t u : Nat} {id : NodeId} {parent : Option Nat} {stage : Stage}

/-! ## Tasks -/

/-- The task visits a node. -/
def Visits (m : Machine σ) (t : Nat) (id : NodeId) (parent : Option Nat) (stage : Stage) : Prop :=
  m.tasks[t]? = some ⟨.visit id parent, stage⟩

/-- The task is a tool call. -/
def Tools (m : Machine σ) (t parent index : Nat) (task : ToolTask) (stage : Stage) : Prop :=
  m.tasks[t]? = some ⟨.tool parent index task, stage⟩

theorem Visits.lt (h : m.Visits t id parent stage) : t < m.tasks.length :=
  (List.getElem?_eq_some_iff.mp h).1

theorem Visits.of_tasks (h : m.Visits t id parent stage) {m' : Machine σ} (htasks : m'.tasks = m.tasks) :
    m'.Visits t id parent stage := by
  unfold Visits
  rw [htasks]
  exact h

/-- A task is about one node only, and at one stage. -/
theorem Visits.unique (h : m.Visits t id parent stage) {id' : NodeId} {parent' : Option Nat} {stage' : Stage}
    (h' : m.Visits t id' parent' stage') : id = id' ∧ parent = parent' ∧ stage = stage' := by
  have heq := Option.some.inj (h.symm.trans h')
  cases heq
  exact ⟨rfl, rfl, rfl⟩

theorem Visits.not_tools (h : m.Visits t id parent stage) {p index : Nat} {task : ToolTask} {stage' : Stage} :
    ¬m.Tools t p index task stage' := fun h' => by
  cases h.symm.trans h'

theorem setStage_setStage (m : Machine σ) (t : Nat) (stage stage' : Stage) :
    (m.setStage t stage).setStage t stage' = m.setStage t stage' := by
  simp only [setStage, List.modify_modify_eq]
  rfl

theorem setStage_tasks {m' : Machine σ} (h : m'.tasks = m.tasks) (t : Nat) (stage : Stage) :
    (m'.setStage t stage).tasks = (m.setStage t stage).tasks := by
  unfold setStage
  dsimp only
  rw [h]

theorem getElem?_setStage (m : Machine σ) (t : Nat) (stage : Stage) (u : Nat) :
    (m.setStage t stage).tasks[u]? =
      if u = t then (m.tasks[u]?).map (fun task => { task with stage }) else m.tasks[u]? := by
  simp only [setStage, List.getElem?_modify]
  by_cases h : t = u
  · simp [h]
  · simp [h, Ne.symm h]

theorem task_setStage {st : Stage} {job : Job} :
    (m.setStage t st).tasks[u]? = some ⟨job, stage⟩ ↔
      u = t ∧ stage = st ∧ (∃ st₀, m.tasks[t]? = some ⟨job, st₀⟩) ∨ u ≠ t ∧ m.tasks[u]? = some ⟨job, stage⟩ := by
  rw [getElem?_setStage]
  by_cases h : u = t
  · subst h
    simp only [if_true, Option.map_eq_some_iff, true_and, ne_eq, not_true, false_and, or_false]
    constructor
    · rintro ⟨⟨job, st₀⟩, hjob, heq⟩
      cases heq
      exact ⟨rfl, st₀, hjob⟩
    · rintro ⟨rfl, st₀, hjob⟩
      exact ⟨_, hjob, rfl⟩
  · simp [h]

theorem visits_setStage {st : Stage} :
    (m.setStage t st).Visits u id parent stage ↔
      u = t ∧ stage = st ∧ (∃ st₀, m.Visits t id parent st₀) ∨ u ≠ t ∧ m.Visits u id parent stage :=
  task_setStage

theorem tools_setStage {st : Stage} {p index : Nat} {task : ToolTask} :
    (m.setStage t st).Tools u p index task stage ↔
      u = t ∧ stage = st ∧ (∃ st₀, m.Tools t p index task st₀) ∨ u ≠ t ∧ m.Tools u p index task stage :=
  task_setStage

theorem Visits.setStage (h : m.Visits t id parent stage) (st : Stage) :
    (m.setStage t st).Visits t id parent st :=
  visits_setStage.mpr (.inl ⟨rfl, rfl, stage, h⟩)

theorem length_setStage (m : Machine σ) (t : Nat) (stage : Stage) :
    (m.setStage t stage).tasks.length = m.tasks.length := List.length_modify ..

theorem getElem?_addTasks (m : Machine σ) (jobs : List Job) (u : Nat) :
    (m.addTasks jobs).tasks[u]? =
      if u < m.tasks.length then m.tasks[u]?
      else (jobs[u - m.tasks.length]?).map fun job => ⟨job, .queued⟩ := by
  simp only [addTasks, List.getElem?_append, List.getElem?_map]

theorem task_addTasks {jobs : List Job} {job : Job} :
    (m.addTasks jobs).tasks[u]? = some ⟨job, stage⟩ ↔ m.tasks[u]? = some ⟨job, stage⟩ ∨
      stage = .queued ∧ ∃ i, jobs[i]? = some job ∧ u = m.tasks.length + i := by
  rw [getElem?_addTasks]
  by_cases h : u < m.tasks.length
  · rw [if_pos h]
    constructor
    · exact .inl
    · rintro (htask | ⟨_, i, _, rfl⟩)
      · exact htask
      · omega
  · rw [if_neg h, List.getElem?_eq_none (Nat.le_of_not_lt h)]
    simp only [Option.map_eq_some_iff, reduceCtorEq, false_or]
    constructor
    · rintro ⟨job', hjob, heq⟩
      cases heq
      exact ⟨rfl, _, hjob, by omega⟩
    · rintro ⟨rfl, i, hi, rfl⟩
      exact ⟨_, by rw [Nat.add_sub_cancel_left]; exact hi, rfl⟩

theorem visits_addTasks {jobs : List Job} :
    (m.addTasks jobs).Visits u id parent stage ↔ m.Visits u id parent stage ∨
      stage = .queued ∧ ∃ i, jobs[i]? = some (.visit id parent) ∧ u = m.tasks.length + i :=
  task_addTasks

theorem tools_addTasks {jobs : List Job} {p index : Nat} {task : ToolTask} :
    (m.addTasks jobs).Tools u p index task stage ↔ m.Tools u p index task stage ∨
      stage = .queued ∧ ∃ i, jobs[i]? = some (.tool p index task) ∧ u = m.tasks.length + i :=
  task_addTasks

/-- What the tasks are for, whatever their stages. -/
def jobs (m : Machine σ) : List Job := m.tasks.map (·.job)

theorem jobs_getElem? {job : Job} : m.jobs[t]? = some job ↔ ∃ stage, m.tasks[t]? = some ⟨job, stage⟩ := by
  unfold jobs
  rw [List.getElem?_map, Option.map_eq_some_iff]
  constructor
  · rintro ⟨⟨job', stage⟩, htask, rfl⟩
    exact ⟨stage, htask⟩
  · rintro ⟨stage, htask⟩
    exact ⟨_, htask, rfl⟩

theorem Visits.job (h : m.Visits t id parent stage) : m.jobs[t]? = some (.visit id parent) :=
  jobs_getElem?.mpr ⟨stage, h⟩

section

variable {w : World} {services : σ} {job : Job} {active : Int}

/-- In the beginning there is one task, and it is in the queue. -/
theorem task_single {task : Task} (h : (single w services job active).tasks[t]? = some task) :
    t = 0 ∧ task = ⟨job, .queued⟩ := by
  obtain rfl : t = 0 := Nat.lt_one_iff.mp (List.getElem?_eq_some_iff.mp h).1
  exact ⟨rfl, (Option.some.inj h).symm⟩

theorem visits_single {first : NodeId} (h : (single w services (.visit first none) active).Visits t id parent stage) :
    t = 0 ∧ id = first ∧ parent = none ∧ stage = .queued := by
  obtain ⟨rfl, heq⟩ := task_single h
  cases heq
  exact ⟨rfl, rfl, rfl, rfl⟩

theorem job_single {job' : Job} (h : (single w services job active).jobs[t]? = some job') : t = 0 ∧ job' = job := by
  obtain ⟨stage, htask⟩ := jobs_getElem?.mp h
  obtain ⟨rfl, heq⟩ := task_single htask
  cases heq
  exact ⟨rfl, rfl⟩

end

theorem jobs_length (m : Machine σ) : m.jobs.length = m.tasks.length := List.length_map _

theorem jobs_setStage (m : Machine σ) (t : Nat) (stage : Stage) : (m.setStage t stage).jobs = m.jobs := by
  refine List.ext_getElem? fun u => ?_
  unfold jobs
  rw [List.getElem?_map, List.getElem?_map, getElem?_setStage]
  split
  · rw [Option.map_map]
    rfl
  · rfl

theorem jobs_addTasks (m : Machine σ) (js : List Job) : (m.addTasks js).jobs = m.jobs ++ js := by
  unfold jobs addTasks
  rw [List.map_append, List.map_map]
  congr 1
  exact List.map_id js

/-- The visits that a visit begins. -/
def branches (t : Nat) (ids : List NodeId) : List Job := ids.map fun id => .visit id (some t)

/-- The tool calls that a visit begins. -/
def toolCalls (t : Nat) (tasks : List ToolTask) : List Job := tasks.mapIdx fun i task => .tool t i task

/-- The machine after a visit has begun tool calls. -/
def beginTools (m : Machine σ) (t : Nat) (tasks : List ToolTask)
    (next : Except Problem (List Value) → World → Step Value) : Machine σ :=
  (m.setStage t (.gathering (tasks.map fun _ => none) next)).addTasks (toolCalls t tasks)

theorem jobs_fanOut (m : Machine σ) (t : Nat) (ids : List NodeId) :
    (m.fanOut t ids).jobs = m.jobs ++ branches t ids := by
  unfold fanOut
  rw [jobs_addTasks]
  exact congrArg (· ++ _) (jobs_setStage ..)

theorem visits_fanOut {ids : List NodeId} :
    (m.fanOut t ids).Visits u id parent stage ↔
      u = t ∧ stage = .waiting ids.length ∧ (∃ st₀, m.Visits t id parent st₀) ∨ u ≠ t ∧ m.Visits u id parent stage ∨
        stage = .queued ∧ parent = some t ∧ ∃ i, ids[i]? = some id ∧ u = m.tasks.length + i := by
  unfold fanOut
  rw [visits_addTasks]
  constructor
  · rintro (hold | ⟨rfl, i, hi, rfl⟩)
    · exact (visits_setStage.mp hold).imp_right .inl
    · obtain ⟨id', hid', heq⟩ := Option.map_eq_some_iff.mp ((List.getElem?_map ..).symm.trans hi)
      cases heq
      exact .inr (.inr ⟨rfl, rfl, i, hid', congrArg (· + i) (length_setStage ..)⟩)
  · rintro (hat | hother | ⟨rfl, rfl, i, hi, rfl⟩)
    · exact .inl (visits_setStage.mpr (.inl hat))
    · exact .inl (visits_setStage.mpr (.inr hother))
    · refine .inr ⟨rfl, i, ?_, congrArg (· + i) (length_setStage ..).symm⟩
      rw [List.getElem?_map, hi]
      rfl

theorem visits_beginTools {tasks : List ToolTask} {next : Except Problem (List Value) → World → Step Value} :
    (m.beginTools t tasks next).Visits u id parent stage ↔
      u = t ∧ stage = .gathering (tasks.map fun _ => none) next ∧ (∃ st₀, m.Visits t id parent st₀) ∨
        u ≠ t ∧ m.Visits u id parent stage := by
  unfold beginTools
  rw [visits_addTasks, visits_setStage]
  constructor
  · rintro (hold | ⟨_, i, hi, _⟩)
    · exact hold
    · rw [toolCalls, List.getElem?_mapIdx] at hi
      obtain ⟨task, _, heq⟩ := Option.map_eq_some_iff.mp hi
      cases heq
  · exact .inl

/-- Counting after one place of a list has changed. -/
theorem countP_modify {α : Type} {p : α → Bool} {f : α → α} {a : α} : ∀ {l : List α} {i : Nat}, l[i]? = some a →
    (l.modify i f).countP p + (p a).toNat = l.countP p + (p (f a)).toNat
  | [], _, h => by simp at h
  | b :: l, 0, h => by
      obtain rfl : a = b := by simpa using h.symm
      simp only [List.modify_zero_cons, List.countP_cons]
      cases p a <;> cases p (f a) <;> simp
  | b :: l, i + 1, h => by
      have ih := countP_modify (p := p) (f := f) (l := l) (i := i) (by simpa using h)
      simp only [List.modify_succ_cons, List.countP_cons]
      omega

theorem countP_setStage {p : Task → Bool} {job : Job} {st₀ : Stage} (h : m.tasks[t]? = some ⟨job, st₀⟩)
    (st : Stage) :
    (m.setStage t st).tasks.countP p + (p ⟨job, st₀⟩).toNat = m.tasks.countP p + (p ⟨job, st⟩).toNat :=
  countP_modify h

/-! ## Joins as a table -/

/-- The join at the node of a key. -/
def gateAt (js : List Join) (k : Key) : Option Join := js.find? fun j => j.id.key == k

/-- The joins with one of them put in its place. -/
def putJoin (js : List Join) (j : Join) : List Join :=
  if js.any fun i => i.id.key == j.id.key then js.map fun i => if i.id.key == j.id.key then j else i
  else js ++ [j]

theorem setJoin_eq (m : Machine σ) (j : Join) : m.setJoin j = { m with joins := putJoin m.joins j } := by
  unfold setJoin putJoin
  split <;> rfl

theorem gateAt_some {js : List Join} {k : Key} {j : Join} (h : gateAt js k = some j) :
    j ∈ js ∧ j.id.key = k := by
  have hkey := List.find?_some h
  exact ⟨List.mem_of_find?_eq_some h, by simpa using hkey⟩

theorem gateAt_none {js : List Join} {k : Key} : gateAt js k = none ↔ k ∉ js.map (·.id.key) := by
  simp [gateAt, List.find?_eq_none]

theorem gateAt_mem {js : List Join} (hnodup : (js.map (·.id.key)).Nodup) {j : Join} (h : j ∈ js) :
    gateAt js j.id.key = some j := by
  cases hfind : gateAt js j.id.key with
  | none => exact absurd (List.mem_map_of_mem h) (gateAt_none.mp hfind)
  | some i =>
      obtain ⟨hmem, hkey⟩ := gateAt_some hfind
      rw [List.inj_on_of_nodup_map hnodup hmem h hkey]

theorem gateAt_map {f : Join → Join} (hf : ∀ j, (f j).id = j.id) (js : List Join) (k : Key) :
    gateAt (js.map f) k = (gateAt js k).map f := by
  unfold gateAt
  rw [List.find?_map]
  simp only [Function.comp_def, hf]

theorem keys_putJoin (js : List Join) (j : Join) :
    (putJoin js j).map (·.id.key) =
      if j.id.key ∈ js.map (·.id.key) then js.map (·.id.key) else js.map (·.id.key) ++ [j.id.key] := by
  have hany : (js.any fun i => i.id.key == j.id.key) = true ↔ j.id.key ∈ js.map (·.id.key) := by
    simp [List.any_eq_true]
  unfold putJoin
  by_cases h : j.id.key ∈ js.map (·.id.key)
  · rw [if_pos (hany.mpr h), if_pos h, List.map_map]
    refine List.map_congr_left fun i _ => ?_
    by_cases hi : i.id.key = j.id.key
    · simp [hi]
    · simp [hi]
  · rw [if_neg (fun hany' => h (hany.mp hany')), if_neg h]
    simp

theorem keys_putJoin_nodup {js : List Join} (h : (js.map (·.id.key)).Nodup) (j : Join) :
    ((putJoin js j).map (·.id.key)).Nodup := by
  rw [keys_putJoin]
  split
  · exact h
  next hnew => exact List.nodup_append.mpr ⟨h, List.nodup_singleton _, by
      intro k hk k' hk'
      rw [List.mem_singleton.mp hk']
      exact fun heq => hnew (heq ▸ hk)⟩

theorem gateAt_replace (js : List Join) (j : Join) (k : Key) :
    gateAt (js.map fun i => if i.id.key == j.id.key then j else i) k =
      if k = j.id.key ∧ k ∈ js.map (·.id.key) then some j else gateAt js k := by
  induction js with
  | nil => simp [gateAt]
  | cons i js ih =>
      unfold gateAt at ih ⊢
      rw [List.map_cons, List.find?_cons, List.find?_cons, ih]
      by_cases hi : i.id.key = j.id.key
      · by_cases hk : k = j.id.key
        · simp [hi, hk]
        · simp [hi, hk, beq_false_of_ne (Ne.symm hk)]
      · by_cases hik : i.id.key = k
        · simp [hi, ← hik]
        · simp [hi, Ne.symm hik, beq_false_of_ne hik]

theorem gateAt_putJoin (js : List Join) (j : Join) (k : Key) :
    gateAt (putJoin js j) k = if k = j.id.key then some j else gateAt js k := by
  unfold putJoin
  by_cases hany : (js.any fun i => i.id.key == j.id.key) = true
  · have hmem : j.id.key ∈ js.map (·.id.key) := by simpa [List.any_eq_true] using hany
    rw [if_pos hany, gateAt_replace]
    by_cases hk : k = j.id.key
    · rw [if_pos ⟨hk, hk ▸ hmem⟩, if_pos hk]
    · rw [if_neg (fun h => hk h.1), if_neg hk]
  · have hnew : gateAt js j.id.key = none := gateAt_none.mpr (by simpa [List.any_eq_true] using hany)
    rw [if_neg hany, gateAt, List.find?_append]
    by_cases hk : k = j.id.key
    · rw [if_pos hk, hk, show js.find? (fun i => i.id.key == j.id.key) = none from hnew]
      simp
    · rw [if_neg hk]
      simp [Ne.symm hk, gateAt]

theorem mem_putJoin {js : List Join} {j i : Join} (h : i ∈ putJoin js j) : i = j ∨ i ∈ js ∧ i.id.key ≠ j.id.key := by
  unfold putJoin at h
  split at h
  · obtain ⟨i', hi', heq⟩ := List.mem_map.mp h
    by_cases hkey : i'.id.key = j.id.key
    · exact .inl (by simpa [hkey] using heq.symm)
    · rw [if_neg (by simpa using hkey)] at heq
      exact .inr ⟨heq ▸ hi', heq ▸ hkey⟩
  next hany =>
    rcases List.mem_append.mp h with h | h
    · refine .inr ⟨h, fun hkey => hany ?_⟩
      exact List.any_eq_true.mpr ⟨i, h, by simp [hkey]⟩
    · exact .inl (List.mem_singleton.mp h)

/-- What holds of all joins holds of them after one has been put that it holds of. -/
theorem forall_putJoin {P : Join → Prop} {js : List Join} {j : Join} (hnew : P j) (hall : ∀ i ∈ js, P i) :
    ∀ i ∈ putJoin js j, P i := by
  intro i hi
  rcases mem_putJoin hi with rfl | ⟨hi, _⟩
  · exact hnew
  · exact hall i hi

theorem join_eq (m : Machine σ) (id : NodeId) (required : Nat) :
    m.join id required = (gateAt m.joins id.key).getD ⟨id, Gate.closed required, []⟩ := rfl

theorem join_key (m : Machine σ) (id : NodeId) (required : Nat) : (m.join id required).id.key = id.key := by
  rw [join_eq]
  cases h : gateAt m.joins id.key with
  | none => rfl
  | some j => exact (gateAt_some h).2

/-! ## Gates that open -/

/-- A join whose gate is open, without the visits that were parked there. -/
def opened (j : Join) : Join := if j.gate.released then { j with parked := [] } else j

theorem opened_id (j : Join) : (opened j).id = j.id := by
  unfold opened
  split <;> rfl

theorem opened_gate (j : Join) : (opened j).gate = j.gate := by
  unfold opened
  split <;> rfl

/-- The visits that an open gate lets go. -/
def freed (j : Join) : List Event := if j.gate.released then j.parked.map .pass else []

theorem wake_eq (m : Machine σ) (j : Join) :
    m.wake j = { m with joins := putJoin m.joins (opened j), ready := m.ready ++ freed j } := by
  unfold wake opened freed
  split
  · rw [setJoin_eq]
    rfl
  · rw [setJoin_eq, List.append_nil]

/-- A join whose gate is open, by being abandoned if it was closed. -/
def givenUp (j : Join) : Join := if j.gate.released then j else ⟨j.id, j.gate.abandon, []⟩

/-- The closed gates among joins. -/
def closed (js : List Join) : List Join := js.filter fun j => !j.gate.released

/-- The entry that reports an abandoned join. -/
def report (plan : Plan) (clock : Nat) (j : Join) : LogEntry :=
  ⟨j.id.value, ((plan.graph.node? j.id.key).map (·.kind.name)).getD "", .warning,
    s!"Join abandoned: only {j.gate.arrived} of {j.gate.required} branches arrived",
    .record [("arrived", .int j.gate.arrived), ("required", .int j.gate.required)], clock⟩

/-- The machine after all closed gates have been abandoned, but for records. -/
def stalled (plan : Plan) (m : Machine σ) (records : List Record) : Machine σ :=
  { m with
    joins := m.joins.map givenUp
    ready := m.ready ++ (closed m.joins).flatMap fun j => j.parked.map .pass
    world := { m.world with
      log := m.world.log ++ (closed m.joins).map (report plan m.world.clock)
      records } }

theorem abandon_of_released (plan : Plan) (m : Machine σ) {j : Join} (h : j.gate.released = true) :
    m.abandon plan j = m := by
  simp [abandon, h]

theorem abandon_of_closed (plan : Plan) (m : Machine σ) {j : Join} (h : j.gate.released = false) :
    ∃ records, m.abandon plan j =
      { m with
        joins := putJoin m.joins (givenUp j)
        ready := m.ready ++ j.parked.map .pass
        world := { m.world with log := m.world.log ++ [report plan m.world.clock j], records } } := by
  have hgate : (j.gate.abandon).released = true := by simp [Gate.abandon, h]
  unfold abandon
  rw [if_neg (by simp [h])]
  dsimp only
  rw [wake_eq]
  unfold opened freed givenUp
  rw [if_pos hgate, if_pos hgate, if_neg (by simp [h])]
  exact ⟨_, rfl⟩

theorem putJoin_of_mem {js : List Join} (hnodup : (js.map (·.id.key)).Nodup) {j : Join} (h : j ∈ js)
    (f : Join → Join) (hf : (f j).id = j.id) :
    putJoin js (f j) = js.map fun i => if i.id.key = j.id.key then f i else i := by
  have hany : (js.any fun i => i.id.key == (f j).id.key) = true :=
    List.any_eq_true.mpr ⟨j, h, by simp [hf]⟩
  unfold putJoin
  rw [if_pos hany]
  refine List.map_congr_left fun i hi => ?_
  by_cases hkey : i.id.key = j.id.key
  · have hij : i = j := List.inj_on_of_nodup_map hnodup hi h hkey
    simp [hij, hf]
  · simp [hkey, hf]

theorem givenUp_id (j : Join) : (givenUp j).id = j.id := by
  unfold givenUp
  split <;> rfl

/-- Abandoning some of the joins of a machine, each of them once. -/
theorem foldl_abandon (plan : Plan) (js : List Join) : ∀ (m : Machine σ),
    (m.joins.map (·.id.key)).Nodup → (js.map (·.id.key)).Nodup → js ⊆ m.joins →
    ∃ records, js.foldl (abandon plan) m =
      { m with
        joins := m.joins.map fun i => if i.id.key ∈ js.map (·.id.key) then givenUp i else i
        ready := m.ready ++ (closed js).flatMap fun j => j.parked.map .pass
        world := { m.world with
          log := m.world.log ++ (closed js).map (report plan m.world.clock)
          records } } := by
  induction js with
  | nil => exact fun m _ _ _ => ⟨m.world.records, by simp [closed]⟩
  | cons j js ih =>
      intro m hkeys hnodup hsubset
      obtain ⟨hnew, hrest⟩ := List.nodup_cons.mp hnodup
      have hj : j ∈ m.joins := hsubset List.mem_cons_self
      have hsame : ∀ i ∈ m.joins, i.id.key = j.id.key → i = j := fun i hi h =>
        List.inj_on_of_nodup_map hkeys hi hj h
      cases hreleased : j.gate.released with
      | true =>
          obtain ⟨records, heq⟩ := ih m hkeys hrest fun i hi => hsubset (List.mem_cons_of_mem _ hi)
          refine ⟨records, ?_⟩
          have hjoins : (m.joins.map fun i => if i.id.key ∈ js.map (·.id.key) then givenUp i else i) =
              m.joins.map fun i => if i.id.key ∈ (j :: js).map (·.id.key) then givenUp i else i := by
            refine List.map_congr_left fun i hi => ?_
            by_cases hkey : i.id.key = j.id.key
            · have hstays : givenUp i = i := by simp [givenUp, hsame i hi hkey, hreleased]
              simp [hstays]
            · simp [hkey]
          have hclosed : closed (j :: js) = closed js := by simp [closed, hreleased]
          rw [List.foldl_cons, abandon_of_released plan m hreleased, heq, hjoins, hclosed]
      | false =>
          obtain ⟨records₁, hfirst⟩ := abandon_of_closed plan m hreleased
          have hput : putJoin m.joins (givenUp j) =
              m.joins.map fun i => if i.id.key = j.id.key then givenUp i else i :=
            putJoin_of_mem hkeys hj givenUp (givenUp_id j)
          have hothers : js ⊆ putJoin m.joins (givenUp j) := by
            intro i hi
            have hne : i.id.key ≠ j.id.key := fun h => hnew (List.mem_map.mpr ⟨i, hi, h⟩)
            rw [hput]
            exact List.mem_map.mpr ⟨i, hsubset (List.mem_cons_of_mem _ hi), by simp [hne]⟩
          obtain ⟨records, heq⟩ := ih { m with
              joins := putJoin m.joins (givenUp j)
              ready := m.ready ++ j.parked.map .pass
              world := { m.world with log := m.world.log ++ [report plan m.world.clock j], records := records₁ } }
            (keys_putJoin_nodup hkeys _) hrest hothers
          have hjoins : ((putJoin m.joins (givenUp j)).map fun i =>
              if i.id.key ∈ js.map (·.id.key) then givenUp i else i) =
              m.joins.map fun i => if i.id.key ∈ (j :: js).map (·.id.key) then givenUp i else i := by
            rw [hput, List.map_map]
            refine List.map_congr_left fun i hi => ?_
            by_cases hkey : i.id.key = j.id.key
            · simp only [Function.comp_apply, hkey, if_true, givenUp_id, List.map_cons, List.mem_cons,
                true_or]
              rw [if_neg hnew]
            · simp [hkey]
          have hclosed : closed (j :: js) = j :: closed js := by simp [closed, hreleased]
          refine ⟨records, ?_⟩
          rw [List.foldl_cons, hfirst, heq, hjoins, hclosed]
          simp [List.append_assoc]

/-- The loop over all joins, as one update. -/
theorem checkStalled_eq (plan : Plan) {m : Machine σ} (hkeys : (m.joins.map (·.id.key)).Nodup) :
    ∃ records, m.checkStalled plan = if 0 < m.active then m else m.stalled plan records := by
  obtain ⟨records, heq⟩ := foldl_abandon plan m.joins m hkeys hkeys (List.Subset.refl _)
  refine ⟨records, ?_⟩
  unfold checkStalled
  split
  · rfl
  · rw [heq]
    have hjoins : (m.joins.map fun i => if i.id.key ∈ m.joins.map (·.id.key) then givenUp i else i) =
        m.joins.map givenUp :=
      List.map_congr_left fun i hi => if_pos (List.mem_map_of_mem hi)
    rw [hjoins]
    rfl

/-- What the gates, the queue and the world have no part in stays as it is. -/
theorem checkStalled_same {α : Type} (plan : Plan) {m : Machine σ} (hkeys : (m.joins.map (·.id.key)).Nodup)
    (f : Machine σ → α) (hf : ∀ records, f (m.stalled plan records) = f m) : f (m.checkStalled plan) = f m := by
  obtain ⟨records, heq⟩ := checkStalled_eq plan hkeys
  rw [heq]
  split
  · rfl
  · exact hf records

theorem givenUp_released (j : Join) : (givenUp j).gate.released = true := by
  unfold givenUp
  split
  next h => exact h
  next h => simp [Gate.abandon, h]

/-! ## Arrivals in vain -/

/-- The machine after a visit has arrived in vain at the gate of its node. -/
def turnAway (plan : Plan) (m : Machine σ) (j : Join) : Machine σ :=
  ((m.setJoin j).addActive (-1)).checkStalled plan

/-- The machine with a join in its place and one active visit less. -/
def arrived (m : Machine σ) (j : Join) : Machine σ :=
  { m with joins := putJoin m.joins j, active := m.active + -1 }

theorem turnAway_eq (plan : Plan) {m : Machine σ} (hkeys : (m.joins.map (·.id.key)).Nodup) (j : Join) :
    ∃ records, m.turnAway plan j =
      if 0 < m.active + -1 then m.arrived j else (m.arrived j).stalled plan records := by
  have hkeys' : ((m.arrived j).joins.map (·.id.key)).Nodup := keys_putJoin_nodup hkeys j
  have harrived : (m.setJoin j).addActive (-1) = m.arrived j := by
    rw [setJoin_eq]
    rfl
  unfold turnAway
  rw [harrived]
  exact checkStalled_eq plan hkeys'

theorem turnAway_same {α : Type} (plan : Plan) {m : Machine σ} (hkeys : (m.joins.map (·.id.key)).Nodup) (j : Join)
    (f : Machine σ → α) (hf : ∀ records, f ((m.arrived j).stalled plan records) = f (m.arrived j)) :
    f (m.turnAway plan j) = f (m.arrived j) := by
  obtain ⟨records, heq⟩ := turnAway_eq plan hkeys j
  rw [heq]
  split
  · rfl
  · exact hf records

/-- An arriving visit finds the gate closed only if others are active. -/
theorem closed_of_turnAway {plan : Plan} {m : Machine σ} (hkeys : (m.joins.map (·.id.key)).Nodup) {j : Join}
    (hid : j.id.key = id.key) (h : (m.turnAway plan j).isOpen id = false) :
    0 < m.active + -1 ∧ j.gate.released = false ∧ m.turnAway plan j = m.arrived j := by
  obtain ⟨records, heq⟩ := turnAway_eq plan hkeys j
  have hgate : gateAt (m.arrived j).joins id.key = some j := by
    rw [← hid]
    exact (gateAt_putJoin m.joins j j.id.key).trans (if_pos rfl)
  rw [heq] at h
  split at heq
  next hactive =>
    rw [if_pos hactive] at h
    change ((gateAt (m.arrived j).joins id.key).any fun j => j.gate.released) = false at h
    rw [hgate] at h
    exact ⟨hactive, h, heq⟩
  next hactive =>
    rw [if_neg hactive] at h
    change ((gateAt ((m.arrived j).joins.map givenUp) id.key).any fun j => j.gate.released) = false at h
    rw [gateAt_map givenUp_id, hgate, Option.map_some, Option.any_some, givenUp_released] at h
    cases h

/-- An arriving visit finds the gate open because it was, or because nothing
else is active and all gates are given up. -/
theorem open_of_turnAway {plan : Plan} {m : Machine σ} (hkeys : (m.joins.map (·.id.key)).Nodup) {j : Join}
    (hid : j.id.key = id.key) (h : (m.turnAway plan j).isOpen id = true) :
    (0 < m.active + -1 ∧ j.gate.released = true ∧ m.turnAway plan j = m.arrived j) ∨
      (m.active + -1 ≤ 0 ∧ ∃ records, m.turnAway plan j = (m.arrived j).stalled plan records) := by
  obtain ⟨records, heq⟩ := turnAway_eq plan hkeys j
  have hgate : gateAt (m.arrived j).joins id.key = some j := by
    rw [← hid]
    exact (gateAt_putJoin m.joins j j.id.key).trans (if_pos rfl)
  split at heq
  next hactive =>
    rw [heq] at h
    change ((gateAt (m.arrived j).joins id.key).any fun j => j.gate.released) = true at h
    rw [hgate] at h
    exact .inl ⟨hactive, h, heq⟩
  next hactive => exact .inr ⟨Int.not_lt.mp hactive, records, heq⟩

end Machine
end Workflow.Run
