import Workflow.Proofs.Active

/-!
# Workflow.Proofs.Gates

What a gate knows.

1. A gate counts the visits of its node that have begun (`Gated.arrivals`), as
   long as the node has not been visited.
2. A closed gate waits for more than have arrived.  An open one has let one
   visit through, and then its node is visited, or it has been abandoned short
   of the required number (`GateOk`).
3. Gates are abandoned only when no visit runs, and from then on none does
   (`Gated.stalled`).  When no visit runs, no gate is closed (`Gated.idle`).
-/

namespace Workflow.Run

open Machine

variable {σ : Type}

/-! ## Arrivals -/

/-- How many visits have arrived at the gate of a node. -/
def arrivals (js : List Join) (k : Key) : Nat := (gateAt js k).elim 0 fun j => j.gate.arrived

/-- Is the task a visit of the node that has begun? -/
def Task.hasBegun (k : Key) : Task → Bool
  | ⟨.visit id _, stage⟩ => id.key == k && !stage.isQueued
  | _ => false

/-- The number of visits of a node that have begun. -/
def begun (m : Machine σ) (k : Key) : Nat := m.tasks.countP (Task.hasBegun k)

/-- What holds of the gate of a node. -/
structure GateOk (g : Graph) (visited : List Key) (j : Join) : Prop where
  required : ∃ r, g.required j.id.key = .ok r ∧ j.gate.required = r ∧ 1 < r
  visited_iff : j.id.key ∈ visited ↔ j.gate.released = true ∧ j.gate.abandoned = false
  below : j.id.key ∉ visited → (j.gate.arrived : Int) < j.gate.required
  full : j.id.key ∈ visited → j.gate.required ≤ j.gate.arrived
  abandoned : j.gate.abandoned = true → j.gate.released = true

namespace GateOk

variable {g : Graph} {visited : List Key} {j : Join}

/-- Who is parked does not matter. -/
theorem parked (h : GateOk g visited j) (ts : List Nat) : GateOk g visited { j with parked := ts } :=
  ⟨h.required, h.visited_iff, h.below, h.full, h.abandoned⟩

/-- Abandoning a gate, if it is closed. -/
theorem abandon (h : GateOk g visited j) : GateOk g visited { j with gate := j.gate.abandon } := by
  cases hreleased : j.gate.released with
  | true =>
      rw [Gate.abandon_of_released hreleased]
      exact h
  | false =>
      have hnew : j.id.key ∉ visited := fun hmem => by
        have hopen := (h.visited_iff.mp hmem).1
        rw [hreleased] at hopen
        cases hopen
      have hgate : j.gate.abandon = { j.gate with abandoned := true, released := true } := by
        simp [Gate.abandon, hreleased]
      rw [hgate]
      constructor
      · exact h.required
      · exact ⟨fun hmem => absurd hmem hnew, fun hfalse => by cases hfalse.2⟩
      · exact h.below
      · exact h.full
      · exact fun _ => rfl

theorem givenUp (h : GateOk g visited j) : GateOk g visited (Machine.givenUp j) := by
  unfold Machine.givenUp
  split
  · exact h
  · exact h.abandon.parked []

/-- Another node is visited. -/
theorem visit (h : GateOk g visited j) {k : Key} (hk : j.id.key ≠ k) : GateOk g (k :: visited) j where
  required := h.required
  visited_iff := by
    rw [List.mem_cons, ← h.visited_iff]
    exact or_iff_right hk
  below hnew := h.below fun hmem => hnew (List.mem_cons_of_mem _ hmem)
  full hmem := h.full ((List.mem_cons.mp hmem).resolve_left hk)
  abandoned := h.abandoned

/-- A gate that opens as its last branch arrives. -/
theorem release (h : GateOk g visited j) {gate : Gate} (harrive : j.gate.arrive = (true, gate)) (ts : List Nat) :
    GateOk g (j.id.key :: visited) ⟨j.id, gate, ts⟩ := by
  obtain ⟨hclosed, rfl, henough⟩ := Gate.arrive_true harrive
  have hopen : j.gate.abandoned = false := by
    cases habandoned : j.gate.abandoned with
    | false => rfl
    | true => exact absurd (h.abandoned habandoned) (by simp [hclosed])
  constructor
  · exact h.required
  · exact ⟨fun _ => ⟨rfl, hopen⟩, fun _ => List.mem_cons_self⟩
  · exact fun hnew => absurd List.mem_cons_self hnew
  · exact fun _ => henough
  · exact fun _ => rfl

/-- A closed gate at which one more branch has arrived. -/
theorem arrive (h : GateOk g visited j) (hnew : j.id.key ∉ visited) {gate : Gate}
    (harrive : j.gate.arrive = (false, gate)) : GateOk g visited { j with gate } := by
  rcases Gate.arrive_false harrive with ⟨_, rfl⟩ | ⟨hclosed, rfl, hfew⟩
  · exact h
  · constructor
    · exact h.required
    · exact ⟨fun hmem => absurd hmem hnew, fun hopen => by simp [hclosed] at hopen⟩
    · exact fun _ => hfew
    · exact fun hmem => absurd hmem hnew
    · exact h.abandoned

/-- The join at which a visit arrives. -/
theorem join {m : Machine σ} (h : ∀ j ∈ m.joins, GateOk g m.visited j) {id : NodeId} {required : Nat}
    (hnew : id.key ∉ m.visited) (hrequired : g.required id.key = .ok required) (hmany : 1 < required) :
    GateOk g m.visited (m.join id required) := by
  rw [join_eq]
  cases hgate : gateAt m.joins id.key with
  | some j => exact h j (gateAt_some hgate).1
  | none =>
      refine ⟨⟨required, hrequired, rfl, hmany⟩, ?_, fun _ => ?_, fun hmem => absurd hmem hnew, nofun⟩
      · exact ⟨fun hmem => absurd hmem hnew, fun hopen => by cases hopen.1⟩
      · exact Int.natCast_pos.mpr (Nat.zero_lt_of_lt hmany)

end GateOk

/-! ## Visits that have begun -/

section

variable {h h' : Hand} {m m' : Machine σ} {t : Nat} {id : NodeId} {parent : Option Nat} {stage stage' : Stage}

theorem begun_of_tasks (htasks : m'.tasks = m.tasks) (k : Key) : begun m' k = begun m k := by
  unfold begun
  rw [htasks]

theorem begun_setStage (hvisits : m.Visits t id parent stage) (htasks : m'.tasks = (m.setStage t stage').tasks)
    (k : Key) :
    begun m' k + (id.key == k && !stage.isQueued).toNat = begun m k + (id.key == k && !stage'.isQueued).toNat := by
  unfold begun
  rw [htasks]
  exact countP_setStage hvisits stage'

theorem begun_same (hvisits : m.Visits t id parent stage) (htasks : m'.tasks = (m.setStage t stage').tasks)
    (hstage : stage.isQueued = false) (hstage' : stage'.isQueued = false) (k : Key) : begun m' k = begun m k := by
  have hset := begun_setStage hvisits htasks k
  rw [hstage, hstage'] at hset
  exact Nat.add_right_cancel hset

theorem begun_tool {p index : Nat} {task : ToolTask} (htools : m.Tools t p index task stage)
    (htasks : m'.tasks = (m.setStage t .over).tasks) (k : Key) : begun m' k = begun m k := by
  unfold begun
  rw [htasks]
  have hcount := countP_setStage (p := Task.hasBegun k) htools .over
  exact hcount

theorem begun_addTasks (m : Machine σ) (js : List Job) (k : Key) : begun (m.addTasks js) k = begun m k := by
  unfold begun addTasks
  rw [List.countP_append, List.countP_map]
  have hnone : js.countP (Task.hasBegun k ∘ fun job => ⟨job, .queued⟩) = 0 := by
    refine List.countP_eq_zero.mpr fun job _ => ?_
    cases job <;> simp [Task.hasBegun, Stage.isQueued]
  rw [hnone, Nat.add_zero]

theorem begun_start (htokens : Tokens (.holds (.start t)) m) (hvisits : m.Visits t id parent stage)
    (htasks : m'.tasks = (m.setStage t stage').tasks) (hstage : stage'.isQueued = false) (k : Key) :
    begun m' k = begun m k + (id.key == k).toNat := by
  obtain ⟨rfl, _⟩ := htokens.begun hvisits
  have hset := begun_setStage hvisits htasks k
  rw [hstage] at hset
  simpa [Stage.isQueued] using hset

/-- At most the visit whose start is in hand begins. -/
theorem Move.begun {s : Setup σ} {start : Node} (hmove : Move s h m h' m') (hshape : Shape s.plan.graph start h m)
    (htokens : Tokens h m) :
    (∀ k, begun m' k = begun m k) ∨ ∃ t id parent, h = .holds (.start t) ∧ m.Visits t id parent .queued ∧
      ∀ k, begun m' k = begun m k + (id.key == k).toNat := by
  have hbegins : ∀ {t id parent stage}, h = .holds (.start t) → m.Visits t id parent stage → ∀ {stage'},
      m'.tasks = (m.setStage t stage').tasks → stage'.isQueued = false →
      ∃ t id parent, h = .holds (.start t) ∧ m.Visits t id parent .queued ∧
        ∀ k, Run.begun m' k = Run.begun m k + (id.key == k).toNat := by
    rintro t id parent stage rfl hvisits stage' htasks hstage
    obtain ⟨rfl, _⟩ := htokens.begun hvisits
    exact ⟨t, id, parent, rfl, hvisits, begun_start htokens hvisits htasks hstage⟩
  cases hmove with
  | skip hvisits | refuse hvisits | absent hvisits | enter hvisits => exact .inr (hbegins rfl hvisits rfl rfl)
  | release hvisits => exact .inr (hbegins rfl hvisits (setStage_tasks (wake_tasks ..) ..) rfl)
  | park hvisits => exact .inr (hbegins rfl hvisits (setStage_tasks (turnAway_tasks ..) _ .parked) rfl)
  | turn hvisits => exact .inr (hbegins rfl hvisits (setStage_tasks (turned_tasks ..) ..) rfl)
  | pass hvisits =>
      obtain ⟨rfl, _⟩ := htokens.passed hvisits
      exact .inl (begun_same hvisits rfl rfl rfl)
  | answer hvisits | resume hvisits | count hvisits | spoil hvisits | gather hvisits | fill hvisits =>
      exact .inl (begun_same hvisits rfl rfl rfl)
  | toolError htools | toolReply htools | toolAnswer htools => exact .inl (begun_tool htools rfl)
  | @spread _ t =>
      obtain ⟨_, _, hover⟩ := hshape.hand t rfl
      exact .inl fun k => (begun_addTasks ..).trans (begun_same hover rfl rfl rfl k)
  | @call _ t =>
      obtain ⟨_, _, hover⟩ := hshape.hand t rfl
      exact .inl (begun_same hover rfl rfl rfl)
  | @tools _ t =>
      obtain ⟨_, _, hover⟩ := hshape.hand t rfl
      exact .inl fun k => (begun_addTasks ..).trans (begun_same hover rfl rfl rfl k)
  | tell => exact .inl (begun_of_tasks (checkStalled_tasks ..))
  | conclude => exact .inl (begun_of_tasks ((conclude_tasks ..).trans (checkStalled_tasks ..)))
  | drop | stop | fail | reply | noTools | toolCall => exact .inl fun k => rfl

/-! ## All gates of a machine -/

/-- What becomes of joins where each keeps its node. -/
theorem arrivals_map {f : Join → Join} (hid : ∀ j, (f j).id = j.id)
    (harrived : ∀ j, (f j).gate.arrived = j.gate.arrived) (js : List Join) (k : Key) :
    arrivals (js.map f) k = arrivals js k := by
  unfold arrivals
  rw [gateAt_map hid]
  cases gateAt js k with
  | none => rfl
  | some j => exact harrived j

theorem givenUp_arrived (j : Join) : (givenUp j).gate.arrived = j.gate.arrived := by
  unfold givenUp
  split
  · rfl
  · exact Gate.abandon_arrived j.gate

theorem arrivals_putJoin (js : List Join) (j : Join) (k : Key) :
    arrivals (putJoin js j) k = if k = j.id.key then j.gate.arrived else arrivals js k := by
  unfold arrivals
  rw [gateAt_putJoin]
  split <;> rfl

theorem join_arrived (m : Machine σ) (id : NodeId) (required : Nat) :
    (m.join id required).gate.arrived = arrivals m.joins id.key := by
  rw [join_eq]
  unfold arrivals
  cases gateAt m.joins id.key <;> rfl

/-- What the scheduler knows about gates. -/
structure Gated (g : Graph) (h : Hand) (m : Machine σ) : Prop where
  outcome : h ≠ .idle → m.outcome = none
  active : m.active = running m + h.weight
  rooted : ∀ {id}, m.Visits 0 id none .queued → m.joins = [] ∧ m.tasks.length = 1
  gates : ∀ j ∈ m.joins, GateOk g m.visited j
  reached : ∀ j ∈ m.joins, 1 ≤ j.gate.arrived
  arrivals : ∀ {k r}, k ∉ m.visited → g.required k = .ok r → 1 < r → arrivals m.joins k = begun m k
  idle : m.active ≤ 0 → ∀ j ∈ m.joins, j.gate.released = true
  stalled : (∀ f, m.outcome ≠ some (.error f)) → (∃ j ∈ m.joins, j.gate.abandoned = true) →
    running m = 0 ∧ h.works? = none

namespace Gated

variable {g : Graph}

/-- While a visit runs no gate is abandoned. -/
theorem unabandoned (hgated : Gated g h m) (hh : h ≠ .idle) (hrunning : 0 < running m ∨ h.works?.isSome) :
    ∀ j ∈ m.joins, j.gate.abandoned = false := by
  intro j hj
  cases habandoned : j.gate.abandoned with
  | false => rfl
  | true =>
      have houtcome : ∀ f, m.outcome ≠ some (.error f) := fun f => by
        rw [hgated.outcome hh]
        exact nofun
      obtain ⟨hnone, hworks⟩ := hgated.stalled houtcome ⟨j, hj, habandoned⟩
      rcases hrunning with hrunning | hrunning
      · omega
      · rw [hworks] at hrunning
        cases hrunning

theorem running_pos (hvisits : m.Visits t id parent stage) (hstage : stage.isRunning = true) : 0 < running m :=
  List.countP_pos_iff.mpr ⟨_, List.mem_of_getElem? hvisits, hstage⟩

/-- A gate that a visit finds open after it has arrived in vain was closed, and
has been abandoned because nothing else runs. -/
theorem turned (hgated : Gated g (.holds (.start t)) m) (htokens : Tokens (.holds (.start t)) m) {plan : Plan}
    (hvisits : m.Visits t id parent stage) {required : Nat} {gate : Gate} (hnew : id.key ∉ m.visited)
    (hrequired : g.required id.key = .ok required) (hmany : 1 < required)
    (harrive : (m.join id required).gate.arrive = (false, gate))
    (hopen : (m.turnAway plan { m.join id required with gate }).isOpen id = true) :
    running m = 1 ∧ gate = { (m.join id required).gate with arrived := (m.join id required).gate.arrived + 1 } ∧
      ∃ records, m.turnAway plan { m.join id required with gate } =
        (m.arrived { m.join id required with gate }).stalled plan records := by
  obtain ⟨rfl, _⟩ := htokens.begun hvisits
  have hrunning := running_pos hvisits rfl
  have hok := GateOk.join hgated.gates hnew hrequired hmany
  have hclosed : (m.join id required).gate.released = false := by
    cases hreleased : (m.join id required).gate.released with
    | false => rfl
    | true =>
        rw [join_eq] at hok hreleased
        cases hgate : gateAt m.joins id.key with
        | none =>
            rw [hgate] at hreleased
            cases hreleased
        | some j =>
            obtain ⟨hj, hkey⟩ := gateAt_some hgate
            rw [hgate] at hreleased
            have hfalse := hgated.unabandoned nofun (.inl hrunning) j hj
            exact absurd ((hgated.gates j hj).visited_iff.mpr ⟨hreleased, hfalse⟩) (hkey ▸ hnew)
  rcases Gate.arrive_false harrive with ⟨hreleased, _⟩ | ⟨_, hgate, _⟩
  · rw [hclosed] at hreleased
    cases hreleased
  · rcases open_of_turnAway htokens.keys (j := { m.join id required with gate }) (join_key ..) hopen with
      ⟨_, hreleased, _⟩ | ⟨hactive, hstalled⟩
    · rw [hgate] at hreleased
      exact absurd (hreleased.symm.trans hclosed) nofun
    · have hcount := hgated.active
      simp only [Hand.weight] at hcount
      exact ⟨by omega, hgate, hstalled⟩

theorem checkStalled_joins (plan : Plan) (hkeys : (m.joins.map (·.id.key)).Nodup) :
    (m.checkStalled plan).joins = if 0 < m.active then m.joins else m.joins.map Machine.givenUp := by
  obtain ⟨records, heq⟩ := checkStalled_eq plan hkeys
  rw [heq]
  split <;> rfl

theorem conclude_joins (m : Machine σ) (failure : Option Failure) :
    (m.conclude failure).joins =
      if failure.isSome then m.joins.map fun j => { j with gate := j.gate.abandon } else m.joins := by
  cases failure <;> rfl

theorem addParked_mem {i : Join} (h : i ∈ (m.addParked t id).joins) :
    ∃ j ∈ m.joins, ∃ ts, i = { j with parked := ts } := by
  obtain ⟨j, hj, rfl⟩ := List.mem_map.mp h
  refine ⟨j, hj, ?_⟩
  split
  · exact ⟨_, rfl⟩
  · exact ⟨j.parked, rfl⟩

/-- A branch that waits at a gate has been counted there, while others are active. -/
theorem closed_arrival {plan : Plan} (hkeys : (m.joins.map (·.id.key)).Nodup) {required : Nat} {gate : Gate}
    (harrive : (m.join id required).gate.arrive = (false, gate))
    (hclosed : (m.turnAway plan { m.join id required with gate }).isOpen id = false) :
    0 < m.active + -1 ∧ gate.released = false ∧
      gate = { (m.join id required).gate with arrived := (m.join id required).gate.arrived + 1 } ∧
      m.turnAway plan { m.join id required with gate } = m.arrived { m.join id required with gate } := by
  obtain ⟨hothers, hreleased, heq⟩ :=
    closed_of_turnAway hkeys (j := { m.join id required with gate }) (join_key ..) hclosed
  rcases Gate.arrive_false harrive with ⟨hopen, rfl⟩ | ⟨_, hgate, _⟩
  · exact absurd (hopen.symm.trans hreleased) nofun
  · exact ⟨hothers, hreleased, hgate, heq⟩

/-- A branch that goes through a gate leaves its join open. -/
theorem release_joins (m : Machine σ) (j : Join) (records : List Record) (k : Key) (t : Nat) :
    ((((m.wake j).withRecords records).visit k).setStage t .over).joins = putJoin m.joins (opened j) :=
  congrArg Machine.joins (wake_eq m j)

theorem release_visited (m : Machine σ) (j : Join) (records : List Record) (k : Key) (t : Nat) :
    ((((m.wake j).withRecords records).visit k).setStage t .over).visited = k :: m.visited :=
  congrArg (k :: ·) (wake_visited ..)

theorem conclude_visited (plan : Plan) (m : Machine σ) (failure : Option Failure) :
    (((m.addActive (-1)).checkStalled plan).conclude failure).visited = m.visited := by
  refine Eq.trans ?_ (checkStalled_visited plan (m.addActive (-1)))
  cases failure <;> rfl

/-- A property of joins that survives every change the scheduler makes to
them, and holds of those that come new, is kept. -/
theorem joins_move {s : Setup σ} {start : Node} (hmove : Move s h m h' m') (hshape : Shape s.plan.graph start h m)
    (htokens : Tokens h m) (hgated : Gated s.plan.graph h m) {P : List Key → Join → Prop}
    (hparked : ∀ {visited j} ts, P visited j → P visited { j with parked := ts })
    (habandon : ∀ {visited j}, P visited j → P visited { j with gate := j.gate.abandon })
    (hvisit : ∀ {visited j k}, j.id.key ≠ k → P visited j → P (k :: visited) j)
    (hrelease : ∀ {id : NodeId} {required : Nat} {gate : Gate}, id.key ∉ m.visited →
      s.plan.graph.required id.key = .ok required → 1 < required →
      (m.join id required).gate.arrive = (true, gate) → P (id.key :: m.visited) { m.join id required with gate })
    (harrive : ∀ {id : NodeId} {required : Nat} {gate : Gate}, id.key ∉ m.visited →
      s.plan.graph.required id.key = .ok required → 1 < required →
      (m.join id required).gate.arrive = (false, gate) →
      gate = { (m.join id required).gate with arrived := (m.join id required).gate.arrived + 1 } →
      P m.visited { m.join id required with gate })
    (hall : ∀ j ∈ m.joins, P m.visited j) : ∀ j ∈ m'.joins, P m'.visited j := by
  have hkeys := htokens.keys
  have hgivenUp : ∀ {visited j}, P visited j → P visited (Machine.givenUp j) := by
    intro visited j hj
    unfold Machine.givenUp
    split
    · exact hj
    · exact hparked [] (habandon hj)
  have hstalled : ∀ {m : Machine σ}, (m.joins.map (·.id.key)).Nodup → (∀ j ∈ m.joins, P m.visited j) →
      ∀ j ∈ (m.checkStalled s.plan).joins, P m.visited j := by
    intro m hkeys hall j hj
    rw [checkStalled_joins s.plan hkeys] at hj
    split at hj
    · exact hall j hj
    · obtain ⟨i, hi, rfl⟩ := List.mem_map.mp hj
      exact hgivenUp (hall i hi)
  have harrived : ∀ {id : NodeId} {required : Nat} {gate : Gate}, P m.visited { m.join id required with gate } →
      ∀ j ∈ (m.arrived { m.join id required with gate }).joins, P m.visited j := fun hnew => forall_putJoin hnew hall
  cases hmove with
  | @enter _ t id parent stage required n hvisits _ hrequired hungated =>
      refine fun j hj => hvisit (fun hkey => ?_) (hall j hj)
      rcases hungated with rfl | hfew
      · obtain ⟨rfl, _⟩ := htokens.begun hvisits
        obtain rfl := hshape.tree.parentless hvisits.job
        exact List.not_mem_nil ((hgated.rooted hvisits).1 ▸ hj)
      · obtain ⟨r, hr, _, hmany⟩ := (hgated.gates j hj).required
        rw [hkey, hrequired] at hr
        cases hr
        omega
  | @release _ t id _ _ required gate records n hvisits hnew hrequired hmany hgate =>
      intro j hj
      rw [release_joins] at hj
      rw [release_visited]
      rcases mem_putJoin hj with rfl | ⟨hj, hne⟩
      · have hopened := hrelease hnew hrequired hmany hgate
        unfold opened
        split
        · exact hparked [] hopened
        · exact hopened
      · rw [opened_id, join_key] at hne
        exact hvisit hne (hall j hj)
  | @park _ t id _ _ required gate hvisits hnew hrequired hmany hgate hclosed =>
      intro j hj
      obtain ⟨_, _, hgate', heq⟩ := closed_arrival hkeys hgate hclosed
      rw [heq] at hj ⊢
      obtain ⟨i, hi, ts, rfl⟩ := addParked_mem hj
      exact hparked ts (harrived (harrive hnew hrequired hmany hgate hgate') i hi)
  | @turn _ t id _ _ required gate records hvisits hnew hrequired hmany hgate hopen =>
      obtain ⟨_, hgate', records', heq⟩ := hgated.turned htokens hvisits hnew hrequired hmany hgate hopen
      rw [heq]
      intro j hj
      obtain ⟨i, hi, rfl⟩ := List.mem_map.mp hj
      exact hgivenUp (harrived (harrive hnew hrequired hmany hgate hgate') i hi)
  | tell =>
      have hvisited := checkStalled_visited s.plan (m.addActive (-1))
      intro j hj
      have hj' := hstalled (m := m.addActive (-1)) hkeys hall j hj
      exact hvisited.symm ▸ hj'
  | @conclude _ t id stage failure =>
      intro j hj
      rw [conclude_joins] at hj
      rw [conclude_visited]
      split at hj
      · obtain ⟨i, hi, rfl⟩ := List.mem_map.mp hj
        exact habandon (hstalled (m := m.addActive (-1)) hkeys hall i hi)
      · exact hstalled (m := m.addActive (-1)) hkeys hall j hj
  | _ => exact hall

/-! ## What moves keep -/

section

variable {s : Setup σ} {start : Node}

theorem gates_move (hmove : Move s h m h' m') (hshape : Shape s.plan.graph start h m)
    (htokens : Tokens h m) (hgated : Gated s.plan.graph h m) : ∀ j ∈ m'.joins, GateOk s.plan.graph m'.visited j := by
  refine hgated.joins_move hmove hshape htokens (fun ts hj => hj.parked ts) (fun hj => hj.abandon)
    (fun hne hj => hj.visit hne) ?_ ?_ hgated.gates
  · intro id required gate hnew hrequired hmany harrive
    have hreleased := (GateOk.join hgated.gates hnew hrequired hmany).release harrive (m.join id required).parked
    rw [join_key] at hreleased
    exact hreleased
  · intro id required gate hnew hrequired hmany harrive _
    refine (GateOk.join hgated.gates hnew hrequired hmany).arrive ?_ harrive
    rw [join_key]
    exact hnew

theorem reached_move (hmove : Move s h m h' m') (hshape : Shape s.plan.graph start h m)
    (htokens : Tokens h m) (hgated : Gated s.plan.graph h m) : ∀ j ∈ m'.joins, 1 ≤ j.gate.arrived := by
  refine hgated.joins_move hmove hshape htokens (P := fun _ j => 1 ≤ j.gate.arrived) (fun ts hj => hj)
    (fun hj => ?_) (fun _ hj => hj) ?_ ?_ hgated.reached
  · rw [Gate.abandon_arrived]
    exact hj
  · intro id required gate _ _ _ harrive
    rw [(Gate.arrive_true harrive).2.1]
    exact Nat.le_add_left 1 _
  · intro id required gate _ _ _ _ hgate
    rw [hgate]
    exact Nat.le_add_left 1 _

theorem arrivals_checkStalled (plan : Plan) (hkeys : (m.joins.map (·.id.key)).Nodup) (k : Key) :
    Run.arrivals (m.checkStalled plan).joins k = Run.arrivals m.joins k := by
  rw [checkStalled_joins plan hkeys]
  split
  · rfl
  · exact arrivals_map givenUp_id givenUp_arrived m.joins k

theorem arrivals_conclude (m : Machine σ) (failure : Option Failure) (k : Key) :
    Run.arrivals (m.conclude failure).joins k = Run.arrivals m.joins k := by
  rw [conclude_joins]
  split
  · exact arrivals_map (f := fun j => { j with gate := j.gate.abandon }) (fun _ => rfl)
      (fun j => Gate.abandon_arrived j.gate) m.joins k
  · rfl

theorem arrivals_arrived (id : NodeId) (required : Nat) {gate : Gate}
    (hgate : gate = { (m.join id required).gate with arrived := (m.join id required).gate.arrived + 1 }) (k : Key) :
    Run.arrivals (m.arrived { m.join id required with gate }).joins k =
      Run.arrivals m.joins k + (id.key == k).toNat := by
  have hput := arrivals_putJoin m.joins { m.join id required with gate } k
  refine hput.trans ?_
  dsimp only
  rw [join_key, hgate]
  dsimp only
  rw [join_arrived]
  by_cases hkey : k = id.key
  · simp [hkey]
  · simp [hkey, Ne.symm hkey]

theorem arrivals_move (hmove : Move s h m h' m') (hshape : Shape s.plan.graph start h m)
    (htokens : Tokens h m) (hgated : Gated s.plan.graph h m) {k : Key} {r : Nat} (hk : k ∉ m'.visited)
    (hr : s.plan.graph.required k = .ok r) (hmany : 1 < r) : Run.arrivals m'.joins k = begun m' k := by
  have hkeys := htokens.keys
  have hold : k ∉ m.visited → Run.arrivals m.joins k = begun m k := fun hnew => hgated.arrivals hnew hr hmany
  have hother : ∀ {t id parent stage}, h = .holds (.start t) → m.Visits t id parent stage → id.key ≠ k →
      m'.tasks = (m.setStage t .over).tasks → begun m' k = begun m k := by
    rintro t id parent stage rfl hvisits hne htasks
    rw [begun_start htokens hvisits htasks rfl, beq_false_of_ne hne, Bool.toNat_false, Nat.add_zero]
  have hbegun := hmove.begun hshape htokens
  cases hmove with
  | skip hvisits hvisited =>
      refine (hold hk).trans (hother rfl hvisits ?_ rfl).symm
      rintro rfl
      exact hk hvisited
  | refuse hvisits _ hfault =>
      refine (hold hk).trans (hother rfl hvisits ?_ rfl).symm
      rintro rfl
      rw [hr] at hfault
      cases hfault
  | absent hvisits hnone =>
      obtain ⟨n, hn⟩ := hshape.tree.known hvisits.job
      cases hnone.symm.trans hn
  | enter hvisits =>
      obtain ⟨hne, hnew⟩ := not_or.mp fun h => hk (List.mem_cons.mpr h)
      exact (hold hnew).trans (hother rfl hvisits (Ne.symm hne) rfl).symm
  | @release _ t id _ _ required gate records n hvisits =>
      rw [release_visited] at hk
      obtain ⟨hne, hnew⟩ := not_or.mp fun h => hk (List.mem_cons.mpr h)
      rw [release_joins, arrivals_putJoin, opened_id, join_key, if_neg hne]
      exact (hold hnew).trans (hother rfl hvisits (Ne.symm hne) (setStage_tasks (wake_tasks ..) ..)).symm
  | @park _ t id _ _ required gate hvisits hnew hrequired hmany' hgate hclosed =>
      obtain ⟨_, _, hgate', heq⟩ := closed_arrival hkeys hgate hclosed
      have hparked : ∀ m : Machine σ, Run.arrivals (m.addParked t id).joins k = Run.arrivals m.joins k := by
        intro m
        refine arrivals_map (fun j => ?_) (fun j => ?_) m.joins k
        · split <;> rfl
        · split <;> rfl
      have hbegins : begun ((m.turnAway s.plan { m.join id required with gate }).addParked t id) k =
          begun m k + (id.key == k).toNat :=
        begun_start htokens hvisits (setStage_tasks (turnAway_tasks ..) t .parked) rfl k
      rw [hbegins, hparked, heq, arrivals_arrived id required hgate']
      rw [heq] at hk
      rw [hold hk]
  | @turn _ t id _ _ required gate records hvisits hnew hrequired hmany' hgate hopen =>
      obtain ⟨_, hgate', records', heq⟩ := hgated.turned htokens hvisits hnew hrequired hmany' hgate hopen
      have hvisited : ((((m.turnAway s.plan { m.join id required with gate }).addActive 1).withRecords
          records).setStage t .over).visited = m.visited := turnAway_visited ..
      rw [hvisited] at hk
      rw [begun_start htokens hvisits (setStage_tasks (turned_tasks ..) ..) rfl, ← hold hk,
        ← arrivals_arrived id required hgate', heq]
      exact arrivals_map givenUp_id givenUp_arrived _ k
  | tell =>
      have hvisited := checkStalled_visited s.plan (m.addActive (-1))
      have hnew : k ∉ m.visited := fun hmem => hk (hvisited.symm ▸ hmem)
      have hstalled := arrivals_checkStalled s.plan (m := m.addActive (-1)) hkeys k
      have hsame := begun_of_tasks (m := m) (checkStalled_tasks s.plan (m.addActive (-1))) k
      exact (hstalled.trans (hold hnew)).trans hsame.symm
  | @conclude _ t id stage failure =>
      rw [conclude_visited] at hk
      rw [begun_of_tasks (m := m) ((conclude_tasks _ failure).trans (checkStalled_tasks s.plan (m.addActive (-1)))),
        arrivals_conclude]
      exact (arrivals_checkStalled s.plan (m := m.addActive (-1)) hkeys k).trans (hold hk)
  | toolError htools | toolReply htools =>
      refine (hold hk).trans (hbegun.resolve_right ?_ k).symm
      rintro ⟨_, _, _, hh, hvisits, _⟩
      cases hh
      exact hvisits.not_tools htools
  | drop | toolCall => exact hold hk
  | _ =>
      refine (hold hk).trans (hbegun.resolve_right ?_ k).symm
      rintro ⟨_, _, _, hh, _⟩
      cases hh

theorem checkStalled_outcome (plan : Plan) (hkeys : (m.joins.map (·.id.key)).Nodup) :
    (m.checkStalled plan).outcome = m.outcome :=
  checkStalled_same plan hkeys (·.outcome) fun _ => rfl

/-- Only the end of the first visit settles the outcome of a run. -/
theorem outcome_move (hmove : Move s h m h' m') (htokens : Tokens h m) :
    m'.outcome = m.outcome ∨ ∃ t id stage failure, h = .ends t failure ∧ h' = .idle ∧ m.Visits t id none stage ∧
      m' = ((m.addActive (-1)).checkStalled s.plan).conclude failure := by
  have hkeys := htokens.keys
  cases hmove with
  | @conclude _ t id stage failure hvisits => exact .inr ⟨t, id, stage, failure, rfl, rfl, hvisits, rfl⟩
  | tell => exact .inl (checkStalled_outcome s.plan (m := m.addActive (-1)) hkeys)
  | release => exact .inl (by unfold setStage visit withRecords; rw [wake_eq])
  | @park _ _ id _ _ required gate | @turn _ _ id _ _ required gate =>
      exact .inl (turnAway_same s.plan hkeys { m.join id required with gate } (·.outcome) fun _ => rfl)
  | _ => exact .inl rfl

/-- Gates stay open while nothing is active, however they have come to be so. -/
theorem idle_move (hmove : Move s h m h' m') (htokens : Tokens h m) (hbefore : m.active = running m + h.weight)
    (hreleased : m.active ≤ 0 → ∀ j ∈ m.joins, j.gate.released = true)
    (hactive : m'.active = running m' + h'.weight) (hidle : m'.active ≤ 0) : ∀ j ∈ m'.joins, j.gate.released = true := by
  have hkeys := htokens.keys
  have hweight : h'.weight = 0 := by omega
  have hstalled : ∀ {m : Machine σ}, (m.joins.map (·.id.key)).Nodup → m.active ≤ 0 →
      ∀ j ∈ (m.checkStalled s.plan).joins, j.gate.released = true := by
    intro m hkeys hidle j hj
    rw [checkStalled_joins s.plan hkeys, if_neg (Int.not_lt.mpr hidle)] at hj
    obtain ⟨i, _, rfl⟩ := List.mem_map.mp hj
    exact givenUp_released i
  cases hmove with
  | drop | toolCall => exact hreleased hidle
  | count | fill | toolError | toolReply | toolAnswer => exact hreleased hidle
  | park _ _ _ _ hgate hclosed =>
      obtain ⟨hothers, _, _, heq⟩ := closed_arrival hkeys hgate hclosed
      rw [heq] at hidle
      exact absurd hothers (Int.not_lt.mpr hidle)
  | @spread _ t id _ _ n w v hvisits _ htargets =>
      have hlength := List.length_pos_iff.mpr htargets
      generalize s.plan.graph.targets n (w.look (selectedHandle v)) = ids at *
      change m.active + ((ids.length : Int) - 1) ≤ 0 at hidle
      simp only [Hand.weight] at hbefore
      omega
  | call | tools =>
      change m.active ≤ 0 at hidle
      simp only [Hand.weight] at hbefore
      omega
  | @tell _ t id parent stage failure =>
      have hsame := checkStalled_active s.plan (m := m.addActive (-1)) hkeys
      exact hstalled (m := m.addActive (-1)) hkeys (hsame ▸ hidle)
  | @conclude _ t id stage failure =>
      have hsame := checkStalled_active s.plan (m := m.addActive (-1)) hkeys
      have hconclude : (((m.addActive (-1)).checkStalled s.plan).conclude failure).active =
          ((m.addActive (-1)).checkStalled s.plan).active := by
        cases failure <;> rfl
      rw [hconclude, hsame] at hidle
      intro j hj
      rw [conclude_joins] at hj
      split at hj
      · obtain ⟨i, _, rfl⟩ := List.mem_map.mp hj
        exact Gate.abandon_released i.gate
      · exact hstalled (m := m.addActive (-1)) hkeys hidle j hj
  | _ => exact absurd hweight Nat.one_ne_zero

theorem join_unabandoned (hall : ∀ j ∈ m.joins, j.gate.abandoned = false) (id : NodeId) (required : Nat) :
    (m.join id required).gate.abandoned = false := by
  rw [join_eq]
  cases hgate : gateAt m.joins id.key with
  | none => rfl
  | some j => exact hall j (gateAt_some hgate).1

theorem stalled_move (hmove : Move s h m h' m') (hshape : Shape s.plan.graph start h m) (htokens : Tokens h m)
    (hgated : Gated s.plan.graph h m) (houtcome : ∀ f, m'.outcome ≠ some (.error f))
    (habandoned : ∃ j ∈ m'.joins, j.gate.abandoned = true) : running m' = 0 ∧ h'.works? = none := by
  have hkeys := htokens.keys
  obtain ⟨j, hj, htrue⟩ := habandoned
  have hno : (h ≠ .idle ∧ (0 < running m ∨ h.works?.isSome)) → j ∉ m.joins := fun ⟨hh, hruns⟩ hmem => by
    rw [hgated.unabandoned hh hruns j hmem] at htrue
    cases htrue
  have hstill : m'.outcome = m.outcome → j ∈ m.joins → running m = 0 := fun hsame hmem =>
    (hgated.stalled (hsame ▸ houtcome) ⟨j, hmem, htrue⟩).1
  have hends : ∀ {t failure}, h = .ends t failure → m.outcome = none →
      j ∈ (if 0 < (m.addActive (-1)).active then m.joins else m.joins.map Machine.givenUp) → running m = 0 := by
    rintro t failure rfl hnone hmem
    have hcount := hgated.active
    simp only [Hand.weight] at hcount
    split at hmem
    next hothers =>
      refine (hgated.stalled (fun f => ?_) ⟨j, hmem, htrue⟩).1
      rw [hnone]
      exact nofun
    next hnobody =>
      change ¬0 < m.active + -1 at hnobody
      omega
  cases hmove with
  | skip hvisits | refuse hvisits | absent hvisits | enter hvisits =>
      obtain ⟨rfl, _⟩ := htokens.begun hvisits
      exact absurd hj (hno ⟨nofun, .inl (running_pos hvisits rfl)⟩)
  | answer hvisits | spoil hvisits | gather hvisits | fill hvisits =>
      exact absurd hj (hno ⟨nofun, .inl (running_pos hvisits rfl)⟩)
  | spread | stop | fail | reply | call | noTools | tools => exact absurd hj (hno ⟨nofun, .inr rfl⟩)
  | @release _ t id _ _ required gate records n hvisits _ _ _ harrive =>
      obtain ⟨rfl, _⟩ := htokens.begun hvisits
      have hall := hgated.unabandoned nofun (.inl (running_pos hvisits rfl))
      rw [release_joins] at hj
      have hopened : ∀ i ∈ putJoin m.joins (opened { m.join id required with gate }), i.gate.abandoned = false := by
        refine forall_putJoin ?_ hall
        rw [opened_gate, (Gate.arrive_true harrive).2.1]
        exact join_unabandoned hall id required
      exact absurd (htrue.symm.trans (hopened j hj)) nofun
  | @park _ t id _ _ required gate hvisits _ _ _ harrive hclosed =>
      obtain ⟨rfl, _⟩ := htokens.begun hvisits
      have hall := hgated.unabandoned nofun (.inl (running_pos hvisits rfl))
      obtain ⟨_, _, rfl, heq⟩ := closed_arrival hkeys harrive hclosed
      rw [heq] at hj
      obtain ⟨i, hi, ts, rfl⟩ := addParked_mem hj
      exact absurd (htrue.symm.trans (forall_putJoin (join_unabandoned hall id required) hall i hi)) nofun
  | @turn _ t id _ _ required gate records hvisits hnew hrequired hmany harrive hopen =>
      obtain ⟨hone, _⟩ := hgated.turned htokens hvisits hnew hrequired hmany harrive hopen
      obtain ⟨rfl, _⟩ := htokens.begun hvisits
      have hset := running_setStage hvisits
        (setStage_tasks (turned_tasks s.plan m { m.join id required with gate } records) t .over)
      exact ⟨Nat.add_right_cancel (hset.trans hone), rfl⟩
  | pass hvisits =>
      obtain ⟨rfl, _⟩ := htokens.passed hvisits
      exact ⟨(running_setStage hvisits rfl).trans (hstill rfl hj), rfl⟩
  | resume hvisits => exact ⟨(running_setStage hvisits rfl).trans (hstill rfl hj), rfl⟩
  | count hvisits => exact ⟨(running_setStage hvisits rfl).trans (hstill rfl hj), rfl⟩
  | toolError htools | toolReply htools | toolAnswer htools =>
      exact ⟨(running_tool htools rfl).trans (hstill rfl hj), rfl⟩
  | drop | toolCall => exact ⟨hstill rfl hj, rfl⟩
  | @tell _ t id parent stage failure =>
      have hrunning := running_of_tasks (m := m) (checkStalled_tasks s.plan (m.addActive (-1)))
      have hmem := checkStalled_joins s.plan (m := m.addActive (-1)) hkeys ▸ hj
      exact ⟨hrunning.trans (hends rfl (hgated.outcome nofun) hmem), rfl⟩
  | @conclude _ t id stage failure =>
      have hrunning := running_of_tasks (m := m)
        ((conclude_tasks _ failure).trans (checkStalled_tasks s.plan (m.addActive (-1))))
      cases failure with
      | some f => exact absurd rfl (houtcome f)
      | none =>
          have hmem := checkStalled_joins s.plan (m := m.addActive (-1)) hkeys ▸ hj
          exact ⟨hrunning.trans (hends rfl (hgated.outcome nofun) hmem), rfl⟩

theorem rooted_move (hmove : Move s h m h' m') (hshape : Shape s.plan.graph start h m) (htokens : Tokens h m)
    (hgated : Gated s.plan.graph h m) (hroot : m'.Visits 0 id none .queued) : m'.joins = [] ∧ m'.tasks.length = 1 := by
  have hkeys := htokens.keys
  -- If a task before the first one changes, there is a second one, and the first has begun.
  have hno : ∀ {t stage}, t < m.tasks.length → stage ≠ .queued → ¬(m.setStage t stage).Visits 0 id none .queued := by
    intro t stage hlt hstage hroot
    rcases visits_setStage.mp hroot with ⟨_, heq, _⟩ | ⟨hne, hroot⟩
    · exact hstage heq.symm
    · have hlength := (hgated.rooted hroot).2
      omega
  have hset : ∀ {t} stage, t < m.tasks.length → stage ≠ .queued → m'.tasks = (m.setStage t stage).tasks →
      m'.joins = [] ∧ m'.tasks.length = 1 := fun stage hlt hstage htasks =>
    absurd (hroot.of_tasks htasks.symm) (hno hlt hstage)
  have hadd : ∀ {t q js}, t < m.tasks.length → q ≠ .queued →
      m'.tasks = ((m.setStage t q).addTasks js).tasks →
      m'.joins = [] ∧ m'.tasks.length = 1 := by
    intro t q js hlt hstage htasks
    rcases visits_addTasks.mp (hroot.of_tasks htasks.symm) with hroot | ⟨_, i, _, hlength⟩
    · exact absurd hroot (hno hlt hstage)
    · rw [length_setStage] at hlength
      omega
  have hsame : m'.tasks = m.tasks → (m.joins = [] → m'.joins = []) → m'.joins = [] ∧ m'.tasks.length = 1 := by
    intro htasks hjoins
    obtain ⟨hempty, hlength⟩ := hgated.rooted (hroot.of_tasks htasks.symm)
    exact ⟨hjoins hempty, htasks ▸ hlength⟩
  have hstalled : m.joins = [] → ((m.addActive (-1)).checkStalled s.plan).joins = [] := by
    intro hempty
    rw [checkStalled_joins s.plan (m := m.addActive (-1)) hkeys]
    change (if 0 < m.active + -1 then m.joins else m.joins.map _) = []
    rw [hempty]
    exact ite_self _
  have hlt : ∀ {t p index task stage}, m.Tools t p index task stage → t < m.tasks.length := fun htools =>
    (List.getElem?_eq_some_iff.mp htools).1
  have hhand : ∀ {t}, h.visit? = some t → t < m.tasks.length := fun ht =>
    let ⟨_, _, hvisits⟩ := hshape.hand _ ht
    hvisits.lt
  cases hmove with
  | skip hvisits | refuse hvisits | absent hvisits | enter hvisits | pass hvisits | answer hvisits | resume hvisits
  | spoil hvisits | gather hvisits => exact hset .over hvisits.lt nofun rfl
  | count hvisits => exact hset (.waiting _) hvisits.lt nofun rfl
  | fill hvisits => exact hset (.gathering _ _) hvisits.lt nofun rfl
  | release hvisits => exact hset .over hvisits.lt nofun (setStage_tasks (wake_tasks ..) ..)
  | park hvisits => exact hset .parked hvisits.lt nofun (setStage_tasks (turnAway_tasks ..) ..)
  | turn hvisits => exact hset .over hvisits.lt nofun (setStage_tasks (turned_tasks ..) ..)
  | toolError htools | toolReply htools | toolAnswer htools => exact hset .over (hlt htools) nofun rfl
  | drop | stop | fail | reply | noTools | toolCall => exact hsame rfl fun hempty => hempty
  | tell => exact hsame (checkStalled_tasks ..) hstalled
  | @conclude _ t id stage failure =>
      refine hsame ((conclude_tasks ..).trans (checkStalled_tasks ..)) fun hempty => ?_
      rw [conclude_joins, hstalled hempty]
      exact ite_self _
  | call => exact hset (.calling _) (hhand rfl) nofun rfl
  | spread => exact hadd (q := .waiting _) (hhand rfl) nofun rfl
  | tools => exact hadd (q := .gathering _ _) (hhand rfl) nofun rfl

/-- Every move keeps to it. -/
theorem move (hmove : Move s h m h' m') (hshape : Shape s.plan.graph start h m) (htokens : Tokens h m)
    (hgated : Gated s.plan.graph h m) : Gated s.plan.graph h' m' := by
  have hh : h ≠ .idle := by
    rintro rfl
    cases hmove
  have hactive := active_move hmove hshape htokens hgated.active
  constructor
  case outcome =>
    intro hh'
    rcases outcome_move hmove htokens with hsame | ⟨_, _, _, _, _, hidle, _⟩
    · exact hsame.trans (hgated.outcome hh)
    · exact absurd hidle hh'
  case active => exact hactive
  case rooted => exact fun hroot => hgated.rooted_move hmove hshape htokens hroot
  case gates => exact hgated.gates_move hmove hshape htokens
  case reached => exact hgated.reached_move hmove hshape htokens
  case arrivals => exact fun hk hr hmany => hgated.arrivals_move hmove hshape htokens hk hr hmany
  case idle => exact idle_move hmove htokens hgated.active hgated.idle hactive
  case stalled => exact hgated.stalled_move hmove hshape htokens

end

end Gated
end

end Workflow.Run
