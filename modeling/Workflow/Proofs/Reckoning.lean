import Workflow.Proofs.Runs

/-!
# Workflow.Proofs.Reckoning

The number of active visits tells what is going on, failures or not.

Whatever collaborators answer and however late, `active` is the number of visits
that go on by themselves: those that have been begun, are not over, are not parked
at a gate and do not wait for the visits behind them (`Exact`).  So it is never
negative, and where it is zero every gate is open.

A run that fails does not stop the visits that are still going on.  The gates are
opened and the machine works on (`Machine.linger`), with nobody to hear of it; the
count stays exact there too (`Launch.active_exact`).
-/

namespace Workflow.Run

open Machine

variable {σ : Type}

/-! ## What is counted -/

/-- Does a visit at this stage go on by itself?  A parked visit does not until it has
left its gate, be it that the gate is open by now; and one that waits does not until
it has heard of the last of the visits behind it. -/
def Stage.goesOn : Stage → Bool
  | .queued | .calling _ | .gathering _ _ => true
  | .parked | .waiting _ | .over => false

/-- Is the task a visit that goes on by itself? -/
def Task.goesOn : Task → Bool
  | ⟨.visit _ _, stage⟩ => stage.goesOn
  | _ => false

/-- Between two events the number of active visits is exact.  Parked visits are named
once, by the join they are parked at or by the event that lets them go. -/
structure Exact (m : Machine σ) : Prop where
  count : m.active = m.tasks.countP Task.goesOn
  nonneg : 0 ≤ m.active
  released : m.active = 0 → ∀ j ∈ m.joins, j.gate.released = true
  named : ∀ {t id parent}, m.Visits t id parent .parked → m.ready.countP (Event.passes t) + parkings m.joins t = 1

theorem running_eq (m : Machine σ) : running m = m.tasks.countP Task.goesOn := by
  have hsame : ∀ task : Task, task.isRunning = task.goesOn := by
    rintro ⟨job, stage⟩
    cases job with
    | visit id parent => cases stage <;> rfl
    | whole | tool => rfl
  exact List.countP_congr fun task _ => by rw [hsame]

/-! ## What every move keeps -/

/-- What the count of active visits hangs on. -/
structure Counted (s : Setup σ) (start : Node) (h : Hand) (m : Machine σ) : Prop where
  shape : Shape s.plan.graph start h m
  tokens : Tokens h m
  active : m.active = running m + h.weight
  released : m.active ≤ 0 → ∀ j ∈ m.joins, j.gate.released = true

namespace Counted

variable {s : Setup σ} {start : Node} {h h' : Hand} {m m' : Machine σ} {e : Event}

theorem takes (htakes : Takes m e m') (hcounted : Counted s start .idle m) : Counted s start (.holds e) m' where
  shape := hcounted.shape.takes htakes
  tokens := hcounted.tokens.takes htakes
  active := by
    rw [htakes.active, running_of_tasks htakes.tasks]
    exact hcounted.active
  released := by
    rw [htakes.active, htakes.joins]
    exact hcounted.released

theorem move (hmove : Move s h m h' m') (hcounted : Counted s start h m) : Counted s start h' m' :=
  have hactive := active_move hmove hcounted.shape hcounted.tokens hcounted.active
  { shape := hcounted.shape.move hmove
    tokens := hcounted.tokens.move hmove hcounted.shape
    active := hactive
    released := Gated.idle_move hmove hcounted.tokens hcounted.active hcounted.released hactive }

theorem step (hstep : Machine.step s m = some m') (hcounted : Counted s start .idle m) : Counted s start .idle m' :=
  step_induct (fun h => h.shape.plain) takes move hstep hcounted

theorem run (hcounted : Counted s start .idle m) (k : Nat) : Counted s start .idle (m.run s k) := by
  induction k generalizing m with
  | zero => exact hcounted
  | succ k ih =>
    unfold Machine.run
    cases hstep : Machine.step s m with
    | none => exact hcounted
    | some m' => exact ih (hcounted.step hstep)

theorem toExact (hcounted : Counted s start .idle m) : Exact m := by
  have hcount : m.active = running m + (0 : Nat) := hcounted.active
  refine ⟨?_, by omega, fun hzero => hcounted.released hzero.le, fun hparked => ?_⟩
  · rw [← running_eq]
    omega
  · rw [← passes_idle]
    exact hcounted.tokens.pass hparked

end Counted

theorem Sound.counted {s : Setup σ} {start : Node} {m : Machine σ} (hsound : Sound s start .idle m) :
    Counted s start .idle m :=
  ⟨hsound.shape, hsound.tokens, hsound.gated.active, hsound.gated.idle⟩

/-! ## After a failure -/

namespace Machine

/-- The machine once a run has failed: nobody stops what is still going on, and the
visits that were parked go on, all gates being open. -/
def linger (m : Machine σ) : Machine σ :=
  { m with
    outcome := none
    joins := m.joins.map fun j => { j with parked := [] }
    ready := m.ready ++ (m.joins.flatMap (·.parked)).map .pass }

end Machine

theorem frees_linger (m : Machine σ) : Frees m m.linger := by
  have hids : m.linger.joins.map (·.id.key) = m.joins.map (·.id.key) := List.map_map
  have hleft : ∀ t, parkings m.linger.joins t = 0 := fun t => by simp [parkings, linger, Function.comp_def]
  have hgone : ∀ t, (m.joins.flatMap (·.parked)).count t = parkings m.joins t := fun t => List.count_flatMap
  refine ⟨fun hkeys => hids ▸ hkeys, fun t => ?_, fun _ t => ?_⟩
  · rw [starts_idle, starts_idle]
    unfold linger
    rw [List.countP_append, countP_starts_pass, Nat.add_zero]
  · rw [passes_idle, passes_idle, hleft]
    unfold linger
    rw [List.countP_append, countP_passes_pass, hgone, Nat.add_zero]

theorem Counted.linger {s : Setup σ} {start : Node} {m : Machine σ} (hcounted : Counted s start .idle m) :
    Counted s start .idle m.linger where
  shape := ⟨hcounted.shape.tree, hcounted.shape.plain, nofun⟩
  tokens := hcounted.tokens.same_tasks (frees_linger m) rfl rfl fun _ he => by cases he
  active := hcounted.active
  released hidle j hj := by
    obtain ⟨i, hi, rfl⟩ := List.mem_map.mp hj
    exact hcounted.released hidle i hi

namespace Launch

/-- In every state of every run the number of active visits is the number of visits
that go on by themselves; it is never negative, and where it is zero all gates are
open.  So it remains as what a failed run has left behind works on. -/
theorem active_exact (l : Launch σ) (k : Nat) : Exact (l.state k) ∧
    ∀ f, (l.state k).outcome = some (.error f) → ∀ j, Exact ((l.state k).linger.run l.setup j) :=
  have hcounted := (l.sound k).counted
  ⟨hcounted.toExact, fun _ _ j => (hcounted.linger.run j).toExact⟩

end Launch

/-- Of three branches one is parked at a gate, one waits for a collaborator, and one
fails. -/
def tornGraph : Graph where
  nodes := [sampleStart, sampleNode "quick" .state [],
    sampleNode "slow" .tool [("type", .str "built-in"), ("tool", .record [("id", .str "t")])],
    sampleNode "idle" .tool [], sampleNode "join" .state []]
  edges := [sampleEdge "in" "quick", sampleEdge "in" "slow", sampleEdge "in" "idle", sampleEdge "quick" "join",
    sampleEdge "slow" "join"]
  keys_nodup := by decide +kernel
  ends_mem := by decide +kernel

/-- A run of it. -/
def tornRun : Launch Unit := sampleRun tornGraph rfl

/-- Has the run failed? -/
def hasFailed (m : Machine σ) : Bool :=
  match m.outcome with
  | some (.error _) => true
  | _ => false

/-- As the run fails, the branch that waits for the collaborator is counted and the
one at the gate is not; both are done in the end, and the count goes down to zero. -/
theorem tornRun_exact : ∃ f, (tornRun.state 6).outcome = some (.error f) ∧ (tornRun.state 6).active = 1 ∧
    (tornRun.state 6).joins.map (·.parked) = [[4]] ∧ Exact (tornRun.state 6) ∧
    (∀ j, Exact ((tornRun.state 6).linger.run tornRun.setup j)) ∧
    ((tornRun.state 6).linger.run tornRun.setup 9).active = 0 := by
  obtain ⟨f, hf⟩ : ∃ f, (tornRun.state 6).outcome = some (.error f) := by
    have hfailed : hasFailed (tornRun.state 6) = true := by decide +kernel
    unfold hasFailed at hfailed
    split at hfailed
    next f hf => exact ⟨f, hf⟩
    next => cases hfailed
  obtain ⟨hexact, hlinger⟩ := tornRun.active_exact 6
  exact ⟨f, hf, by decide +kernel, by decide +kernel, hexact, hlinger f hf, by decide +kernel⟩

end Workflow.Run
