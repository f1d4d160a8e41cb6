import Workflow.Proofs.Visited

/-!
# Workflow.Proofs.Active

The number of active visits is exact.

`active` counts the visits that are about to begin or execute their nodes, and
the visit in hand (`active_move`).  The scheduler changes it at five places,
and each of them changes by as much what there is to count.  So when it falls
to zero no visit can reach a gate any more, unless one that waits for others
begins new ones, which it never does.
-/

namespace Workflow.Run

open Machine

variable {σ : Type}

/-! ## Counting visits that run -/

/-- Does a visit at this stage run by itself? -/
def Stage.isRunning (stage : Stage) : Bool := stage.isQueued || stage.isExecuting

/-- Is the task a visit that runs by itself? -/
def Task.isRunning : Task → Bool
  | ⟨.visit _ _, stage⟩ => stage.isRunning
  | _ => false

/-- The number of visits that run by themselves. -/
def running (m : Machine σ) : Nat := m.tasks.countP Task.isRunning

/-- The visit in hand, counted. -/
def Hand.weight : Hand → Nat
  | .works _ _ => 1
  | .ends _ _ => 1
  | _ => 0

section

variable {h h' : Hand} {m m' : Machine σ} {t : Nat} {id : NodeId} {parent : Option Nat} {stage stage' : Stage}

theorem running_of_tasks (htasks : m'.tasks = m.tasks) : running m' = running m := by
  unfold running
  rw [htasks]

theorem running_setStage (hvisits : m.Visits t id parent stage) (htasks : m'.tasks = (m.setStage t stage').tasks) :
    running m' + stage.isRunning.toNat = running m + stage'.isRunning.toNat := by
  unfold running
  rw [htasks]
  exact countP_setStage hvisits stage'

theorem running_tool {p index : Nat} {task : ToolTask} (htools : m.Tools t p index task stage)
    (htasks : m'.tasks = (m.setStage t .over).tasks) : running m' = running m := by
  unfold running
  rw [htasks]
  have hcount := countP_setStage (p := Task.isRunning) htools .over
  exact hcount

theorem running_addTasks (m : Machine σ) (js : List Job) :
    running (m.addTasks js) = running m + js.countP fun job => Task.isRunning ⟨job, .queued⟩ := by
  unfold running addTasks
  rw [List.countP_append, List.countP_map]
  rfl

theorem running_branches (t : Nat) (ids : List NodeId) :
    (branches t ids).countP (fun job => Task.isRunning ⟨job, .queued⟩) = ids.length := by
  unfold branches
  rw [List.countP_map]
  exact List.countP_eq_length.mpr fun _ _ => rfl

theorem running_toolCalls (t : Nat) (tasks : List ToolTask) :
    (toolCalls t tasks).countP (fun job => Task.isRunning ⟨job, .queued⟩) = 0 := by
  refine List.countP_eq_zero.mpr fun job hjob => ?_
  obtain ⟨i, hi, rfl⟩ := List.mem_mapIdx.mp hjob
  exact Bool.false_ne_true

theorem running_fanOut (hvisits : m.Visits t id parent stage) (ids : List NodeId) :
    running (m.fanOut t ids) + stage.isRunning.toNat = running m + ids.length := by
  have hadd := running_addTasks ((m.setStage t (.waiting ids.length)).addActive (ids.length - 1)) (branches t ids)
  have hset : running ((m.setStage t (.waiting ids.length)).addActive (ids.length - 1)) + stage.isRunning.toNat =
      running m + (Stage.waiting ids.length).isRunning.toNat := running_setStage hvisits rfl
  have hwaiting : (Stage.waiting ids.length).isRunning = false := rfl
  rw [running_branches] at hadd
  rw [hwaiting, Bool.toNat_false] at hset
  change running (((m.setStage t (.waiting ids.length)).addActive (ids.length - 1)).addTasks (branches t ids)) + _ = _
  omega

theorem running_beginTools (hvisits : m.Visits t id parent stage) (tasks : List ToolTask)
    (next : Except Problem (List Value) → World → Step Value) :
    running (m.beginTools t tasks next) + stage.isRunning.toNat = running m + 1 := by
  unfold beginTools
  rw [running_addTasks, running_toolCalls, Nat.add_zero]
  exact running_setStage hvisits rfl

theorem checkStalled_active (plan : Plan) (hkeys : (m.joins.map (·.id.key)).Nodup) :
    (m.checkStalled plan).active = m.active :=
  checkStalled_same plan hkeys (·.active) fun _ => rfl

theorem turnAway_active (plan : Plan) (hkeys : (m.joins.map (·.id.key)).Nodup) (j : Join) :
    (m.turnAway plan j).active = m.active + -1 :=
  turnAway_same plan hkeys j (·.active) fun _ => rfl

theorem turned_active (plan : Plan) (hkeys : (m.joins.map (·.id.key)).Nodup) (j : Join) (records : List Record) :
    (((m.turnAway plan j).addActive 1).withRecords records).active = m.active := by
  have hturned := turnAway_active plan hkeys j
  generalize m.turnAway plan j = m' at *
  change m'.active + 1 = m.active
  omega

theorem wake_active (m : Machine σ) (j : Join) : (m.wake j).active = m.active := by
  rw [wake_eq]

/-- The count of active visits stays exact. -/
theorem active_move {s : Setup σ} {start : Node} (hmove : Move s h m h' m') (hshape : Shape s.plan.graph start h m)
    (htokens : Tokens h m) (hactive : m.active = running m + h.weight) : m'.active = running m' + h'.weight := by
  have hkeys := htokens.keys
  -- `d` is what the scheduler adds; the rest is one visit that changes its stage or its hand.
  have hchange : ∀ (d : Int) {b a : Bool}, running m' + b.toNat = running m + a.toNat →
      m'.active = m.active + d → d + h.weight + b.toNat = h'.weight + a.toNat →
      m'.active = running m' + h'.weight := by
    intro d b a hrunning hadded hsum
    omega
  have hsame : m'.active = m.active → m'.active = m.active + 0 := fun heq => heq.trans (Int.add_zero _).symm
  cases hmove with
  | skip hvisits | refuse hvisits | absent hvisits =>
      obtain ⟨rfl, _⟩ := htokens.begun hvisits
      exact hchange 0 (running_setStage hvisits rfl) (hsame rfl) rfl
  | enter hvisits =>
      obtain ⟨rfl, _⟩ := htokens.begun hvisits
      exact hchange 0 (running_setStage hvisits rfl) (hsame rfl) rfl
  | release hvisits =>
      obtain ⟨rfl, _⟩ := htokens.begun hvisits
      exact hchange 0 (running_setStage hvisits (setStage_tasks (wake_tasks ..) ..)) (hsame (wake_active ..)) rfl
  | park hvisits =>
      obtain ⟨rfl, _⟩ := htokens.begun hvisits
      exact hchange (-1) (running_setStage hvisits (setStage_tasks (turnAway_tasks ..) _ .parked))
        (turnAway_active _ hkeys _) rfl
  | @turn _ _ _ _ _ _ _ records hvisits =>
      obtain ⟨rfl, _⟩ := htokens.begun hvisits
      exact hchange 0 (running_setStage hvisits (setStage_tasks (turned_tasks ..) ..)) 
        (hsame (turned_active s.plan hkeys _ records)) rfl
  | pass hvisits =>
      obtain ⟨rfl, _⟩ := htokens.passed hvisits
      exact hchange 1 (running_setStage hvisits rfl) rfl rfl
  | answer hvisits | spoil hvisits | gather hvisits =>
      exact hchange 0 (running_setStage hvisits rfl) (hsame rfl) rfl
  | count hvisits | fill hvisits => exact hchange 0 (running_setStage hvisits rfl) (hsame rfl) rfl
  | resume hvisits => exact hchange 1 (running_setStage hvisits rfl) rfl rfl
  | drop | toolCall => exact hactive
  | toolError htools | toolReply htools | toolAnswer htools =>
      exact hactive.trans (congrArg (fun n : Nat => (n : Int) + 0) (Eq.symm (running_tool htools rfl)))
  | fail | stop | reply | noTools => exact hactive
  | @spread _ t id _ _ n w v hvisits =>
      obtain ⟨_, _, hover⟩ := hshape.hand t rfl
      generalize s.plan.graph.targets n (w.look (selectedHandle v)) = ids
      have hrunning : running ({ m with world := w }.fanOut t ids) = running m + ids.length :=
        running_fanOut (m := { m with world := w }) hover ids
      have hbefore : m.active = (running m : Int) + 1 := hactive
      change m.active + ((ids.length : Int) - 1) = (running ({ m with world := w }.fanOut t ids) : Int) + 0
      omega
  | @call _ t =>
      obtain ⟨_, _, hover⟩ := hshape.hand t rfl
      exact hchange 0 (running_setStage hover rfl) (hsame rfl) rfl
  | @tools _ t w tasks next =>
      obtain ⟨_, _, hover⟩ := hshape.hand t rfl
      have hrunning := running_beginTools (m := { m with world := w }) hover tasks next
      exact hchange 0 (b := false) (a := true) hrunning (hsame rfl) rfl
  | @tell _ t id parent stage failure =>
      have hchecked := checkStalled_active s.plan (m := m.addActive (-1)) hkeys
      have hrunning := running_of_tasks (checkStalled_tasks s.plan (m.addActive (-1)))
      exact hchange (-1) (b := false) (a := false) hrunning hchecked rfl
  | @conclude _ t id stage failure =>
      have hchecked := checkStalled_active s.plan (m := m.addActive (-1)) hkeys
      have hrunning := running_of_tasks
        ((conclude_tasks _ failure).trans (checkStalled_tasks s.plan (m.addActive (-1))))
      refine hchange (-1) (b := false) (a := false) hrunning (Eq.trans ?_ hchecked) rfl
      cases failure <;> rfl

end
end Workflow.Run
