import Workflow.Proofs.Failures

/-!
# Workflow.Proofs.Debts

What a visit waits for is still to come.

A visit that waits knows how many of the visits it began have not told their
end yet (`Stage.left`).  Each of these either is unfinished, is in hand, or has
told its end by an event that has not been handled (`owed`).  In a run without
failures the two numbers agree for every visit (`Debts`), so nobody waits for
somebody who is gone, and nobody goes on too early.
-/

namespace Workflow.Run

open Machine

variable {σ : Type}

/-! ## What is owed -/

/-- Is the task done with? -/
def Stage.isOver : Stage → Bool
  | .over => true
  | _ => false

/-- The number of visits that a visit at this stage waits for. -/
def Stage.left : Stage → Nat
  | .waiting n => n
  | _ => 0

/-- Is it the visit of a node, begun by the given visit? -/
def Job.isBranchOf (p : Nat) : Job → Bool
  | .visit _ (some q) => q == p
  | _ => false

/-- Is the task an unfinished visit begun by the given one? -/
def Task.isOwedTo (p : Nat) (task : Task) : Bool := task.job.isBranchOf p && !task.stage.isOver

/-- Does the event tell the visit that one it began has ended? -/
def Event.endsFor (p : Nat) : Event → Bool
  | .ended q _ => q == p
  | _ => false

/-- How many unfinished visits a visit has begun. -/
def unfinished (m : Machine σ) (p : Nat) : Nat := m.tasks.countP (Task.isOwedTo p)

/-- How many visits that the given one has begun are in hand: one or none. -/
def held (h : Hand) (m : Machine σ) (p : Nat) : Nat :=
  ((h.visit?.bind fun t => m.jobs[t]?).any (Job.isBranchOf p)).toNat

/-- How many ends of visits it began a visit has not been told yet. -/
def untold (h : Hand) (m : Machine σ) (p : Nat) : Nat := (pending h m).countP (Event.endsFor p)

/-- How many of the visits that a visit has begun it has not heard of. -/
def owed (h : Hand) (m : Machine σ) (p : Nat) : Nat := unfinished m p + held h m p + untold h m p

/-- How many visits a task waits for. -/
def left (m : Machine σ) (p : Nat) : Nat :=
  match m.tasks[p]? with
  | some ⟨.visit _ _, stage⟩ => stage.left
  | _ => 0

/-- What the given visit waits for and what it has not heard of change alike. -/
def Balanced (h : Hand) (m : Machine σ) (h' : Hand) (m' : Machine σ) (p : Nat) : Prop :=
  owed h' m' p + left m p = owed h m p + left m' p

/-- Whoever waits waits for one visit at least. -/
def Expectant (m : Machine σ) : Prop := ∀ t id parent n, m.Visits t id parent (.waiting n) → 1 ≤ n

/-- Every visit waits for as many visits as it has not heard of, and for one at
least. -/
structure Debts (h : Hand) (m : Machine σ) : Prop where
  owed : ∀ p, owed h m p = left m p
  positive : Expectant m

/-- The visit has ended, and is not in hand to be executed. -/
def Retired (h : Hand) (m : Machine σ) (p : Nat) : Prop :=
  h.works? ≠ some p ∧ ∃ id parent, m.Visits p id parent .over

/-- Every visit that has not ended waits for as many visits as it has not heard
of.  One that a failure has ended may still be told things. -/
structure Dues (h : Hand) (m : Machine σ) : Prop where
  owed : ∀ p, ¬Retired h m p → owed h m p = left m p
  positive : Expectant m

section

variable {h h' : Hand} {m m' : Machine σ} {t : Nat} {id : NodeId} {parent : Option Nat} {stage stage' : Stage}

theorem left_eq (hvisits : m.Visits t id parent stage) : left m t = stage.left := by
  unfold left
  rw [hvisits]

theorem unfinished_setStage (hvisits : m.Visits t id parent stage) (htasks : m'.tasks = (m.setStage t stage').tasks)
    (p : Nat) :
    unfinished m' p + ((Job.visit id parent).isBranchOf p && !stage.isOver).toNat =
      unfinished m p + ((Job.visit id parent).isBranchOf p && !stage'.isOver).toNat := by
  unfold unfinished
  rw [htasks]
  exact countP_setStage hvisits stage'

theorem left_setStage (hvisits : m.Visits t id parent stage) (htasks : m'.tasks = (m.setStage t stage').tasks)
    (p : Nat) : left m' p = if p = t then stage'.left else left m p := by
  unfold left
  rw [htasks, getElem?_setStage]
  by_cases hp : p = t
  · rw [if_pos hp, if_pos hp, hp, hvisits]
    rfl
  · rw [if_neg hp, if_neg hp]

theorem held_visit (hh : h.visit? = some t) (hvisits : m.Visits t id parent stage) (p : Nat) :
    held h m p = ((Job.visit id parent).isBranchOf p).toNat := by
  unfold held
  rw [hh, Option.bind_some, hvisits.job]
  rfl

theorem held_none (hh : h.visit? = none) (m : Machine σ) (p : Nat) : held h m p = 0 := by
  unfold held
  rw [hh]
  rfl

theorem untold_holds (e : Event) (m : Machine σ) (p : Nat) :
    untold (.holds e) m p = (e.endsFor p).toNat + untold .idle m p := by
  unfold untold pending
  simp only [Hand.event?, Option.toList_some, Option.toList_none, List.nil_append, List.singleton_append,
    List.countP_cons]
  cases e.endsFor p
  · simp
  · simp [Nat.add_comm]

theorem untold_empty (hh : h.event? = none) (m : Machine σ) (p : Nat) : untold h m p = untold .idle m p := by
  unfold untold pending
  rw [hh]
  rfl

/-- Where the queue only gets other events. -/
theorem untold_append {es : List Event} (hready : m'.ready = m.ready ++ es)
    (hes : ∀ p failure, .ended p failure ∉ es) (p : Nat) : untold .idle m' p = untold .idle m p := by
  have hnone : es.countP (Event.endsFor p) = 0 := by
    refine List.countP_eq_zero.mpr fun e he => ?_
    cases e with
    | ended q failure => exact absurd he (hes q failure)
    | _ => exact Bool.false_ne_true
  change m'.ready.countP (Event.endsFor p) = m.ready.countP (Event.endsFor p)
  rw [hready, List.countP_append, hnone, Nat.add_zero]

/-! ## How that changes -/

/-- One visit changes its stage, and what is in hand or told of it changes
with that. -/
theorem balanced_restage {p : Nat} (hvisits : m.Visits t id parent stage) (htasks : m'.tasks = (m.setStage t stage').tasks)
    (hbalance : held h' m' p + untold h' m' p + ((Job.visit id parent).isBranchOf p && !stage'.isOver).toNat +
        (if p = t then stage.left else 0) =
      held h m p + untold h m p + ((Job.visit id parent).isBranchOf p && !stage.isOver).toNat +
        (if p = t then stage'.left else 0)) : Balanced h m h' m' p := by
  have hunfinished := unfinished_setStage hvisits htasks p
  unfold Balanced owed
  rw [left_setStage hvisits htasks]
  by_cases hp : p = t
  · rw [if_pos hp, if_pos hp] at hbalance
    rw [if_pos hp, hp, left_eq hvisits]
    rw [hp] at hbalance hunfinished
    omega
  · rw [if_neg hp, if_neg hp] at hbalance
    rw [if_neg hp]
    omega

/-- A visit that does not wait for others is taken in hand. -/
theorem balanced_take_up {p : Nat} (hvisits : m.Visits t id parent stage) (htasks : m'.tasks = (m.setStage t .over).tasks)
    (hh : h.visit? = none) (hh' : h'.visit? = some t) (hover : stage.isOver = false) (hleft : stage.left = 0)
    (huntold : untold h' m' p = untold h m p) : Balanced h m h' m' p := by
  refine balanced_restage hvisits htasks ?_
  have hvisits' : m'.Visits t id parent .over := (hvisits.setStage .over).of_tasks htasks
  rw [huntold, held_visit hh' hvisits', held_none hh, hover, hleft]
  simp [Stage.isOver, Stage.left, Nat.add_comm]

/-- A visit in hand goes to a stage at which it does not wait for others. -/
theorem balanced_put_back {p : Nat} (hvisits : m.Visits t id parent .over) (htasks : m'.tasks = (m.setStage t stage').tasks)
    (hh : h.visit? = some t) (hh' : h'.visit? = none) (hover : stage'.isOver = false) (hleft : stage'.left = 0)
    (huntold : untold h' m' p = untold h m p) : Balanced h m h' m' p := by
  refine balanced_restage hvisits htasks ?_
  rw [huntold, held_visit hh hvisits, held_none hh', hover, hleft]
  simp [Stage.isOver, Stage.left, Nat.add_comm]

/-- Nothing changes that matters. -/
theorem balanced_same {p : Nat} (htasks : m'.tasks = m.tasks) (hh : h'.visit? = h.visit?)
    (huntold : untold h' m' p = untold h m p) : Balanced h m h' m' p := by
  unfold Balanced owed unfinished held left Machine.jobs
  rw [htasks, hh, huntold]

/-- Tool calls owe nothing. -/
theorem balanced_tool {p : Nat} {q index : Nat} {task : ToolTask} (htools : m.Tools t q index task stage)
    (htasks : m'.tasks = (m.setStage t .over).tasks) (hh : h.visit? = none) (hh' : h'.visit? = none)
    (huntold : untold h' m' p = untold h m p) : Balanced h m h' m' p := by
  have hunfinished : unfinished m' p = unfinished m p := by
    unfold unfinished
    rw [htasks]
    have hcount := countP_setStage (p := Task.isOwedTo p) htools .over
    exact hcount
  have hleft : left m' p = left m p := by
    unfold left
    rw [htasks, getElem?_setStage]
    by_cases hp : p = t
    · rw [if_pos hp, hp, htools]
      rfl
    · rw [if_neg hp]
  unfold Balanced owed
  rw [hunfinished, held_none hh', held_none hh, huntold, hleft]

theorem unfinished_addTasks (m : Machine σ) (js : List Job) (p : Nat) :
    unfinished (m.addTasks js) p = unfinished m p + js.countP (Job.isBranchOf p) := by
  unfold unfinished addTasks
  rw [List.countP_append, List.countP_map]
  refine congrArg (_ + ·) (List.countP_congr fun job _ => ?_)
  simp [Task.isOwedTo, Stage.isOver]

theorem left_addTasks (m : Machine σ) (js : List Job) (p : Nat) : left (m.addTasks js) p = left m p := by
  unfold left
  rw [getElem?_addTasks]
  by_cases hp : p < m.tasks.length
  · rw [if_pos hp]
  · rw [if_neg hp, List.getElem?_eq_none (Nat.le_of_not_lt hp)]
    rcases js[p - m.tasks.length]? with _ | _ | _ | _ <;> rfl

theorem countP_branches (t : Nat) (ids : List NodeId) (p : Nat) :
    (branches t ids).countP (Job.isBranchOf p) = if p = t then ids.length else 0 := by
  unfold branches
  rw [List.countP_map]
  by_cases hp : p = t
  · rw [if_pos hp]
    exact List.countP_eq_length.mpr fun _ _ => by simp [Job.isBranchOf, hp]
  · rw [if_neg hp]
    exact List.countP_eq_zero.mpr fun _ _ => by simp [Job.isBranchOf, Ne.symm hp]

theorem countP_toolCalls (t : Nat) (tasks : List ToolTask) (p : Nat) :
    (toolCalls t tasks).countP (Job.isBranchOf p) = 0 := by
  refine List.countP_eq_zero.mpr fun job hjob => ?_
  obtain ⟨i, hi, rfl⟩ := List.mem_mapIdx.mp hjob
  exact Bool.false_ne_true

/-- New tasks begin, among them as many visits as the one that begins them
waits for. -/
theorem balanced_addTasks {p : Nat} {work : Step Value} (m₁ : Machine σ) (js : List Job) (hvisits : m.Visits t id parent .over)
    (htasks : m₁.tasks = (m.setStage t stage').tasks) (hover : stage'.isOver = false)
    (hjs : js.countP (Job.isBranchOf p) = if p = t then stage'.left else 0)
    (huntold : untold .idle (m₁.addTasks js) p = untold (.works t work) m p) :
    Balanced (.works t work) m .idle (m₁.addTasks js) p := by
  have hunfinished := unfinished_setStage hvisits htasks p
  unfold Balanced owed
  rw [left_addTasks, left_setStage hvisits htasks, unfinished_addTasks, hjs, huntold, held_none rfl, held_visit rfl hvisits]
  rw [hover] at hunfinished
  simp only [Stage.isOver, Bool.not_true, Bool.and_false, Bool.toNat_false, Bool.not_false, Bool.and_true,
    Nat.add_zero] at hunfinished
  by_cases hp : p = t
  · rw [hp] at hunfinished ⊢
    rw [if_pos rfl, if_pos rfl, left_eq hvisits]
    simp only [Stage.left]
    omega
  · rw [if_neg hp, if_neg hp]
    omega

/-! ## News -/

/-- A visit hears that one of those it waits for has ended, and goes on waiting. -/
theorem balanced_count {n p : Nat} (hvisits : m.Visits t id parent (.waiting n)) (hmany : 1 < n) :
    Balanced (.holds (.ended t none)) m .idle (m.setStage t (.waiting (n - 1))) p := by
  refine balanced_restage hvisits rfl ?_
  rw [untold_holds, held_none rfl, held_none rfl]
  have hsame : untold .idle (m.setStage t (.waiting (n - 1))) p = untold .idle m p := rfl
  rw [hsame]
  by_cases hp : p = t
  · simp only [hp, Event.endsFor, beq_self_eq_true, Bool.toNat_true, Stage.left, Stage.isOver, if_true]
    omega
  · simp only [Event.endsFor, beq_false_of_ne (Ne.symm hp), Bool.toNat_false, hp, if_false, Stage.isOver]
    omega

/-- A visit hears of the last end it waits for, and is about to end itself. -/
theorem balanced_resume {n p : Nat} {failure : Option Failure} (hvisits : m.Visits t id parent (.waiting n))
    (hone : p = t → n = 1) :
    Balanced (.holds (.ended t failure)) m (.ends t failure) ((m.addActive 1).setStage t .over) p := by
  refine balanced_restage hvisits (rfl : _ = (m.setStage t .over).tasks) ?_
  have hover : ((m.addActive 1).setStage t .over).Visits t id parent .over :=
    Visits.setStage (m := m.addActive 1) hvisits .over
  rw [untold_holds, held_none (h := .holds _) rfl, held_visit rfl hover]
  have hsame : untold (.ends t failure) ((m.addActive 1).setStage t .over) p = untold .idle m p := rfl
  rw [hsame]
  by_cases hp : p = t
  · subst hp
    simp only [hone rfl, Event.endsFor, beq_self_eq_true, Bool.toNat_true, Stage.left, Stage.isOver, if_true,
      Bool.not_true, Bool.and_false, Bool.toNat_false, Bool.not_false, Bool.and_true]
    omega
  · simp only [Event.endsFor, beq_false_of_ne (Ne.symm hp), Bool.toNat_false, hp, if_false, Stage.isOver,
      Bool.not_true, Bool.and_false, Bool.not_false, Bool.and_true]
    omega

/-- An event that comes too late tells nobody who waits of an end. -/
theorem balanced_drop {e : Event} {p : Nat} (hstale : m.Stale e)
    (hnews : ∀ failure, e = .ended p failure → ∃ id parent n, m.Visits p id parent (.waiting n)) :
    Balanced (.holds e) m .idle m p := by
  have hother : e.endsFor p = false := by
    cases e with
    | ended q failure =>
        by_cases hq : q = p
        · subst hq
          obtain ⟨id, parent, n, hvisits⟩ := hnews failure rfl
          exact absurd hvisits (hstale id parent n)
        · simpa [Event.endsFor] using hq
    | _ => rfl
  refine balanced_same rfl rfl ?_
  rw [untold_holds, hother, Bool.toNat_false, Nat.zero_add]

/-- The end of a visit is told to the one that began it. -/
theorem balanced_tell {q p : Nat} {failure : Option Failure} {plan : Plan} (hkeys : (m.joins.map (·.id.key)).Nodup)
    (hvisits : m.Visits t id (some q) stage) :
    Balanced (.ends t failure) m .idle (((m.addActive (-1)).checkStalled plan).push [.ended q failure]) p := by
  obtain ⟨ts, hts⟩ := checkStalled_ready plan (m := m.addActive (-1)) hkeys
  have htasks := checkStalled_tasks plan (m.addActive (-1))
  generalize (m.addActive (-1)).checkStalled plan = m₁ at *
  have hcount : untold .idle (m₁.push [.ended q failure]) p = untold .idle m p + (q == p).toNat := by
    have hquiet : untold .idle m₁ p = untold .idle m p := untold_append hts (fun q f hmem => by
      obtain ⟨_, _, hfalse⟩ := List.mem_map.mp hmem
      cases hfalse) p
    change (m₁.ready ++ [Event.ended q failure]).countP (Event.endsFor p) = _
    rw [List.countP_append, List.countP_singleton, ← hquiet]
    cases hp : q == p <;> simp [Event.endsFor, hp, untold, pending, Hand.event?]
  have hunfinished : unfinished (m₁.push [.ended q failure]) p = unfinished m p :=
    congrArg (List.countP (Task.isOwedTo p)) htasks
  have hleft : left (m₁.push [.ended q failure]) p = left m p := by
    unfold left
    rw [show (m₁.push [.ended q failure]).tasks = m.tasks from htasks]
  unfold Balanced owed
  rw [hcount, hunfinished, hleft, held_none rfl, held_visit rfl hvisits, untold_empty (h := .ends t failure) rfl]
  simp only [Job.isBranchOf]
  omega

/-- The end of the first visit is told to nobody. -/
theorem balanced_conclude {p : Nat} {failure : Option Failure} (hvisits : m.Visits t id none stage)
    (htasks : m'.tasks = m.tasks) (huntold : untold .idle m' p = untold .idle m p) :
    Balanced (.ends t failure) m .idle m' p := by
  unfold Balanced owed unfinished left
  rw [huntold, held_none rfl, htasks, held_visit rfl hvisits]
  rfl

/-- What is untold stays so, unless a visit ends or the end of one is in hand. -/
theorem Move.untold {s : Setup σ} (hmove : Move s h m h' m') (htokens : Tokens h m) {p : Nat}
    (hends : ∀ t failure, h ≠ .ends t failure) (hevent : ∀ e, h.event? = some e → e.endsFor p = false) :
    untold h' m' p = untold h m p := by
  obtain ⟨es, hready, _, hended⟩ := hmove.ready htokens
  have hother : ∀ q failure, .ended q failure ∉ es := fun q failure hmem =>
    let ⟨_, _, _, hh, _⟩ := hended q failure hmem
    hends _ _ hh
  rw [untold_empty hmove.empty, untold_append hready hother]
  cases h with
  | holds e => rw [untold_holds, hevent e rfl, Bool.toNat_false, Nat.zero_add]
  | _ => rfl

/-- What a visit waits for and what it has not heard of change alike by every
move, but for news of a failure and news that come too late. -/
theorem Move.balanced {s : Setup σ} {start : Node} (hmove : Move s h m h' m') (hsound : Sound s start h m)
    (hpositive : Expectant m) {p : Nat}
    (hnews : ∀ failure, h = .holds (.ended p failure) →
      failure = none ∧ ∃ id parent n, m.Visits p id parent (.waiting n)) : Balanced h m h' m' p := by
  have huntold : (∀ t failure, h ≠ .ends t failure) → (∀ e, h.event? = some e → e.endsFor p = false) →
      Run.untold h' m' p = Run.untold h m p := hmove.untold hsound.tokens
  have hhand : ∀ {t}, h.visit? = some t → ∃ id parent, m.Visits t id parent .over := fun ht => hsound.shape.hand _ ht
  obtain ⟨es, hready, _, hended⟩ := hmove.ready hsound.tokens
  cases hmove with
  | skip hvisits | refuse hvisits | absent hvisits | enter hvisits =>
      obtain ⟨rfl, _⟩ := hsound.tokens.begun hvisits
      exact balanced_take_up hvisits rfl rfl rfl rfl rfl
        (huntold (fun _ _ => Hand.noConfusion) fun e he => by cases he; rfl)
  | release hvisits =>
      obtain ⟨rfl, _⟩ := hsound.tokens.begun hvisits
      exact balanced_take_up hvisits (setStage_tasks (wake_tasks ..) ..) rfl rfl rfl rfl
        (huntold (fun _ _ => Hand.noConfusion) fun e he => by cases he; rfl)
  | turn hvisits =>
      obtain ⟨rfl, _⟩ := hsound.tokens.begun hvisits
      exact balanced_take_up hvisits (setStage_tasks (turned_tasks ..) ..) rfl rfl rfl rfl
        (huntold (fun _ _ => Hand.noConfusion) fun e he => by cases he; rfl)
  | pass hvisits =>
      obtain ⟨rfl, _⟩ := hsound.tokens.passed hvisits
      exact balanced_take_up hvisits rfl rfl rfl rfl rfl
        (huntold (fun _ _ => Hand.noConfusion) fun e he => by cases he; rfl)
  | answer hvisits | spoil hvisits | gather hvisits =>
      exact balanced_take_up hvisits rfl rfl rfl rfl rfl
        (huntold (fun _ _ => Hand.noConfusion) fun e he => by cases he; rfl)
  | park hvisits =>
      obtain ⟨rfl, _⟩ := hsound.tokens.begun hvisits
      refine balanced_restage hvisits (setStage_tasks (turnAway_tasks ..) _ .parked) ?_
      rw [huntold (fun _ _ => Hand.noConfusion) fun e he => by cases he; rfl]
      rfl
  | @fill _ t id parent slots next index v hvisits =>
      refine balanced_restage hvisits (rfl : _ = (m.setStage t (.gathering _ next)).tasks) ?_
      rw [huntold (fun _ _ => Hand.noConfusion) fun e he => by cases he; rfl]
      rfl
  | count hvisits hmany => exact balanced_count hvisits hmany
  | @resume _ t id parent n failure hvisits hlast =>
      refine balanced_resume hvisits fun hp => ?_
      subst hp
      obtain ⟨rfl, _⟩ := hnews failure rfl
      have hsome := hpositive _ _ _ _ hvisits
      rcases hlast with hfalse | hfew
      · cases hfalse
      · omega
  | drop hstale => exact balanced_drop hstale fun failure he => (hnews failure (congrArg Hand.holds he)).2
  | toolError htools | toolReply htools | toolAnswer htools =>
      exact balanced_tool htools rfl rfl rfl (huntold (fun _ _ => Hand.noConfusion) fun e he => by cases he; rfl)
  | toolCall =>
      exact balanced_same rfl rfl (huntold (fun _ _ => Hand.noConfusion) fun e he => by cases he; rfl)
  | stop | fail | reply | noTools =>
      exact balanced_same rfl rfl (huntold (fun _ _ => Hand.noConfusion) fun e he => by cases he)
  | @call _ t w c next =>
      obtain ⟨id, parent, hover⟩ := hhand rfl
      exact balanced_put_back hover (rfl : _ = (m.setStage t (.calling next)).tasks) rfl rfl rfl rfl
        (huntold (fun _ _ => Hand.noConfusion) fun e he => by cases he)
  | @spread _ t id parent stage n w v hvisits _ htargets =>
      obtain ⟨id', parent', hover⟩ := hhand rfl
      have hquiet := huntold (fun _ _ => Hand.noConfusion) fun e he => by cases he
      generalize s.plan.graph.targets n (w.look (selectedHandle v)) = ids at *
      exact balanced_addTasks ((({ m with world := w } : Machine σ).setStage t (.waiting ids.length)).addActive (ids.length - 1))
        (branches t ids) hover (rfl : _ = (m.setStage t (.waiting ids.length)).tasks) rfl (countP_branches t ids p) hquiet
  | @tools _ t w tasks next =>
      obtain ⟨id', parent', hover⟩ := hhand rfl
      have hquiet := huntold (fun _ _ => Hand.noConfusion) fun e he => by cases he
      refine balanced_addTasks (({ m with world := w } : Machine σ).setStage t (.gathering (tasks.map fun _ => none) next))
        (toolCalls t tasks) hover (rfl : _ = (m.setStage t (.gathering (tasks.map fun _ => none) next)).tasks) rfl ?_ hquiet
      rw [countP_toolCalls]
      exact (ite_self 0).symm
  | tell hvisits => exact balanced_tell hsound.tokens.keys hvisits
  | conclude hvisits =>
      refine balanced_conclude hvisits ((conclude_tasks ..).trans (checkStalled_tasks s.plan (m.addActive (-1)))) ?_
      refine untold_append hready (fun q f hmem => ?_) p
      obtain ⟨_, _, _, hh, hvisits'⟩ := hended q f hmem
      cases hh
      obtain ⟨_, hparent, _⟩ := hvisits.unique hvisits'
      cases hparent

/-! ## Whoever waits waits for somebody -/

theorem Expectant.of_tasks (hpositive : Expectant m) (htasks : m'.tasks = m.tasks) : Expectant m' :=
  fun _ _ _ _ hu => hpositive _ _ _ _ (hu.of_tasks htasks.symm)

/-- Whoever begins to wait, or goes on waiting, waits for somebody. -/
theorem Expectant.move {s : Setup σ} {start : Node} (hmove : Move s h m h' m') (hshape : Shape s.plan.graph start h m)
    (htokens : Tokens h m) (hpositive : Expectant m) : Expectant m' := by
  intro u id' parent' n hu
  rcases hmove.staged hshape htokens hu with ⟨_, hvisits, hre⟩ | ⟨hfalse, _⟩
  · cases hre with
    | other | late => exact hpositive _ _ _ _ hvisits
    | count hmany => exact Nat.le_sub_of_add_le hmany
    | spread hsome => exact hsome
  · cases hfalse

/-! ## Runs without failures -/

theorem untold_takes {e : Event} (htakes : Takes m e m') (p : Nat) : untold (.holds e) m' p = untold .idle m p := by
  rw [untold_holds]
  cases htakes with
  | @next _ _ _ hready =>
      have hcount : m.ready.countP (Event.endsFor p) = _ := congrArg (List.countP (Event.endsFor p)) hready
      refine Eq.trans ?_ hcount.symm
      rw [List.countP_cons, Nat.add_comm]
      cases e.endsFor p <;> rfl
  | tick => exact Nat.zero_add _

theorem owed_takes {e : Event} (htakes : Takes m e m') (p : Nat) :
    owed (.holds e) m' p = owed .idle m p ∧ left m' p = left m p := by
  unfold owed unfinished held left Machine.jobs
  rw [htakes.tasks, untold_takes htakes]
  exact ⟨rfl, rfl⟩

/-- Whoever waits for something is at a stage at which visits wait. -/
theorem waiting_of_left {p : Nat} (h : 0 < left m p) : ∃ id parent n, m.Visits p id parent (.waiting n) := by
  unfold left at h
  split at h
  next id parent stage htask =>
    cases stage with
    | waiting n => exact ⟨id, parent, n, htask⟩
    | _ => exact absurd h (Nat.lt_irrefl 0)
  next => exact absurd h (Nat.lt_irrefl 0)

namespace Debts

/-- Taking an event in hand changes nothing. -/
theorem takes {e : Event} (htakes : Takes m e m') (hdebts : Debts .idle m) : Debts (.holds e) m' := by
  refine ⟨fun p => ?_, hdebts.positive.of_tasks htakes.tasks⟩
  rw [(owed_takes htakes p).1, (owed_takes htakes p).2]
  exact hdebts.owed p

/-- Nothing is owed as a run begins. -/
theorem single (w : World) (services : σ) (id : NodeId) (active : Int) :
    Debts .idle (Machine.single w services (.visit id none) active) := by
  refine ⟨fun p => ?_, fun t id' parent n hu => ?_⟩
  · cases p with
    | zero => rfl
    | succ p =>
        change 0 = left _ _
        unfold left
        rfl
  · cases (visits_single hu).2.2.2

/-- Every move without failures keeps to it. -/
theorem move {s : Setup σ} {start : Node} (hmove : Move s h m h' m') (hsound : Sound s start h m)
    (hunfailed : ¬Failed h m) (hdebts : Debts h m) : Debts h' m' := by
  refine ⟨fun p => ?_, hdebts.positive.move hmove hsound.shape hsound.tokens⟩
  have howed := hdebts.owed p
  have hbalanced : Balanced h m h' m' p := hmove.balanced hsound hdebts.positive fun failure hh => by
    subst hh
    refine ⟨?_, waiting_of_left ?_⟩
    · cases failure with
      | none => rfl
      | some f => exact absurd (.inl rfl) hunfailed
    · unfold Run.owed at howed
      rw [untold_holds] at howed
      simp only [Event.endsFor, beq_self_eq_true, Bool.toNat_true] at howed
      omega
  unfold Balanced at hbalanced
  omega

theorem dues (hdebts : Debts h m) : Dues h m := ⟨fun p _ => hdebts.owed p, hdebts.positive⟩

end Debts

/-! ## Runs with failures -/

/-- A visit that is retired stays so. -/
theorem Retired.move {s : Setup σ} {start : Node} (hmove : Move s h m h' m') (hshape : Shape s.plan.graph start h m)
    (htokens : Tokens h m) {p : Nat} (hretired : Retired h m p) : Retired h' m' p := by
  obtain ⟨hworks, pid, pparent, hover⟩ := hretired
  obtain ⟨_, hu, hre⟩ := hmove.restage hshape htokens hover
  cases hre with
  | other _ hother => exact ⟨fun hworks' => hother (Hand.about_of_works hworks'), pid, pparent, hu⟩
  | late | leave => exact ⟨nofun, pid, pparent, hu⟩
  | reply | noTools | call | tools | spread | stop | fail => exact absurd rfl hworks

namespace Dues

theorem takes {e : Event} (htakes : Takes m e m') (hdues : Dues .idle m) : Dues (.holds e) m' := by
  refine ⟨fun p hp => ?_, hdues.positive.of_tasks htakes.tasks⟩
  rw [(owed_takes htakes p).1, (owed_takes htakes p).2]
  refine hdues.owed p fun ⟨_, id, parent, hvisits⟩ => hp ⟨nofun, id, parent, hvisits.of_tasks htakes.tasks⟩

/-- Every move keeps to it. -/
theorem move {s : Setup σ} {start : Node} (hmove : Move s h m h' m') (hsound : Sound s start h m)
    (hdues : Dues h m) : Dues h' m' := by
  refine ⟨fun p hp => ?_, hdues.positive.move hmove hsound.shape hsound.tokens⟩
  have howed := hdues.owed p fun hretired => hp (hretired.move hmove hsound.shape hsound.tokens)
  have hbalanced : Balanced h m h' m' p := hmove.balanced hsound hdues.positive fun failure hh => by
    subst hh
    have hwaits : 0 < left m p := by
      unfold Run.owed at howed
      rw [untold_holds] at howed
      simp only [Event.endsFor, beq_self_eq_true, Bool.toNat_true] at howed
      omega
    obtain ⟨id, parent, n, hvisits⟩ := waiting_of_left hwaits
    refine ⟨?_, id, parent, n, hvisits⟩
    cases hmove with
    | resume hvisits' =>
        exact absurd ⟨nofun, _, _, Visits.setStage (m := m.addActive 1) hvisits' .over⟩ hp
    | count => rfl
    | drop hstale => exact absurd hvisits (hstale id parent n)
  unfold Balanced at hbalanced
  omega

end Dues
end
end Workflow.Run
