import Workflow.Proofs.Progress
import Mathlib.Data.Finsupp.Order
import Mathlib.Data.Finsupp.WellFounded
import Mathlib.Data.Prod.Lex
import Mathlib.SetTheory.Ordinal.Family

/-!
# Workflow.Proofs.Halting

Every run comes to a halt, whatever collaborators answer and however late.

What a run may still do is measured by its `potential`, which every move lowers:

1. first the number of nodes that have not been visited, since a new node may
   bring any amount of work,
2. then what is left of the works, task by task.  A work goes on with whatever
   it is answered, so what is left of it is an ordinal (`Step.rank`),
3. then what has to be done for events and visits that do no work (`cost`),
4. at last the events themselves.

A run without failures that has come to a halt returns (`Launch.Halted.returns`).
-/

namespace Workflow.Run

open Machine

variable {σ : Type}

/-! ## What is left of works -/

/-- How far a computation may still go. -/
noncomputable def Step.rank : Step Value → Ordinal.{0}
  | .done _ _ => 1
  | .fail _ _ => 1
  | .call _ _ next => (⨆ x : Except Problem Reply × World, (next x.1 x.2).rank + 1) + 1
  | .tools _ _ next => (⨆ x : Except Problem (List Value) × World, (next x.1 x.2).rank + 1) + 1

/-- How far the work of a task at this stage may still go. -/
noncomputable def Stage.rank : Stage → Ordinal.{0}
  | .calling next => ⨆ x : Except Problem Reply × World, (next x.1 x.2).rank + 1
  | .gathering _ next => ⨆ x : Except Problem (List Value) × World, (next x.1 x.2).rank + 1
  | _ => 0

/-- How far the work in hand may still go, if it is that of the given task. -/
noncomputable def Hand.rank (h : Hand) (t : Nat) : Ordinal.{0} :=
  match h with
  | .works u work => if t = u then work.rank else 0
  | _ => 0

/-- How far the work of a task may still go, unless it is in hand. -/
noncomputable def stageRank (m : Machine σ) (t : Nat) : Ordinal.{0} := (m.tasks[t]?).elim 0 fun task => task.stage.rank

theorem stageRank_eq {m : Machine σ} {t : Nat} {job : Job} {stage : Stage} (htask : m.tasks[t]? = some ⟨job, stage⟩) :
    stageRank m t = stage.rank := by
  unfold stageRank
  rw [htask]
  rfl

theorem stageRank_of_le {m : Machine σ} {t : Nat} (hle : m.tasks.length ≤ t) : stageRank m t = 0 := by
  unfold stageRank
  rw [List.getElem?_eq_none hle]
  rfl

theorem rank_finite (h : Hand) (m : Machine σ) : (Function.support fun t => stageRank m t + h.rank t).Finite := by
  have hsubset : (Function.support fun t => stageRank m t + h.rank t) ⊆
      {t | t < m.tasks.length} ∪ {t | h.works? = some t} := by
    intro t ht
    by_contra hnot
    obtain ⟨hlt, hworks⟩ := not_or.mp hnot
    refine ht ?_
    have hrank : h.rank t = 0 := by
      cases h with
      | works u work =>
          refine if_neg fun heq => hworks ?_
          rw [heq]
          rfl
      | _ => rfl
    dsimp only
    rw [stageRank_of_le (Nat.le_of_not_lt hlt), hrank, add_zero]
  refine ((Set.finite_lt_nat _).union ?_).subset hsubset
  exact (Set.finite_singleton (h.works?.getD 0)).subset fun t ht => by
    rw [Set.mem_ofPred_eq] at ht
    rw [ht]
    rfl

/-- How far all works may still go, task by task. -/
noncomputable def burden (h : Hand) (m : Machine σ) : ℕ →₀ Ordinal.{0} :=
  Finsupp.ofSupportFinite (fun t => stageRank m t + h.rank t) (rank_finite h m)

/-! ## What is left to do -/

/-- What has to be done for a task that does no work. -/
def Stage.cost : Stage → Nat
  | .parked => 2
  | .waiting _ => 1
  | _ => 0

/-- What has to be done for an event. -/
def Event.cost : Event → Nat
  | .start _ => 3
  | .pass _ => 0
  | .answer _ _ => 2
  | .ended _ _ => 1
  | .settled _ _ _ => 1

/-- What has to be done for what is in hand, unless it is work. -/
def Hand.cost : Hand → Nat
  | .holds e => e.cost
  | .ends _ _ => 2
  | _ => 0

/-- What has to be done, apart from work. -/
def cost (h : Hand) (m : Machine σ) : Nat :=
  (m.tasks.map (·.stage.cost)).sum + (m.ready.map Event.cost).sum + 3 * m.sleepers.length + h.cost

/-- The number of events, where one in hand counts half. -/
def queue (h : Hand) (m : Machine σ) : Nat := 2 * m.ready.length + h.event?.isSome.toNat

/-- The number of nodes that have not been visited. -/
def unvisited (g : Graph) (m : Machine σ) : Nat := g.keys.countP fun k => !m.visited.contains k

/-- What a run may still do. -/
noncomputable def potential (g : Graph) (h : Hand) (m : Machine σ) : ℕ ×ₗ (ℕ →₀ Ordinal.{0}) ×ₗ ℕ ×ₗ ℕ :=
  toLex (unvisited g m, toLex (burden h m, toLex (cost h m, queue h m)))

section

variable {g : Graph} {h h' : Hand} {m m' : Machine σ} {t : Nat} {job : Job} {stage stage' : Stage}

theorem potential_of_unvisited (hless : unvisited g m' < unvisited g m) : potential g h' m' < potential g h m :=
  Prod.Lex.toLex_lt_toLex.mpr (.inl hless)

theorem potential_of_burden (hvisited : m'.visited = m.visited) (hless : burden h' m' < burden h m) :
    potential g h' m' < potential g h m := by
  refine Prod.Lex.toLex_lt_toLex.mpr (.inr ⟨?_, Prod.Lex.toLex_lt_toLex.mpr (.inl hless)⟩)
  unfold unvisited
  rw [hvisited]

theorem potential_of_cost (hvisited : m'.visited = m.visited) (hburden : burden h' m' ≤ burden h m)
    (hless : cost h' m' < cost h m ∨ cost h' m' ≤ cost h m ∧ queue h' m' < queue h m) :
    potential g h' m' < potential g h m := by
  rcases hburden.lt_or_eq with hburden | hburden
  · exact potential_of_burden hvisited hburden
  · have hrest : toLex (cost h' m', queue h' m') < toLex (cost h m, queue h m) := by
      refine Prod.Lex.toLex_lt_toLex.mpr ?_
      rcases hless with hless | ⟨hle, hless⟩
      · exact .inl hless
      · exact hle.lt_or_eq.imp_right fun heq => ⟨heq, hless⟩
    refine Prod.Lex.toLex_lt_toLex.mpr (.inr ⟨?_, Prod.Lex.toLex_lt_toLex.mpr (.inr ⟨hburden, hrest⟩)⟩)
    unfold unvisited
    rw [hvisited]

/-! ## How works get on -/

theorem rank_reply {w : World} {c : Call} {next : Except Problem Reply → World → Step Value}
    (outcome : Except Problem Reply) (w' : World) : (next outcome w').rank < (Step.call w c next).rank := by
  have hlt := Ordinal.lt_iSup_add_one (fun x : Except Problem Reply × World => (next x.1 x.2).rank) (outcome, w')
  exact hlt.trans_le (Order.le_succ _)

theorem rank_tools {w : World} {tasks : List ToolTask} {next : Except Problem (List Value) → World → Step Value}
    (outcome : Except Problem (List Value)) (w' : World) : (next outcome w').rank < (Step.tools w tasks next).rank := by
  have hlt := Ordinal.lt_iSup_add_one (fun x : Except Problem (List Value) × World => (next x.1 x.2).rank) (outcome, w')
  exact hlt.trans_le (Order.le_succ _)

theorem rank_answer {next : Except Problem Reply → World → Step Value} (outcome : Except Problem Reply) (w : World) :
    (next outcome w).rank < (Stage.calling next).rank :=
  Ordinal.lt_iSup_add_one (fun x : Except Problem Reply × World => (next x.1 x.2).rank) (outcome, w)

theorem rank_gather {slots : List (Option Value)} {next : Except Problem (List Value) → World → Step Value}
    (outcome : Except Problem (List Value)) (w : World) : (next outcome w).rank < (Stage.gathering slots next).rank :=
  Ordinal.lt_iSup_add_one (fun x : Except Problem (List Value) × World => (next x.1 x.2).rank) (outcome, w)

theorem stageRank_setStage (htask : m.tasks[t]? = some ⟨job, stage⟩) (htasks : m'.tasks = (m.setStage t stage').tasks)
    (u : Nat) : stageRank m' u = if u = t then stage'.rank else stageRank m u := by
  unfold stageRank
  rw [htasks, getElem?_setStage]
  by_cases hu : u = t
  · rw [if_pos hu, if_pos hu, hu, htask]
    rfl
  · rw [if_neg hu, if_neg hu]

theorem stageRank_addTasks (m : Machine σ) (js : List Job) (u : Nat) : stageRank (m.addTasks js) u = stageRank m u := by
  unfold stageRank
  rw [getElem?_addTasks]
  by_cases hu : u < m.tasks.length
  · rw [if_pos hu]
  · rw [if_neg hu, List.getElem?_eq_none (Nat.le_of_not_lt hu)]
    cases js[u - m.tasks.length]? <;> rfl

/-- Nobody's work grows where only one task changes and its work does not. -/
theorem burden_le (hstages : ∀ u, stageRank m' u = if u = t then stage'.rank else stageRank m u)
    (hat : stage'.rank + h'.rank t ≤ stageRank m t + h.rank t) (hothers : ∀ u, u ≠ t → h'.rank u = h.rank u) :
    burden h' m' ≤ burden h m := by
  intro u
  change stageRank m' u + h'.rank u ≤ stageRank m u + h.rank u
  rw [hstages]
  by_cases hu : u = t
  · rw [if_pos hu, hu]
    exact hat
  · rw [if_neg hu, hothers u hu]

theorem burden_lt (hstages : ∀ u, stageRank m' u = if u = t then stage'.rank else stageRank m u)
    (hat : stage'.rank + h'.rank t < stageRank m t + h.rank t) (hothers : ∀ u, u ≠ t → h'.rank u = h.rank u) :
    burden h' m' < burden h m := by
  refine lt_of_le_of_ne (burden_le hstages hat.le hothers) fun heq => ?_
  have hsame : stageRank m' t + h'.rank t = stageRank m t + h.rank t := DFunLike.congr_fun heq t
  rw [hstages, if_pos rfl] at hsame
  exact hat.ne hsame

theorem rank_works (work : Step Value) : (Hand.works t work).rank t = work.rank := if_pos rfl

theorem rank_works_ne {u : Nat} (hu : u ≠ t) (work : Step Value) : (Hand.works t work).rank u = 0 := if_neg hu

/-- The work in hand goes on, or is put back. -/
theorem burden_works {work : Step Value} (stage' : Stage) (hover : m.tasks[t]? = some ⟨job, .over⟩)
    (hstages : ∀ u, stageRank m' u = if u = t then stage'.rank else stageRank m u)
    (hat : stage'.rank + h'.rank t < work.rank) (hothers : ∀ u, u ≠ t → h'.rank u = 0) :
    burden h' m' < burden (.works t work) m := by
  refine burden_lt hstages ?_ fun u hu => ?_
  · rw [stageRank_eq hover, rank_works]
    exact hat.trans_le (zero_add _).ge
  · rw [hothers u hu, rank_works_ne hu]

/-- The work in hand gets on, or ends. -/
theorem burden_hand {work : Step Value} (hover : m.tasks[t]? = some ⟨job, .over⟩) (htasks : m'.tasks = m.tasks)
    (hat : h'.rank t < work.rank) (hothers : ∀ u, u ≠ t → h'.rank u = 0) : burden h' m' < burden (.works t work) m := by
  refine burden_works .over hover (fun u => ?_) ((zero_add _).trans_lt hat) hothers
  have hsame : stageRank m' u = stageRank m u := by
    unfold stageRank
    rw [htasks]
  rw [hsame]
  split
  next hu => rw [hu, stageRank_eq hover]
  · rfl

/-- The work of a task is taken in hand. -/
theorem burden_take {work : Step Value} (hh : ∀ u, h.rank u = 0) (htask : m.tasks[t]? = some ⟨job, stage⟩)
    (htasks : m'.tasks = (m.setStage t .over).tasks) (hwork : work.rank < stage.rank) :
    burden (.works t work) m' < burden h m := by
  refine burden_lt (stageRank_setStage htask htasks) ?_ fun u hu => ?_
  · rw [stageRank_eq htask, rank_works, hh, add_zero]
    exact (zero_add _).trans_lt hwork
  · rw [rank_works_ne hu, hh]

/-- No work goes on. -/
theorem burden_rest (hh : ∀ u, h.rank u = 0) (hh' : ∀ u, h'.rank u = 0) (htask : m.tasks[t]? = some ⟨job, stage⟩)
    (htasks : m'.tasks = (m.setStage t stage').tasks) (hstage : stage'.rank ≤ stage.rank) :
    burden h' m' ≤ burden h m := by
  refine burden_le (stageRank_setStage htask htasks) ?_ fun u _ => (hh' u).trans (hh u).symm
  rw [stageRank_eq htask, hh, hh', add_zero, add_zero]
  exact hstage

theorem burden_same (hh : ∀ u, h.rank u = 0) (hh' : ∀ u, h'.rank u = 0) (htasks : m'.tasks = m.tasks) :
    burden h' m' ≤ burden h m := by
  intro u
  change stageRank m' u + h'.rank u ≤ stageRank m u + h.rank u
  unfold stageRank
  rw [htasks, hh, hh']

/-! ## How events and visits get on -/

theorem sum_modify {α : Type} {w : α → Nat} {f : α → α} {a : α} : ∀ {l : List α} {i : Nat}, l[i]? = some a →
    ((l.modify i f).map w).sum + w a = (l.map w).sum + w (f a)
  | [], _, h => by cases h
  | b :: l, 0, h => by
      obtain rfl : b = a := Option.some.inj h
      simp only [List.modify_zero_cons, List.map_cons, List.sum_cons]
      omega
  | b :: l, i + 1, h => by
      have ih := sum_modify (w := w) (f := f) (l := l) (i := i) h
      simp only [List.modify_succ_cons, List.map_cons, List.sum_cons]
      omega

theorem cost_passes (ts : List Nat) : ((ts.map Event.pass).map Event.cost).sum = 0 := by
  induction ts with
  | nil => rfl
  | cons t ts ih => rw [List.map_cons, List.map_cons, List.sum_cons, ih]; rfl

/-- One task changes its stage, and events are added. -/
theorem cost_setStage (htask : m.tasks[t]? = some ⟨job, stage⟩) (htasks : m'.tasks = (m.setStage t stage').tasks)
    {es : List Event} (hready : m'.ready = m.ready ++ es) (hsleepers : m'.sleepers = m.sleepers) :
    cost h' m' + stage.cost + h.cost = cost h m + stage'.cost + (es.map Event.cost).sum + h'.cost := by
  have hsum : ((m.setStage t stage').tasks.map (·.stage.cost)).sum + stage.cost =
      (m.tasks.map (·.stage.cost)).sum + stage'.cost :=
    sum_modify (w := fun task : Task => task.stage.cost) htask
  unfold cost
  rw [htasks, hready, hsleepers, List.map_append, List.sum_append]
  omega

theorem cost_same (htasks : m'.tasks = m.tasks) {es : List Event} (hready : m'.ready = m.ready ++ es)
    (hsleepers : m'.sleepers = m.sleepers) :
    cost h' m' + h.cost = cost h m + (es.map Event.cost).sum + h'.cost := by
  unfold cost
  rw [htasks, hready, hsleepers, List.map_append, List.sum_append]
  omega

theorem queue_holds (e : Event) (hh' : h'.event? = none) (hready : m'.ready = m.ready) :
    queue h' m' < queue (.holds e) m := by
  unfold queue
  rw [hready, hh']
  exact Nat.lt_succ_self _

/-- An event is handled by changing the stage of one task. -/
theorem potential_restage {e : Event} (es : List Event) (hvisited : m'.visited = m.visited)
    (htask : m.tasks[t]? = some ⟨job, stage⟩) (htasks : m'.tasks = (m.setStage t stage').tasks)
    (hready : m'.ready = m.ready ++ es) (hsleepers : m'.sleepers = m.sleepers) (hh' : ∀ u, h'.rank u = 0)
    (hstage : stage'.rank ≤ stage.rank)
    (hcost : stage'.cost + (es.map Event.cost).sum + h'.cost < stage.cost + e.cost ∨
      es = [] ∧ h'.event? = none ∧ stage'.cost + h'.cost ≤ stage.cost + e.cost) :
    potential g h' m' < potential g (.holds e) m := by
  have hsum : cost h' m' + stage.cost + e.cost = _ :=
    cost_setStage (h := .holds e) htask htasks hready hsleepers
  refine potential_of_cost hvisited (burden_rest (fun _ => rfl) hh' htask htasks hstage) ?_
  rcases hcost with hless | ⟨rfl, hempty, hle⟩
  · exact .inl (by omega)
  · rw [List.append_nil] at hready
    rw [List.map_nil, List.sum_nil] at hsum
    exact .inr ⟨by omega, queue_holds e hempty hready⟩

/-- A visit in hand ends, and others may be let go. -/
theorem potential_ends {failure : Option Failure} {es : List Event} (hvisited : m'.visited = m.visited)
    (htasks : m'.tasks = m.tasks) (hready : m'.ready = m.ready ++ es) (hsleepers : m'.sleepers = m.sleepers)
    (hcost : (es.map Event.cost).sum < 2) : potential g .idle m' < potential g (.ends t failure) m := by
  have hsum : cost .idle m' + 2 = cost (.ends t failure) m + (es.map Event.cost).sum :=
    cost_same (h := .ends t failure) htasks hready hsleepers
  exact potential_of_cost hvisited (burden_same (fun _ => rfl) (fun _ => rfl) htasks) (.inl (by omega))

theorem countP_lt {α : Type} {p q : α → Bool} {l : List α} {a : α} (hpq : ∀ x, p x = true → q x = true) (ha : a ∈ l)
    (hp : p a = false) (hq : q a = true) : l.countP p < l.countP q := by
  obtain ⟨l₁, l₂, rfl⟩ := List.append_of_mem ha
  have h₁ : l₁.countP p ≤ l₁.countP q := List.countP_mono_left fun x _ => hpq x
  have h₂ : l₂.countP p ≤ l₂.countP q := List.countP_mono_left fun x _ => hpq x
  rw [List.countP_append, List.countP_append, List.countP_cons, List.countP_cons, hp, hq, if_neg Bool.false_ne_true,
    if_pos rfl]
  omega

theorem unvisited_enters {start : Node} {id : NodeId} (henters : Enters h m h' m' t id) (hshape : Shape g start h m) :
    unvisited g m' < unvisited g m := by
  obtain ⟨parent, hvisits⟩ := henters.visits
  obtain ⟨n, hn⟩ := hshape.tree.known hvisits.job
  unfold unvisited
  rw [henters.visited]
  refine countP_lt (fun k hk => ?_) (Graph.mem_keys_of_node? hn) ?_ ?_
  · simp only [List.contains_cons, Bool.not_or, Bool.and_eq_true] at hk
    exact hk.2
  · simp
  · simpa using henters.new

end

section

variable {s : Setup σ} {start : Node} {h h' : Hand} {m m' : Machine σ}

/-- Every move lowers the potential. -/
theorem potential_move (hmove : Move s h m h' m') (hsound : Sound s start h m) :
    potential s.plan.graph h' m' < potential s.plan.graph h m := by
  have htokens := hsound.tokens
  have hkeys := htokens.keys
  have hhand : ∀ {t}, h.visit? = some t → ∃ id parent, m.Visits t id parent .over := fun ht => hsound.shape.hand _ ht
  rcases hmove.visited htokens with ⟨_, _, henters⟩ | hvisited
  · exact potential_of_unvisited (unvisited_enters henters hsound.shape)
  cases hmove with
  | enter => exact absurd hvisited (List.cons_ne_self _ _)
  | release => exact absurd ((congrArg (_ :: ·) (wake_visited ..)).symm.trans hvisited) (List.cons_ne_self _ _)
  | drop =>
      refine potential_of_cost rfl (burden_same (fun _ => rfl) (fun _ => rfl) rfl) ?_
      exact .inr ⟨Nat.le_add_right .., queue_holds _ rfl rfl⟩
  | skip hvisits | refuse hvisits | absent hvisits =>
      exact potential_restage [] rfl hvisits rfl (List.append_nil _).symm rfl (fun _ => rfl) (zero_le)
        (.inr ⟨rfl, rfl, Nat.le_add_left_of_le (Nat.le_succ 2)⟩)
  | @park _ t id _ _ required gate hvisits _ _ _ _ hclosed =>
      obtain ⟨_, _, heq⟩ := closed_of_turnAway hkeys (j := { m.join id required with gate }) (join_key ..) hclosed
      have hready : (m.turnAway s.plan { m.join id required with gate }).ready = m.ready ++ [] := by
        rw [heq]
        exact (List.append_nil _).symm
      exact potential_restage [] hvisited hvisits (setStage_tasks (turnAway_tasks ..) _ .parked) hready
        (turnAway_sleepers s.plan hkeys { m.join id required with gate }) (fun _ => rfl) (zero_le)
        (.inr ⟨rfl, rfl, Nat.le_add_left_of_le (Nat.le_succ 2)⟩)
  | @turn _ t id _ _ required gate records hvisits =>
      obtain ⟨ts, hready⟩ := turnAway_ready s.plan hkeys { m.join id required with gate }
      refine potential_restage _ hvisited hvisits (setStage_tasks (turned_tasks ..) ..) hready
        (turnAway_sleepers s.plan hkeys { m.join id required with gate }) (fun _ => rfl) (zero_le) (.inl ?_)
      rw [cost_passes]
      exact Nat.lt_of_lt_of_le (Nat.lt_succ_self 2) (Nat.le_add_left ..)
  | pass hvisits =>
      obtain ⟨rfl, _⟩ := htokens.passed hvisits
      exact potential_restage [] rfl hvisits rfl (List.append_nil _).symm rfl (fun _ => rfl) (zero_le)
        (.inr ⟨rfl, rfl, le_rfl⟩)
  | answer hvisits => exact potential_of_burden rfl (burden_take (fun _ => rfl) hvisits rfl (rank_answer ..))
  | spoil hvisits | gather hvisits =>
      exact potential_of_burden rfl (burden_take (fun _ => rfl) hvisits rfl (rank_gather ..))
  | resume hvisits =>
      exact potential_restage [] rfl hvisits rfl (List.append_nil _).symm rfl (fun _ => rfl) (zero_le)
        (.inr ⟨rfl, rfl, le_rfl⟩)
  | count hvisits =>
      exact potential_restage [] rfl hvisits rfl (List.append_nil _).symm rfl (fun _ => rfl) (zero_le)
        (.inr ⟨rfl, rfl, Nat.le_succ 1⟩)
  | fill hvisits =>
      exact potential_restage [] rfl hvisits rfl (List.append_nil _).symm rfl (fun _ => rfl) le_rfl
        (.inr ⟨rfl, rfl, Nat.zero_le _⟩)
  | toolError htools | toolReply htools | toolAnswer htools =>
      refine potential_restage _ rfl htools rfl rfl rfl (fun _ => rfl) (zero_le) (.inl ?_)
      exact Nat.lt_of_lt_of_le (Nat.lt_succ_self 1) (Nat.le_add_left ..)
  | @toolCall _ t p index task stage w c services served htools =>
      refine potential_of_cost rfl (burden_same (fun _ => rfl) (fun _ => rfl) rfl) (.inr ⟨?_, queue_holds _ rfl rfl⟩)
      unfold cost sleep
      simp only [List.length_append, List.length_singleton, Hand.cost, Event.cost]
      omega
  | @spread _ t id parent stage n w v hvisits =>
      obtain ⟨_, _, hover⟩ := hhand rfl
      refine potential_of_burden rfl (burden_works (.waiting 0) hover (fun u => ?_) ?_ fun _ _ => rfl)
      · exact (stageRank_addTasks ..).trans (stageRank_setStage hover rfl u)
      · exact (add_zero _).trans_lt zero_lt_one
  | stop | fail =>
      obtain ⟨_, _, hover⟩ := hhand rfl
      exact potential_of_burden rfl (burden_hand hover rfl zero_lt_one fun _ _ => rfl)
  | reply =>
      obtain ⟨_, _, hover⟩ := hhand rfl
      refine potential_of_burden rfl (burden_hand hover rfl ?_ fun u hu => rank_works_ne hu _)
      exact (rank_works _).trans_lt (rank_reply ..)
  | noTools =>
      obtain ⟨_, _, hover⟩ := hhand rfl
      refine potential_of_burden rfl (burden_hand hover rfl ?_ fun u hu => rank_works_ne hu _)
      exact (rank_works _).trans_lt (rank_tools ..)
  | @call _ t w c next =>
      obtain ⟨_, _, hover⟩ := hhand rfl
      refine potential_of_burden rfl (burden_works (.calling next) hover ?_ ?_ fun _ _ => rfl)
      · exact stageRank_setStage hover rfl
      · exact (add_zero _).trans_lt (Order.lt_succ _)
  | @tools _ t w tasks next =>
      obtain ⟨_, _, hover⟩ := hhand rfl
      refine potential_of_burden rfl (burden_works (.gathering [] next) hover (fun u => ?_) ?_ fun _ _ => rfl)
      · exact (stageRank_addTasks ..).trans (stageRank_setStage hover rfl u)
      · exact (add_zero _).trans_lt (Order.lt_succ _)
  | @tell _ t id parent stage failure =>
      obtain ⟨ts, hts⟩ := checkStalled_ready s.plan (m := m.addActive (-1)) hkeys
      have hready : (((m.addActive (-1)).checkStalled s.plan).push [.ended parent failure]).ready =
          m.ready ++ (ts.map .pass ++ [.ended parent failure]) := by
        rw [← List.append_assoc]
        exact congrArg (· ++ [Event.ended parent failure]) hts
      refine potential_ends hvisited (checkStalled_tasks ..) hready
        (checkStalled_sleepers s.plan (m := m.addActive (-1)) hkeys) ?_
      rw [List.map_append, List.sum_append, cost_passes]
      exact Nat.lt_succ_self 1
  | @conclude _ t id stage failure =>
      obtain ⟨ts, hts⟩ := checkStalled_ready s.plan (m := m.addActive (-1)) hkeys
      have hready : (((m.addActive (-1)).checkStalled s.plan).conclude failure).ready = m.ready ++ ts.map .pass := by
        refine Eq.trans ?_ hts
        cases failure <;> rfl
      refine potential_ends hvisited ((conclude_tasks ..).trans (checkStalled_tasks ..)) hready
        ((conclude_sleepers ..).trans (checkStalled_sleepers s.plan (m := m.addActive (-1)) hkeys)) ?_
      rw [cost_passes]
      exact Nat.zero_lt_two

/-- To take an event in hand lowers the potential. -/
theorem potential_takes {e : Event} (htakes : Takes m e m') : potential g (.holds e) m' < potential g .idle m := by
  refine potential_of_cost htakes.visited (burden_same (fun _ => rfl) (fun _ => rfl) htakes.tasks) ?_
  unfold cost queue
  rw [htakes.tasks]
  cases htakes with
  | @next _ _ _ hready =>
      rw [hready]
      simp only [List.map_cons, List.sum_cons, List.length_cons, Hand.cost]
      exact .inr ⟨by omega, Nat.lt_succ_self _⟩
  | @tick x rest _ hready hearliest =>
      have hlength := (earliest_perm hearliest).length_eq
      rw [hlength, List.length_cons]
      simp only [Hand.cost, Event.cost]
      exact .inl (by omega)

/-- Every step lowers the potential. -/
theorem potential_step (hdispatch : KeptDispatch s) (hsound : Sound s start .idle m) (hstep : step s m = some m') :
    potential s.plan.graph .idle m' < potential s.plan.graph .idle m := by
  obtain ⟨e, m₁, htakes, hmoves⟩ := takes_of_step hsound.shape.plain hstep
  have hrun : ∀ {h m m'}, Moves s h m m' → Sound s start h m →
      potential s.plan.graph .idle m' ≤ potential s.plan.graph h m := by
    intro h m m' hmoves
    induction hmoves with
    | idle => exact fun _ => le_rfl
    | move hfirst _ ih => exact fun hsound => (ih (hsound.move hfirst hdispatch)).trans (potential_move hfirst hsound).le
  exact (hrun hmoves (hsound.takes htakes)).trans_lt (potential_takes htakes)

end

namespace Launch

/-- Nothing can happen any more. -/
def Halted (l : Launch σ) (k : Nat) : Prop := step l.setup (l.state k) = none

/-- Every run comes to a halt. -/
theorem halts (l : Launch σ) : ∃ k, l.Halted k := by
  have hbounded : WellFoundedLT (ℕ →₀ Ordinal.{0}) := Finsupp.wellFoundedLT fun o => not_lt_zero
  have hfrom : ∀ (p : ℕ ×ₗ (ℕ →₀ Ordinal.{0}) ×ₗ ℕ ×ₗ ℕ) (k : Nat), potential l.graph .idle (l.state k) = p →
      ∃ k, l.Halted k := by
    intro p
    induction p using WellFoundedLT.induction with
    | ind p ih =>
        intro k hk
        cases hstep : step l.setup (l.state k) with
        | none => exact ⟨k, hstep⟩
        | some m' =>
            have hnext : l.state (k + 1) = m' := by
              rw [l.state_succ, hstep]
              rfl
            refine ih _ ?_ (k + 1) rfl
            rw [hnext, ← hk]
            exact potential_step l.keptDispatch (l.sound k) hstep
  exact hfrom _ 0 rfl

/-- A run that has come to a halt answers what it has answered by then. -/
theorem Halted.runGraph_eq {l : Launch σ} {N : Nat} (hhalt : l.Halted N) {fuel : Nat} (hle : N ≤ fuel) :
    runGraph l.plan l.services fuel l.world = (l.state N).ended := by
  rw [l.runGraph_eq]
  exact congrArg Machine.ended (run_of_halt hhalt hle)

/-- A run without failures returns a result when it has come to a halt. -/
theorem Halted.returns {l : Launch σ} {N : Nat} (hhalt : l.Halted N) (hnone : ∀ k, (l.state k).failures = []) :
    ∃ v, (l.state N).outcome = some (.ok v) := by
  have hover := (l.alive hnone N).settled (l.sound N) hhalt
  cases houtcome : (l.state N).outcome with
  | none => exact absurd houtcome hover
  | some outcome =>
      cases outcome with
      | ok v => exact ⟨v, rfl⟩
      | error f =>
          have hfailed := mem_failures.mpr (.inr houtcome)
          rw [hnone N] at hfailed
          cases hfailed

/-- It is enough to look at a run until it comes to a halt. -/
theorem Halted.succeeds {l : Launch σ} {N : Nat} (hhalt : l.Halted N)
    (hnone : ∀ k, k ≤ N → (l.state k).failures.isEmpty = true) : l.Succeeds := by
  intro k f hf
  rcases Nat.le_total k N with hle | hle
  · rw [List.isEmpty_iff.mp (hnone k hle)] at hf
    cases hf
  · have hsame : l.state k = l.state N := run_of_halt hhalt hle
    rw [hsame, List.isEmpty_iff.mp (hnone N le_rfl)] at hf
    cases hf

end Launch
end Workflow.Run
