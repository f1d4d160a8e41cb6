import Workflow.Proofs.Stages

/-!
# Workflow.Proofs.Visited

Every node is executed by one visit at most.

A node counts as visited from the moment its execution begins, and no visit of
a visited node executes it again.  So the visits that a node's execution has
begun are those of one visit, and they go to different nodes (`Ran.apart`):
no node is told twice that another one is done.
-/

namespace Workflow.Run

open Machine

variable {σ : Type}

/-! ## Execution -/

/-- Does the stage belong to a node that is being executed? -/
def Stage.isExecuting : Stage → Bool
  | .calling _ => true
  | .gathering _ _ => true
  | _ => false

/-- The visit whose work is in hand. -/
def Hand.works? : Hand → Option Nat
  | .works t _ => some t
  | _ => none

theorem Hand.about_of_works {h : Hand} {t : Nat} (hworks : h.works? = some t) : h.about? = some t := by
  cases h with
  | works => exact hworks
  | _ => cases hworks

/-- The visit executes its node. -/
def Executing (h : Hand) (m : Machine σ) (t : Nat) (id : NodeId) : Prop :=
  ∃ parent stage, m.Visits t id parent stage ∧ (stage.isExecuting = true ∨ h.works? = some t)

section

variable {h h' : Hand} {m m' : Machine σ} {t u : Nat} {id id' : NodeId} {parent : Option Nat} {stage stage' : Stage}

theorem Executing.job (hexec : Executing h m t id) : ∃ parent, m.jobs[t]? = some (.visit id parent) := by
  obtain ⟨parent, stage, hvisits, _⟩ := hexec
  exact ⟨parent, hvisits.job⟩

/-- Where a visit takes up a node that has not been visited. -/
structure Enters (h : Hand) (m : Machine σ) (h' : Hand) (m' : Machine σ) (t : Nat) (id : NodeId) : Prop where
  start : h = .holds (.start t)
  visits : ∃ parent, m.Visits t id parent .queued
  works : h'.works? = some t
  new : id.key ∉ m.visited
  visited : m'.visited = id.key :: m.visited
  tasks : m'.tasks = (m.setStage t .over).tasks

theorem wake_visited (m : Machine σ) (j : Join) : (m.wake j).visited = m.visited := by
  rw [wake_eq]

theorem checkStalled_visited (plan : Plan) (m : Machine σ) : (m.checkStalled plan).visited = m.visited := by
  have habandon : ∀ (m : Machine σ) (j : Join), (m.abandon plan j).visited = m.visited := by
    intro m j
    unfold abandon
    split
    · rfl
    · rw [wake_visited]
      rfl
  have hfold : ∀ (js : List Join) (m : Machine σ), (js.foldl (abandon plan) m).visited = m.visited := by
    intro js
    induction js with
    | nil => exact fun m => rfl
    | cons j js ih => exact fun m => by rw [List.foldl_cons, ih, habandon]
  unfold checkStalled
  split
  · rfl
  · exact hfold m.joins m

theorem turnAway_visited (plan : Plan) (m : Machine σ) (j : Join) : (m.turnAway plan j).visited = m.visited := by
  unfold turnAway
  rw [checkStalled_visited, setJoin_eq]
  rfl

theorem Enters.of_enter (htokens : Tokens (.holds (.start t)) m) (hvisits : m.Visits t id parent stage)
    (hnew : id.key ∉ m.visited) {work : Step Value} :
    Enters (.holds (.start t)) m (.works t work) ((m.visit id.key).setStage t .over) t id := by
  obtain ⟨rfl, _⟩ := htokens.begun hvisits
  exact ⟨rfl, ⟨_, hvisits⟩, rfl, hnew, rfl, rfl⟩

theorem Enters.of_release (htokens : Tokens (.holds (.start t)) m) (hvisits : m.Visits t id parent stage)
    (hnew : id.key ∉ m.visited) {work : Step Value} {j : Join} {records : List Record} :
    Enters (.holds (.start t)) m (.works t work)
      ((((m.wake j).withRecords records).visit id.key).setStage t .over) t id := by
  obtain ⟨rfl, _⟩ := htokens.begun hvisits
  exact ⟨rfl, ⟨_, hvisits⟩, rfl, hnew, congrArg (id.key :: ·) (wake_visited ..), setStage_tasks (wake_tasks ..) ..⟩

/-- A move takes up a new node, or it leaves the visited nodes alone. -/
theorem Move.visited {s : Setup σ} (hmove : Move s h m h' m') (htokens : Tokens h m) :
    (∃ t id, Enters h m h' m' t id) ∨ m'.visited = m.visited := by
  cases hmove with
  | enter hvisits hnew => exact .inl ⟨_, _, .of_enter htokens hvisits hnew⟩
  | release hvisits hnew => exact .inl ⟨_, _, .of_release htokens hvisits hnew⟩
  | park => exact .inr (turnAway_visited ..)
  | turn => exact .inr (turnAway_visited ..)
  | tell => exact .inr (checkStalled_visited ..)
  | @conclude _ _ _ _ failure =>
      refine .inr (Eq.trans ?_ (checkStalled_visited s.plan (m.addActive (-1))))
      cases failure <;> rfl
  | _ => exact .inr rfl

theorem Executing.of_tasks (hexec : Executing h' m' u id) (htasks : m'.tasks = m.tasks)
    (hworks : h'.works? = some u → h.works? = some u) : Executing h m u id := by
  obtain ⟨parent, st, hu, hexec⟩ := hexec
  exact ⟨parent, st, hu.of_tasks htasks.symm, hexec.imp_right hworks⟩

/-- Only the visit that takes up a new node begins to execute. -/
theorem Move.executing {s : Setup σ} {start : Node} (hmove : Move s h m h' m')
    (hshape : Shape s.plan.graph start h m) (htokens : Tokens h m) (hexec : Executing h' m' u id) :
    Executing h m u id ∨ Enters h m h' m' u id := by
  obtain ⟨parent, stage', hu, hexec⟩ := hexec
  rcases hmove.staged hshape htokens hu with ⟨stage, hvisits, hre⟩ | ⟨rfl, rfl, _⟩
  · cases hre with
    | other _ hother =>
        exact .inl ⟨parent, _, hvisits, .inl (hexec.resolve_right fun hworks => hother (Hand.about_of_works hworks))⟩
    | late => exact .inl ⟨parent, _, hvisits, hexec.imp_right nofun⟩
    | enter =>
        refine .inr ?_
        cases hmove with
        | enter hvisits' hnew =>
            obtain ⟨rfl, _⟩ := hvisits.unique hvisits'
            exact .of_enter htokens hvisits' hnew
        | release hvisits' hnew =>
            obtain ⟨rfl, _⟩ := hvisits.unique hvisits'
            exact .of_release htokens hvisits' hnew
    | answer | gather | fill => exact .inl ⟨parent, _, hvisits, .inl rfl⟩
    | reply | noTools | call | tools | stop | fail => exact .inl ⟨parent, _, hvisits, .inr rfl⟩
    | turn | park | pass | resume | count | spread | leave => rcases hexec with hexec | hexec <;> cases hexec
  · rcases hexec with hexec | hexec <;> cases hexec

theorem Enters.jobs (henters : Enters h m h' m' t id) : m'.jobs = m.jobs := by
  unfold Machine.jobs
  rw [henters.tasks]
  exact jobs_setStage ..

end

/-! ## One visit for each node -/

/-- A job by which one visit follows another. -/
def Follows (jobs : List Job) (c : Nat) (id : NodeId) (p : Nat) (pid : NodeId) : Prop :=
  jobs[c]? = some (.visit id (some p)) ∧ ∃ pparent, jobs[p]? = some (.visit pid pparent)

/-- New visits follow the one that begins them. -/
theorem follows_branches {g : Graph} {start : Node} {jobs : List Job} (htree : Tree g start jobs) {t : Nat}
    (ht : t < jobs.length) {ids : List NodeId} {c p : Nat} {id pid : NodeId}
    (h : Follows (jobs ++ branches t ids) c id p pid) :
    Follows jobs c id p pid ∨
      p = t ∧ ids[c - jobs.length]? = some id ∧ jobs.length ≤ c ∧ ∃ pparent, jobs[t]? = some (.visit pid pparent) := by
  obtain ⟨hc, pparent, hp⟩ := h
  by_cases hlt : c < jobs.length
  · rw [List.getElem?_append_left hlt] at hc
    have hpc := (htree.child hc).1
    rw [List.getElem?_append_left (Nat.lt_trans hpc hlt)] at hp
    exact .inl ⟨hc, pparent, hp⟩
  · rw [List.getElem?_append_right (Nat.le_of_not_lt hlt), branches, List.getElem?_map] at hc
    obtain ⟨id', hid', heq⟩ := Option.map_eq_some_iff.mp hc
    cases heq
    rw [List.getElem?_append_left ht] at hp
    exact .inr ⟨rfl, hid', Nat.le_of_not_lt hlt, pparent, hp⟩

/-- Tool calls are no visits. -/
theorem follows_toolCalls {g : Graph} {start : Node} {jobs : List Job} (htree : Tree g start jobs) {t : Nat}
    {tasks : List ToolTask} {c p : Nat} {id pid : NodeId} (h : Follows (jobs ++ toolCalls t tasks) c id p pid) :
    Follows jobs c id p pid := by
  obtain ⟨hc, pparent, hp⟩ := h
  by_cases hlt : c < jobs.length
  · rw [List.getElem?_append_left hlt] at hc
    have hpc := (htree.child hc).1
    rw [List.getElem?_append_left (Nat.lt_trans hpc hlt)] at hp
    exact ⟨hc, pparent, hp⟩
  · rw [List.getElem?_append_right (Nat.le_of_not_lt hlt), toolCalls, List.getElem?_mapIdx] at hc
    obtain ⟨task, _, heq⟩ := Option.map_eq_some_iff.mp hc
    cases heq

/-- Whoever executes a node, or was begun behind it, is accounted for by the
visited nodes, and for each of these there is one visit only. -/
structure Ran (h : Hand) (m : Machine σ) : Prop where
  nodup : m.visited.Nodup
  executing : ∀ {t id}, Executing h m t id → id.key ∈ m.visited
  follows : ∀ {c id p pid}, Follows m.jobs c id p pid → pid.key ∈ m.visited
  sole : ∀ {t id t' id'}, Executing h m t id → Executing h m t' id' → id.key = id'.key → t = t'
  childless : ∀ {t id c cid p pid}, Executing h m t id → Follows m.jobs c cid p pid → pid.key ≠ id.key
  apart : ∀ {c id p pid c' id' p' pid'}, Follows m.jobs c id p pid → Follows m.jobs c' id' p' pid' →
    id.key = id'.key → pid.key = pid'.key → c = c'

namespace Ran

variable {h h' : Hand} {m m' : Machine σ} {t : Nat} {id : NodeId}

/-- A new node is taken up. -/
theorem enters (hran : Ran h m) (henters : Enters h m h' m' t id)
    (hexec : ∀ {u id'}, Executing h' m' u id' → Executing h m u id' ∨ Enters h m h' m' u id') : Ran h' m' := by
  have hjobs := henters.jobs
  have hcases : ∀ {u id'}, Executing h' m' u id' → Executing h m u id' ∧ id'.key ∈ m.visited ∨
      u = t ∧ id'.key = id.key := by
    intro u id' hu
    rcases hexec hu with hold | hnew
    · exact .inl ⟨hold, hran.executing hold⟩
    · have hkeys := List.cons.inj (hnew.visited.symm.trans henters.visited)
      exact .inr ⟨Option.some.inj (hnew.works.symm.trans henters.works), hkeys.1⟩
  constructor
  case nodup =>
    rw [henters.visited]
    exact List.nodup_cons.mpr ⟨henters.new, hran.nodup⟩
  case executing =>
    intro u id' hu
    rw [henters.visited]
    rcases hcases hu with ⟨_, hmem⟩ | ⟨_, hkey⟩
    · exact List.mem_cons_of_mem _ hmem
    · rw [hkey]
      exact List.mem_cons_self
  case follows =>
    intro c cid p pid hf
    rw [hjobs] at hf
    rw [henters.visited]
    exact List.mem_cons_of_mem _ (hran.follows hf)
  case sole =>
    intro u id₁ u' id₂ hu hu' hkey
    rcases hcases hu with ⟨hold, hmem⟩ | ⟨rfl, hk⟩
    · rcases hcases hu' with ⟨hold', _⟩ | ⟨_, hk'⟩
      · exact hran.sole hold hold' hkey
      · exact absurd (hk' ▸ hkey ▸ hmem) henters.new
    · rcases hcases hu' with ⟨_, hmem⟩ | ⟨rfl, _⟩
      · exact absurd (hk ▸ hkey ▸ hmem) henters.new
      · rfl
  case childless =>
    intro u id' c cid p pid hu hf hkey
    rw [hjobs] at hf
    rcases hcases hu with ⟨hold, _⟩ | ⟨_, hk⟩
    · exact hran.childless hold hf hkey
    · exact henters.new (hk ▸ hkey ▸ hran.follows hf)
  case apart =>
    rw [hjobs]
    exact hran.apart

/-- Nothing is taken up, and nothing begins. -/
theorem same (hran : Ran h m) (hvisited : m'.visited = m.visited)
    (hexec : ∀ {u id}, Executing h' m' u id → Executing h m u id)
    (hfollows : ∀ {c id p pid}, Follows m'.jobs c id p pid → Follows m.jobs c id p pid) : Ran h' m' where
  nodup := hvisited ▸ hran.nodup
  executing hu := hvisited ▸ hran.executing (hexec hu)
  follows hf := hvisited ▸ hran.follows (hfollows hf)
  sole hu hu' := hran.sole (hexec hu) (hexec hu')
  childless hu hf := hran.childless (hexec hu) (hfollows hf)
  apart hf hf' := hran.apart (hfollows hf) (hfollows hf')

/-- A node that is done is followed by others, each of them once. -/
theorem spread {g : Graph} {start : Node} (hran : Ran h m) (htree : Tree g start m.jobs)
    (ht : Executing h m t id) {ids : List NodeId} (hids : (ids.map (·.key)).Nodup)
    (hvisited : m'.visited = m.visited) (hjobs : m'.jobs = m.jobs ++ branches t ids)
    (hexec : ∀ {u id}, Executing h' m' u id → Executing h m u id ∧ u ≠ t) : Ran h' m' := by
  obtain ⟨parent, hjob⟩ := ht.job
  have hlt : t < m.jobs.length := (List.getElem?_eq_some_iff.mp hjob).1
  have hcases : ∀ {c cid p pid}, Follows m'.jobs c cid p pid → Follows m.jobs c cid p pid ∨
      p = t ∧ ids[c - m.jobs.length]? = some cid ∧ m.jobs.length ≤ c ∧ pid = id := by
    intro c cid p pid hf
    rw [hjobs] at hf
    rcases follows_branches htree hlt hf with hold | ⟨hp, hcid, hle, pparent, hpid⟩
    · exact .inl hold
    · cases hjob.symm.trans hpid
      exact .inr ⟨hp, hcid, hle, rfl⟩
  constructor
  case nodup => exact hvisited ▸ hran.nodup
  case executing => exact fun hu => hvisited ▸ hran.executing (hexec hu).1
  case follows =>
    intro c cid p pid hf
    rw [hvisited]
    rcases hcases hf with hold | ⟨_, _, _, rfl⟩
    · exact hran.follows hold
    · exact hran.executing ht
  case sole => exact fun hu hu' => hran.sole (hexec hu).1 (hexec hu').1
  case childless =>
    intro u id' c cid p pid hu hf hkey
    rcases hcases hf with hold | ⟨_, _, _, rfl⟩
    · exact hran.childless (hexec hu).1 hold hkey
    · exact (hexec hu).2 (hran.sole (hexec hu).1 ht hkey.symm)
  case apart =>
    intro c id₁ p pid c' id₂ p' pid' hf hf' hkey hpkey
    rcases hcases hf with hold | ⟨_, hi, hle, rfl⟩
    · rcases hcases hf' with hold' | ⟨_, _, _, rfl⟩
      · exact hran.apart hold hold' hkey hpkey
      · exact absurd hpkey (hran.childless ht hold)
    · rcases hcases hf' with hold' | ⟨_, hi', hle', _⟩
      · exact absurd hpkey.symm (hran.childless ht hold')
      · have hk : (ids.map (·.key))[c - m.jobs.length]? = some id₁.key := by rw [List.getElem?_map, hi]; rfl
        have hk' : (ids.map (·.key))[c' - m.jobs.length]? = some id₁.key := by
          rw [List.getElem?_map, hi', hkey]
          rfl
        have heq := (List.getElem?_inj (List.getElem?_eq_some_iff.mp hk).1 hids).mp (hk.trans hk'.symm)
        omega

/-- A node that is done is no longer executed. -/
theorem done_of_move {s : Setup σ} {start : Node} {w : World} {v : Value}
    (hmove : Move s (.works t (.done w v)) m h' m') (hshape : Shape s.plan.graph start (.works t (.done w v)) m)
    (htokens : Tokens (.works t (.done w v)) m) : ¬Executing h' m' t id := by
  rintro ⟨parent, stage, hu, hexec⟩
  rcases hmove.staged hshape htokens hu with ⟨_, _, hre⟩ | ⟨rfl, rfl, _⟩
  · cases hre with
    | other habout => exact habout rfl
    | spread | stop => rcases hexec with hexec | hexec <;> cases hexec
  · rcases hexec with hexec | hexec <;> cases hexec

/-- Every move keeps to one visit for each node. -/
theorem move {s : Setup σ} {start : Node} (hmove : Move s h m h' m') (hshape : Shape s.plan.graph start h m)
    (htokens : Tokens h m) (hran : Ran h m) : Ran h' m' := by
  rcases hmove.visited htokens with ⟨t, id, henters⟩ | hvisited
  · exact hran.enters henters fun hu => hmove.executing hshape htokens hu
  · have hexec : ∀ {u id}, Executing h' m' u id → Executing h m u id := by
      intro u id hu
      refine (hmove.executing hshape htokens hu).resolve_right fun henters => ?_
      have hlength := congrArg List.length (hvisited.symm.trans henters.visited)
      rw [List.length_cons] at hlength
      omega
    rcases hmove.jobs with hjobs | ⟨t, id, parent, stage, n, w, v, rfl, hvisits, hn, hjobs⟩ |
      ⟨t, w, tasks, next, rfl, hjobs⟩
    · exact hran.same hvisited hexec fun hf => hjobs ▸ hf
    · refine hran.spread hshape.tree ⟨parent, stage, hvisits, .inr rfl⟩
        (Graph.targets_keys_nodup s.plan.graph n _) hvisited hjobs fun {u id'} hu => ⟨hexec hu, ?_⟩
      rintro rfl
      exact done_of_move hmove hshape htokens hu
    · refine hran.same hvisited hexec fun hf => ?_
      rw [hjobs] at hf
      exact follows_toolCalls hshape.tree hf

end Ran
end Workflow.Run
