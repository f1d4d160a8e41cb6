import Workflow.Proofs.Runs
import Workflow.Proofs.Supply
import Mathlib.Data.Finset.Card

/-!
# Workflow.Proofs.Joins

A join waits for everyone.

Branches that arrive at a gate are counted, not told apart.  But no two of them
come from one node (`Ran.apart`), and they come from sources of the node only.
So where as many have arrived as there are sources, one has come from each
(`Follows.sources`), and a node from which a branch has come is done.
-/

namespace Workflow.Run

open Machine

variable {σ : Type}

/-! ## Branches and sources -/

/-- Counting places instead of entries. -/
theorem countP_eq_card {α : Type} (p : α → Bool) (l : List α) :
    l.countP p = ((Finset.range l.length).filter fun i => (l[i]?).any p).card := by
  induction l using List.reverseRecOn with
  | nil => rfl
  | append_singleton l a ih =>
      have hold : ((Finset.range l.length).filter fun i => ((l ++ [a])[i]?).any p) =
          (Finset.range l.length).filter fun i => (l[i]?).any p := by
        refine Finset.filter_congr fun i hi => ?_
        rw [List.getElem?_append_left (Finset.mem_range.mp hi)]
      have hlast : ((l ++ [a])[l.length]?).any p = p a := by simp
      rw [List.countP_append, List.countP_singleton, List.length_append, List.length_singleton,
        Finset.range_add_one, Finset.filter_insert, hold, hlast, ih]
      cases p a
      · rfl
      · simp

/-- Where as many branches lead to a node as it has sources, there is one from
each source. -/
theorem Follows.sources {g : Graph} {start : Node} {h : Hand} {m : Machine σ} (htree : Tree g start m.jobs)
    (hran : Ran h m) {k : Key} {cs : Finset Nat}
    (hcs : ∀ c ∈ cs, ∃ id p pid, Follows m.jobs c id p pid ∧ id.key = k)
    (hmany : (g.sources k).length ≤ cs.card) :
    ∀ source ∈ g.sources k, ∃ c id p pid, Follows m.jobs c id p pid ∧ id.key = k ∧ pid.key = source := by
  choose! id p pid hfollows hkey using hcs
  have hsource : ∀ c ∈ cs, (pid c).key ∈ (g.sources k).toFinset := by
    intro c hc
    obtain ⟨hjob, pparent, hparent⟩ := hfollows c hc
    obtain ⟨_, pid', pparent', n, hparent', _, _, hlinks⟩ := htree.child hjob
    cases hparent.symm.trans hparent'
    rw [hkey c hc] at hlinks
    exact List.mem_toFinset.mpr (Graph.mem_sources.mpr hlinks)
  have hinj : ∀ c hc c' hc', (pid c).key = (pid c').key → c = c' := fun c hc c' hc' heq =>
    hran.apart (hfollows c hc) (hfollows c' hc') ((hkey c hc).trans (hkey c' hc').symm) heq
  have hcard : (g.sources k).toFinset.card ≤ cs.card := by
    rw [List.toFinset_card_of_nodup (Graph.sources_nodup g k)]
    exact hmany
  intro source hmem
  obtain ⟨c, hc, heq⟩ := Finset.surj_on_of_inj_on_of_card_le (fun c _ => (pid c).key) hsource
    (fun c c' hc hc' => hinj c hc c' hc') hcard source (List.mem_toFinset.mpr hmem)
  exact ⟨c, id c, p c, pid c, hfollows c hc, hkey c hc, heq.symm⟩

/-- The visits of a node that have begun. -/
def begunVisits (m : Machine σ) (k : Key) : Finset Nat :=
  (Finset.range m.tasks.length).filter fun c => (m.tasks[c]?).any (Task.hasBegun k)

theorem card_begunVisits (m : Machine σ) (k : Key) : (begunVisits m k).card = begun m k :=
  (countP_eq_card (Task.hasBegun k) m.tasks).symm

theorem begunVisits_mem {m : Machine σ} {k : Key} {c : Nat} {id : NodeId} {parent : Option Nat} {stage : Stage}
    (hvisits : m.Visits c id parent stage) (hkey : id.key = k) (hbegun : stage.isQueued = false) :
    c ∈ begunVisits m k := by
  refine Finset.mem_filter.mpr ⟨Finset.mem_range.mpr hvisits.lt, (Option.any_eq_true _ _).mpr ⟨_, hvisits, ?_⟩⟩
  simp [Task.hasBegun, hkey, hbegun]

theorem mem_begunVisits {m : Machine σ} {k : Key} {c : Nat} (h : c ∈ begunVisits m k) :
    ∃ id parent stage, m.Visits c id parent stage ∧ id.key = k ∧ stage.isQueued = false := by
  obtain ⟨_, htask⟩ := Finset.mem_filter.mp h
  obtain ⟨⟨job, stage⟩, hc, hbegun⟩ := (Option.any_eq_true _ _).mp htask
  cases job with
  | visit id parent =>
      obtain ⟨hkey, hstage⟩ : id.key = k ∧ stage.isQueued = false := by simpa [Task.hasBegun] using hbegun
      exact ⟨id, parent, stage, hc, hkey, hstage⟩
  | whole work => cases hbegun
  | tool parent index task => cases hbegun

section

variable {s : Setup σ} {start : Node} {h h' : Hand} {m m' : Machine σ} {t : Nat} {id : NodeId}

/-- Every visit of a node other than the start node follows another one. -/
theorem Tree.follows {g : Graph} (htree : Tree g start m.jobs) {parent : Option Nat} {stage : Stage}
    (hvisits : m.Visits t id parent stage) (hstart : id.key ≠ start.id.key) :
    ∃ p pid, parent = some p ∧ Follows m.jobs t id p pid := by
  cases parent with
  | none =>
      obtain rfl := htree.parentless hvisits.job
      cases htree.root.symm.trans hvisits.job
      exact absurd rfl hstart
  | some p =>
      obtain ⟨_, pid, pparent, _, hparent, _⟩ := htree.child hvisits.job
      exact ⟨p, pid, rfl, hvisits.job, pparent, hparent⟩

/-- Where a node other than the start node is taken up, at least as many visits
of it as it waits for have come from other nodes. -/
theorem Sound.followers (hsound : Sound s start h m) (hmove : Move s h m h' m') (henters : Enters h m h' m' t id)
    (hstart : id.key ≠ start.id.key) {r : Nat} (hrequired : s.plan.graph.required id.key = .ok r) :
    ∃ cs : Finset Nat, max 1 r ≤ cs.card ∧ ∀ c ∈ cs, ∃ cid p pid, Follows m.jobs c cid p pid ∧ cid.key = id.key := by
  have htree := hsound.shape.tree
  obtain ⟨parent, hvisits⟩ := henters.visits
  obtain ⟨p, pid, rfl, hfollows⟩ := htree.follows hvisits hstart
  -- The visit itself, and all those that began before it.
  refine ⟨insert t (begunVisits m id.key), ?_, ?_⟩
  · rw [Finset.card_insert_of_notMem, card_begunVisits]
    · refine max_le (Nat.le_add_left 1 _) ?_
      obtain ⟨rfl, hworks⟩ : h = .holds (.start t) ∧ h'.works? = some t := ⟨henters.start, henters.works⟩
      cases hmove with
      | enter hvisits' _ hr hungated =>
          obtain ⟨rfl, rfl, _⟩ := hvisits.unique hvisits'
          cases hrequired.symm.trans hr
          rcases hungated with hnone | hfew
          · cases hnone
          · exact hfew.trans (Nat.le_add_left 1 _)
      | release hvisits' hnew hr hmany harrive =>
          obtain ⟨rfl, _⟩ := hvisits.unique hvisits'
          cases hrequired.symm.trans hr
          obtain ⟨r, hr', hgate, _⟩ := (GateOk.join hsound.gated.gates hnew hr hmany).required
          rw [join_key, hr] at hr'
          cases hr'
          have henough := (Gate.arrive_true harrive).2.2
          rw [hgate, join_arrived, hsound.gated.arrivals hnew hr hmany] at henough
          exact Int.ofNat_le.mp henough
      | _ => cases hworks
    · intro hc
      obtain ⟨_, _, stage, hvisits', _, hqueued⟩ := mem_begunVisits hc
      obtain ⟨_, _, rfl⟩ := hvisits.unique hvisits'
      cases hqueued
  · intro c hc
    rcases Finset.mem_insert.mp hc with rfl | hc
    · exact ⟨id, p, pid, hfollows, rfl⟩
    · obtain ⟨cid, cparent, stage, hvisits', hkey, _⟩ := mem_begunVisits hc
      obtain ⟨p', pid', _, hfollows'⟩ := htree.follows hvisits' (hkey ▸ hstart)
      exact ⟨cid, p', pid', hfollows', hkey⟩

/-- Where a node other than the start node and loops is taken up, each of its
sources has sent a branch. -/
theorem Sound.sources (hsound : Sound s start h m) (hmove : Move s h m h' m') (henters : Enters h m h' m' t id)
    (hstart : id.key ≠ start.id.key) {n : Node} (hn : s.plan.graph.node? id.key = some n) (hloop : n.kind ≠ .loop) :
    ∀ source ∈ s.plan.graph.sources id.key,
      ∃ c cid p pid, Follows m.jobs c cid p pid ∧ cid.key = id.key ∧ pid.key = source := by
  obtain ⟨cs, hmany, hcs⟩ := hsound.followers hmove henters hstart (Graph.required_eq hn hloop)
  exact Follows.sources hsound.shape.tree hsound.ran hcs ((le_max_right ..).trans hmany)

/-- A node is done where its visit has gone on to another node, and nobody
executes it any more. -/
structure Completed (m : Machine σ) (k : Key) : Prop where
  visited : k ∈ m.visited
  followed : ∃ c id p pid, Follows m.jobs c id p pid ∧ pid.key = k
  idle : ∀ {t id parent stage}, m.Visits t id parent stage → id.key = k → stage.isExecuting = false

/-- A node that has sent a branch is done, and its output is stored. -/
theorem Sound.completed (hsound : Sound s start h m) {c p : Nat} {cid pid : NodeId}
    (hfollows : Follows m.jobs c cid p pid) : Completed m pid.key ∧ HasOutput m pid.key := by
  refine ⟨⟨hsound.ran.follows hfollows, ⟨c, cid, p, pid, hfollows, rfl⟩, fun {t id parent stage} hvisits hkey => ?_⟩,
    hsound.keeping.output hfollows⟩
  cases hexec : stage.isExecuting with
  | false => rfl
  | true => exact absurd hkey.symm (hsound.ran.childless ⟨parent, stage, hvisits, .inl hexec⟩ hfollows)

/-! ## Steps that take up a node -/

/-- Once the event in hand has been dealt with, no node is taken up. -/
theorem Moves.visited (hmoves : Moves s h m m') (hdispatch : KeptDispatch s) (hsound : Sound s start h m)
    (hempty : h.event? = none) : m'.visited = m.visited := by
  induction hmoves with
  | idle => rfl
  | move hfirst _ ih =>
      rw [ih (hsound.move hfirst hdispatch) hfirst.empty]
      rcases hfirst.visited hsound.tokens with ⟨_, _, henters⟩ | hsame
      · rw [henters.start] at hempty
        cases hempty
      · exact hsame

/-- A step after which a node counts as visited takes it up first. -/
theorem step_enters (hdispatch : KeptDispatch s) (hsound : Sound s start .idle m) (hstep : step s m = some m')
    {k : Key} (hnew : k ∉ m.visited) (hk : k ∈ m'.visited) :
    ∃ e m₁ h₁ m₂ t id, Takes m e m₁ ∧ Move s (.holds e) m₁ h₁ m₂ ∧ Enters (.holds e) m₁ h₁ m₂ t id ∧ id.key = k := by
  obtain ⟨e, m₁, htakes, hmoves⟩ := takes_of_step hsound.shape.plain hstep
  have hsound₁ := hsound.takes htakes
  cases hmoves with
  | move hfirst hrest =>
      rw [hrest.visited hdispatch (hsound₁.move hfirst hdispatch) hfirst.empty] at hk
      rcases hfirst.visited hsound₁.tokens with ⟨t, id, henters⟩ | hsame
      · rw [henters.visited, htakes.visited] at hk
        rcases List.mem_cons.mp hk with rfl | hold
        · exact ⟨e, m₁, _, _, t, id, htakes, hfirst, henters, rfl⟩
        · exact absurd hold hnew
      · rw [hsame, htakes.visited] at hk
        exact absurd hk hnew

theorem endVisit_visited (plan : Plan) (m : Machine σ) (t : Nat) (failure : Option Failure) :
    (m.endVisit plan t failure).visited = m.visited := by
  have hstalled := checkStalled_visited plan ((m.setStage t .over).addActive (-1))
  unfold endVisit
  dsimp only
  split
  · exact hstalled
  · cases failure <;> exact hstalled

theorem afterNode_visited (plan : Plan) (m : Machine σ) (t : Nat) (id : NodeId) (n : Node) (output : Value) :
    (m.afterNode plan t id n output).visited = m.visited := by
  unfold afterNode
  split
  · exact endVisit_visited ..
  · split
    · dsimp only
      split
      · rfl
      · exact endVisit_visited ..
    · split
      · exact endVisit_visited ..
      · rfl

theorem finishWork_visited (plan : Plan) (m : Machine σ) (t : Nat) (outcome : Except Failure Value) :
    (m.finishWork plan t outcome).visited = m.visited := by
  unfold finishWork
  split
  · split
    · exact endVisit_visited ..
    · split
      · exact afterNode_visited ..
      · exact endVisit_visited ..
  · rfl

theorem proceed_visited (s : Setup σ) (t : Nat) (work : Step Value) :
    ∀ m : Machine σ, (proceed s t work m).visited = m.visited := by
  induction work with
  | done w v => exact fun m => finishWork_visited ..
  | fail w f => exact fun m => finishWork_visited ..
  | call w c next ih =>
      intro m
      unfold proceed
      dsimp only
      split
      · exact ih _ _ _
      · rfl
  | tools w tasks next ih =>
      intro m
      cases tasks with
      | nil => exact ih _ _ _
      | cons task tasks => rfl

theorem passGate_visited (plan : Plan) (m : Machine σ) (t : Nat) (id : NodeId) :
    (m.passGate plan t id).visited = m.visited := by
  obtain ⟨records, hpass⟩ := passGate_eq plan m t id
  rw [hpass]
  exact endVisit_visited ..

theorem park_visited (plan : Plan) (m : Machine σ) (t : Nat) (id : NodeId) :
    (m.park plan t id).visited = m.visited := by
  have hstalled := checkStalled_visited plan (m.addActive (-1))
  unfold park
  dsimp only
  split
  · exact (passGate_visited ..).trans hstalled
  · exact hstalled

theorem beginTool_visited (s : Setup σ) (m : Machine σ) (t parent index : Nat) (task : ToolTask) :
    (beginTool s m t parent index task).visited = m.visited := by
  unfold beginTool
  split
  · rfl
  · dsimp only
    split <;> rfl

/-- The dispatch of a node is carried out by a machine that has just marked it
as visited. -/
structure Executes (s : Setup σ) (m : Machine σ) (n : Node) (t : Nat) (m₁ m' : Machine σ) : Prop where
  node : s.plan.graph.node? n.id.key = some n
  grows : m.world.Grows m₁.world
  visited : m₁.visited = n.id.key :: m.visited
  proceeds : m' = proceed s t (s.dispatch n m₁.world) m₁

theorem Executes.result {n : Node} {m₁ : Machine σ} (h : Executes s m n t m₁ m') :
    m'.visited = n.id.key :: m.visited := by
  rw [h.proceeds, proceed_visited, h.visited]

theorem enter_executes {m₀ : Machine σ} (hvisited : m.visited = m₀.visited) (hgrows : m₀.world.Grows m.world) :
    (enter s m t id).visited = m₀.visited ∨ ∃ n m₁, Executes s m₀ n t m₁ (enter s m t id) := by
  unfold enter
  cases hn : s.plan.graph.node? id.key with
  | none => exact .inl ((endVisit_visited ..).trans hvisited)
  | some n =>
      have hkey := (Graph.node?_some hn).2
      exact .inr ⟨n, { m with visited := id.key :: m.visited }, hkey ▸ hn, hgrows, by rw [hkey, hvisited], rfl⟩

/-- Only the beginning of a visit takes up a node. -/
theorem beginVisit_executes (s : Setup σ) (m : Machine σ) (t : Nat) (id : NodeId) (gated : Bool) :
    (beginVisit s m t id gated).visited = m.visited ∨
      ∃ n m₁, Executes s m n t m₁ (beginVisit s m t id gated) := by
  unfold beginVisit
  split
  · exact .inl (endVisit_visited ..)
  · split
    · exact .inl (endVisit_visited ..)
    next required _ =>
      split
      · unfold arrive
        dsimp only
        split
        · have hworld := wake_world m { m.join id required with gate := (m.join id required).gate.arrive.2 }
          have houtputs := congrArg World.outputs hworld
          have hlog := congrArg World.log hworld
          exact enter_executes (wake_visited ..) (.of_eq houtputs hlog)
        · refine .inl ((park_visited ..).trans ?_)
          rw [setJoin_eq]
      · exact enter_executes rfl (.refl _)

theorem handle_executes (s : Setup σ) (m : Machine σ) (e : Event) :
    (handle s m e).visited = m.visited ∨ ∃ n t m₁, Executes s m n t m₁ (handle s m e) := by
  cases e with
  | start t =>
      simp only [handle]
      split
      · rcases beginVisit_executes s m t _ _ with hsame | ⟨n, m₁, hexecutes⟩
        · exact .inl hsame
        · exact .inr ⟨n, t, m₁, hexecutes⟩
      · exact .inl (proceed_visited ..)
      · exact .inl (beginTool_visited ..)
      · exact .inl rfl
  | pass t =>
      simp only [handle]
      split
      · exact .inl (passGate_visited ..)
      · exact .inl rfl
  | answer t outcome =>
      simp only [handle]
      split
      · exact .inl rfl
      · exact .inl (proceed_visited ..)
      · exact .inl rfl
  | ended t failure =>
      simp only [handle]
      split
      · split
        · exact .inl (endVisit_visited ..)
        · exact .inl rfl
      · exact .inl rfl
  | settled t index outcome =>
      simp only [handle]
      split
      · split
        · exact .inl (proceed_visited ..)
        · split
          · exact .inl (proceed_visited ..)
          · exact .inl rfl
      · exact .inl rfl

/-- A step carries out the dispatch of a new node, or it leaves the visited
nodes alone. -/
theorem step_dispatches (hstep : step s m = some m') :
    m'.visited = m.visited ∨ ∃ n t m₁, Executes s m n t m₁ m' := by
  have hhandle : ∀ (m₀ : Machine σ) (e : Event), m₀.visited = m.visited → m.world.Grows m₀.world →
      m' = handle s m₀ e → m'.visited = m.visited ∨ ∃ n t m₁, Executes s m n t m₁ m' := by
    rintro m₀ e hvisited hgrows rfl
    rcases handle_executes s m₀ e with hsame | ⟨n, t, m₁, hnode, hgrows', hmarks, hproceeds⟩
    · exact .inl (hsame.trans hvisited)
    · exact .inr ⟨n, t, m₁, hnode, .trans _ _ _ hgrows hgrows', hvisited ▸ hmarks, hproceeds⟩
  unfold step at hstep
  split at hstep
  · cases hstep
  · split at hstep
    next e rest _ => exact hhandle { m with ready := rest } e rfl (.refl _) (Option.some.inj hstep).symm
    · split at hstep
      next x rest _ =>
        exact hhandle { m with sleepers := rest, world := { m.world with clock := x.time } } _ rfl (.of_eq rfl rfl)
          (Option.some.inj hstep).symm
      · cases hstep

/-- A step after which a node counts as visited carries out its dispatch. -/
theorem step_executes (hstep : step s m = some m') {n : Node} (hn : s.plan.graph.node? n.id.key = some n)
    (hnew : n.id.key ∉ m.visited) (hk : n.id.key ∈ m'.visited) : ∃ t m₁, Executes s m n t m₁ m' := by
  rcases step_dispatches hstep with hsame | ⟨n', t, m₁, hexecutes⟩
  · exact absurd (hsame ▸ hk) hnew
  · rw [hexecutes.result] at hk
    rcases List.mem_cons.mp hk with hkey | hold
    · have hsame := hexecutes.node
      rw [← hkey, hn] at hsame
      cases hsame
      exact ⟨t, m₁, hexecutes⟩
    · exact absurd hold hnew

/-- Visited nodes stay visited. -/
theorem step_visited (hstep : step s m = some m') : m.visited ⊆ m'.visited := by
  rcases step_dispatches hstep with hsame | ⟨n, t, m₁, hexecutes⟩
  · rw [hsame]
    exact List.Subset.refl _
  · rw [hexecutes.result]
    exact List.subset_cons_self ..

end

/-! ## Nobody starts too early -/

theorem Launch.state_step (l : Launch σ) {k : Nat} (h : (l.state (k + 1)).visited ≠ (l.state k).visited) :
    step l.setup (l.state k) = some (l.state (k + 1)) := by
  rw [l.state_succ] at h ⊢
  cases hstep : step l.setup (l.state k) with
  | none =>
      rw [hstep] at h
      exact absurd rfl h
  | some m' => rfl

/-- When the scheduler takes up a node that is neither the start node nor a
loop, the sources of all edges into it are done and their outputs are stored.
So whatever the node reads of its predecessor is the predecessor's output, and
a transformer does not fail because a source has none. -/
theorem join_waits_for_all (l : Launch σ) (k : Nat) {n : Node} (hn : n ∈ l.graph.nodes) (hstart : n.kind ≠ .start)
    (hloop : n.kind ≠ .loop) (hnew : n.id.key ∉ (l.state k).visited)
    (hvisited : n.id.key ∈ (l.state (k + 1)).visited) :
    (∀ e ∈ l.graph.incoming n.id.key,
      Completed (l.state k) e.source.key ∧ HasOutput (l.state k) e.source.key) ∧
    ∃ t m, Executes l.setup (l.state k) n t m (l.state (k + 1)) ∧
      (∀ w, m.world.Grows w → ∀ e rest, l.graph.incoming n.id.key = e :: rest →
        w.output? e.source.key = some (w.predecessorOutput l.graph n.id.key)) ∧
      (n.kind = .transformer → (∀ p, l.plan.reach .transform = .error p → p.isNoSourceOutput = false) →
        (l.setup.dispatch n m.world).NeverStarves fun _ _ => True) := by
  have hsound := l.sound k
  have hstep := l.state_step fun heq => hnew (heq ▸ hvisited)
  have hnode : l.graph.node? n.id.key = some n := Graph.node?_mem hn
  obtain ⟨e₀, m₁, h₁, m₂, t, id, htakes, hmove, henters, hkey⟩ :=
    step_enters l.keptDispatch hsound hstep hnew hvisited
  have hother : id.key ≠ l.start.id.key := by
    intro heq
    have hfirst := (Graph.startNode_mem l.startNode_eq).1
    rw [← heq, hkey] at hfirst
    cases hnode.symm.trans hfirst
    exact hstart (Graph.startNode_mem l.startNode_eq).2
  have hsources := (hsound.takes htakes).sources hmove henters hother (n := n) (hkey ▸ hnode) hloop
  have hsupplied : ∀ e ∈ l.graph.incoming n.id.key,
      Completed (l.state k) e.source.key ∧ HasOutput (l.state k) e.source.key := by
    intro e he
    have hsource : e.source.key ∈ l.graph.sources id.key := by
      rw [hkey]
      exact Graph.mem_sources.mpr ⟨e, (Graph.mem_incoming.mp he).1, rfl, (Graph.mem_incoming.mp he).2⟩
    obtain ⟨c, cid, p, pid, hfollows, _, hpid⟩ := hsources _ hsource
    rw [htakes.jobs] at hfollows
    exact hpid ▸ hsound.completed hfollows
  refine ⟨hsupplied, ?_⟩
  obtain ⟨t', m, hexecutes⟩ := step_executes hstep (n := n) hnode hnew hvisited
  have hworld : m.world.Supplies l.graph n.id.key := fun e he =>
    hexecutes.grows.outputs _ (hsupplied e he).2
  refine ⟨t', m, hexecutes, fun w hgrows e rest hincoming => ?_, fun hkind hreach => ?_⟩
  · exact (hworld.grow hgrows).predecessorOutput hincoming
  · exact Execute.dispatch_starves l.given hkind hreach m.world hworld

/-! ## Two branches that meet again -/

/-- The transformer in which the branches of the diamond meet. -/
def merge : Node := sampleNode "merge" .transformer [("userRequest", .str "both")]

/-- Two branches that meet again in a transformer. -/
def diamond : Graph where
  nodes := [sampleStart, sampleNode "left" .state [], sampleNode "right" .state [], merge,
    sampleNode "out" .finish []]
  edges := [sampleEdge "in" "left", sampleEdge "in" "right", sampleEdge "left" "merge", sampleEdge "right" "merge",
    sampleEdge "merge" "out"]
  keys_nodup := by decide +kernel
  ends_mem := by decide +kernel

/-- A run of the diamond. -/
def diamondRun : Launch Unit := sampleRun diamond rfl

/-- The fifth step of the run takes up the transformer. -/
theorem merge_waits_for_both :
    Completed (diamondRun.state 4) (Key.ofString "left") ∧ Completed (diamondRun.state 4) (Key.ofString "right") ∧
      ∃ t m, Executes diamondRun.setup (diamondRun.state 4) merge t m (diamondRun.state 5) ∧
        (diamondRun.setup.dispatch merge m.world).NeverStarves fun _ _ => True := by
  obtain ⟨hsources, t, m, hexecutes, _, hnever⟩ := join_waits_for_all diamondRun 4 (n := merge)
    (List.mem_cons_of_mem _ (List.mem_cons_of_mem _ (List.mem_cons_of_mem _ List.mem_cons_self)))
    (by decide) (by decide) (by decide +kernel) (by decide +kernel)
  have hleft : sampleEdge "left" "merge" ∈ diamond.incoming (Key.ofString "merge") :=
    Graph.mem_incoming.mpr ⟨by simp [diamond], rfl⟩
  have hright : sampleEdge "right" "merge" ∈ diamond.incoming (Key.ofString "merge") :=
    Graph.mem_incoming.mpr ⟨by simp [diamond], rfl⟩
  exact ⟨(hsources _ hleft).1, (hsources _ hright).1, t, m, hexecutes, hnever rfl nofun⟩

end Workflow.Run
