import Workflow.Proofs.Joins

/-!
# Workflow.Proofs.BackEdges

What a loop waits for.

The join at a loop waits for as many branches as there are nodes that lead into
the loop elsewhere than at its end handle.  The branches that arrive are those
of all edges, the edges by which the body returns included, and they are
counted, not told apart.  So one branch out of the body makes up for one
predecessor that is not done (`loop_starts_short`), and no more than that is
wrong: every missing predecessor has a stand-in of its own
(`loop_waits_for_enough`).
-/

namespace Workflow

namespace Graph

variable {g : Graph} {n : Node} {source : Key}

/-! ## Two ways into a loop -/

/-- Does an edge close a loop at the node that it enters? -/
def closes (n : Node) (e : Edge NodeId) : Bool := (closesLoop n e.targetHandle).toOption.getD false

/-- The nodes that lead into a node otherwise than by closing a loop. -/
def awaited (g : Graph) (n : Node) : List Key :=
  (distinct (((g.incoming n.id.key).filter fun e => !closes n e).map (·.source))).map (·.key)

theorem mem_awaited : source ∈ g.awaited n ↔
    ∃ e ∈ g.incoming n.id.key, closes n e = false ∧ e.source.key = source := by
  unfold awaited
  rw [mem_keys_distinct]
  simp only [List.map_map, List.mem_map, List.mem_filter, Function.comp_apply, Bool.not_eq_true']
  constructor
  · rintro ⟨e, ⟨he, hcloses⟩, hsource⟩
    exact ⟨e, he, hcloses, hsource⟩
  · rintro ⟨e, he, hcloses, hsource⟩
    exact ⟨e, ⟨he, hcloses⟩, hsource⟩

theorem awaited_nodup (g : Graph) (n : Node) : (g.awaited n).Nodup := keys_distinct_nodup _

/-- The nodes that lead into a node only by closing a loop. -/
def Returns (g : Graph) (n : Node) (source : Key) : Prop :=
  g.Links source n.id.key ∧ ∀ e ∈ g.incoming n.id.key, e.source.key = source → closes n e = true

theorem awaited_or_returns (h : g.Links source n.id.key) : source ∈ g.awaited n ∨ g.Returns n source := by
  by_cases hawaited : source ∈ g.awaited n
  · exact .inl hawaited
  · refine .inr ⟨h, fun e he hsource => ?_⟩
    cases hcloses : closes n e with
    | true => rfl
    | false => exact absurd (mem_awaited.mpr ⟨e, he, hcloses, hsource⟩) hawaited

/-- A join waits for the nodes that lead into the node otherwise than by closing a loop. -/
theorem required_awaited (hnode : g.node? n.id.key = some n) {r : Nat} (hrequired : g.required n.id.key = .ok r)
    (hincoming : g.incoming n.id.key ≠ []) : r = (g.awaited n).length := by
  have hloop : n.kind = .loop → ∃ handle, n.loopEndHandle = .ok handle := by
    intro hkind
    cases hhandle : n.loopEndHandle with
    | ok handle => exact ⟨handle, rfl⟩
    | error f =>
        obtain ⟨e, es, hes⟩ := List.exists_cons_of_ne_nil hincoming
        have hback := isBackEdge_of_mem_incoming hnode (hes ▸ List.mem_cons_self) e.targetHandle
        have hsift : ((e :: es).filterM fun e => (do return !(← g.isBackEdge e.target.value e.targetHandle) :
            Except Fault Bool)) = .error f := by
          refine filterM_error ?_ es
          simp [hback, closesLoop, hkind, hhandle, bind, Except.bind]
        rw [required, hes, hsift] at hrequired
        cases hrequired
  have hcloses : ∀ handle, ∃ b, closesLoop n handle = .ok b := by
    intro v
    by_cases hkind : n.kind = .loop
    · obtain ⟨handle, hhandle⟩ := hloop hkind
      exact ⟨v.eq handle, by simp [closesLoop, hkind, hhandle, bind, Except.bind, pure, Except.pure]⟩
    · exact ⟨false, by simp [closesLoop, hkind]⟩
  choose b hb using hcloses
  have hlength := required_of_closesLoop b hnode hb
  rw [hrequired] at hlength
  have hsame : ∀ e : Edge NodeId, closes n e = b e.targetHandle := fun e => by simp [closes, hb, Except.toOption]
  rw [Except.ok.inj hlength]
  simp [awaited, hsame]

end Graph

namespace Run

open Machine

variable {σ : Type}

/-! ## As many branches as there are predecessors -/

/-- A node is taken up only where it is known how many branches it waits for. -/
theorem Enters.required {s : Setup σ} {h h' : Hand} {m m' : Machine σ} {t : Nat} {id : NodeId}
    (henters : Enters h m h' m' t id) (hmove : Move s h m h' m') : ∃ r, s.plan.graph.required id.key = .ok r := by
  obtain ⟨rfl, ⟨parent, hvisits⟩, hworks, -⟩ := henters
  cases hmove with
  | enter hvisits' _ hr | release hvisits' _ hr =>
      obtain ⟨rfl, -⟩ := hvisits.unique hvisits'
      exact ⟨_, hr⟩
  | _ => cases hworks

section

variable {s : Setup σ} {start : Node} {h h' : Hand} {m m' : Machine σ} {t : Nat} {id : NodeId}

/-- Where a node is taken up, at least as many nodes as it waits for have sent a
branch, and they are done. -/
theorem Sound.origins (hsound : Sound s start h m) (hmove : Move s h m h' m') (henters : Enters h m h' m' t id)
    (hstart : id.key ≠ start.id.key) {r : Nat} (hrequired : s.plan.graph.required id.key = .ok r) :
    ∃ origins : Finset Key, max 1 r ≤ origins.card ∧
      ∀ source ∈ origins, s.plan.graph.Links source id.key ∧ Completed m source ∧ HasOutput m source := by
  obtain ⟨cs, hmany, hcs⟩ := hsound.followers hmove henters hstart hrequired
  choose! cid p pid hfollows hkey using hcs
  have hinj : Set.InjOn (fun c => (pid c).key) cs := fun c hc c' hc' heq =>
    hsound.ran.apart (hfollows c hc) (hfollows c' hc') ((hkey c hc).trans (hkey c' hc').symm) heq
  refine ⟨cs.image fun c => (pid c).key, ?_, ?_⟩
  · rw [Finset.card_image_of_injOn hinj]
    exact hmany
  · intro source hsource
    obtain ⟨c, hc, rfl⟩ := Finset.mem_image.mp hsource
    obtain ⟨hjob, pparent, hparent⟩ := hfollows c hc
    obtain ⟨_, pid', pparent', _, hparent', _, _, hlinks⟩ := hsound.shape.tree.child hjob
    cases hparent.symm.trans hparent'
    rw [hkey c hc] at hlinks
    exact ⟨hlinks, hsound.completed (hfollows c hc)⟩

theorem Takes.completed {e : Event} (htakes : Takes m e m') {source : Key} (h : Completed m' source) :
    Completed m source := by
  obtain ⟨hvisited, ⟨c, cid, p, pid, hfollows, hkey⟩, hidle⟩ := h
  refine ⟨htakes.visited ▸ hvisited, ⟨c, cid, p, pid, htakes.jobs ▸ hfollows, hkey⟩, ?_⟩
  exact fun hvisits => hidle (hvisits.of_tasks htakes.tasks)

end

/-! ## Loops -/

/-- When the scheduler takes up a loop, there is for each of the nodes that it
should have waited for and that are not done another one that is done, and that
leads into the loop at its end handle only. -/
theorem loop_waits_for_enough (l : Launch σ) (k : Nat) {n : Node} (hn : n ∈ l.graph.nodes) (hloop : n.kind = .loop)
    (hnew : n.id.key ∉ (l.state k).visited) (hvisited : n.id.key ∈ (l.state (k + 1)).visited)
    {missing : Finset Key}
    (hmissing : ∀ source ∈ missing, source ∈ l.graph.awaited n ∧ ¬Completed (l.state k) source) :
    ∃ standIns : Finset Key, missing.card ≤ standIns.card ∧
      ∀ source ∈ standIns,
        l.graph.Returns n source ∧ Completed (l.state k) source ∧ HasOutput (l.state k) source := by
  have hsound := l.sound k
  have hstep := l.state_step fun heq => hnew (heq ▸ hvisited)
  have hnode : l.graph.node? n.id.key = some n := Graph.node?_mem hn
  obtain ⟨e, m₁, h₁, m₂, t, id, htakes, hmove, henters, hkey⟩ :=
    step_enters l.keptDispatch hsound hstep hnew hvisited
  have hother : id.key ≠ l.start.id.key := by
    intro heq
    obtain ⟨hfirst, hkind⟩ := Graph.startNode_mem l.startNode_eq
    rw [← heq, hkey] at hfirst
    cases hnode.symm.trans hfirst
    rw [hloop] at hkind
    cases hkind
  obtain ⟨r, hrequired⟩ := henters.required hmove
  obtain ⟨origins, hmany, horigins⟩ := (hsound.takes htakes).origins hmove henters hother hrequired
  rw [hkey] at hrequired horigins
  have hdone : ∀ source ∈ origins,
      l.graph.Links source n.id.key ∧ Completed (l.state k) source ∧ HasOutput (l.state k) source := by
    intro source hsource
    obtain ⟨hlinks, hcompleted, houtput⟩ := horigins source hsource
    exact ⟨hlinks, htakes.completed hcompleted, by rw [HasOutput, ← htakes.outputs]; exact houtput⟩
  have hincoming : l.graph.incoming n.id.key ≠ [] := by
    obtain ⟨source, hsource⟩ := Finset.card_pos.mp ((le_max_left 1 r).trans hmany)
    obtain ⟨e, he, -, htarget⟩ := (hdone source hsource).1
    exact List.ne_nil_of_mem (Graph.mem_incoming.mpr ⟨he, htarget⟩)
  have hexpected : (l.graph.awaited n).toFinset.card ≤ origins.card := by
    rw [List.toFinset_card_of_nodup (Graph.awaited_nodup ..), ← Graph.required_awaited hnode hrequired hincoming]
    exact (le_max_right ..).trans hmany
  -- Nobody who has sent a branch is missing, so the branches of the missing ones are made up for by others.
  refine ⟨origins \ (l.graph.awaited n).toFinset, ?_, fun source hsource => ?_⟩
  · refine (Finset.card_le_card fun source hsource => ?_).trans (Finset.card_sdiff_le_card_sdiff_iff.mpr hexpected)
    obtain ⟨hawaited, hopen⟩ := hmissing source hsource
    exact Finset.mem_sdiff.mpr ⟨List.mem_toFinset.mpr hawaited, fun horigin => hopen (hdone source horigin).2.1⟩
  · obtain ⟨horigin, hnot⟩ := Finset.mem_sdiff.mp hsource
    obtain ⟨hlinks, hrest⟩ := hdone source horigin
    exact ⟨(Graph.awaited_or_returns hlinks).resolve_left fun h => hnot (List.mem_toFinset.mpr h), hrest⟩

/-! ## A loop that starts too early -/

/-- An edge that closes the loop `round`. -/
def closing (source : String) : Edge NodeId :=
  { sampleEdge source "round" with targetHandle := .str "round-loop-end" }

/-- A loop with a single pass. -/
def round : Node := sampleNode "round" .loop [("maxIterations", .int 1)]

/-- A loop that two nodes lead into, one of them slow, and with a third node
wired to its end handle beside its body. -/
def shortcut : Graph where
  nodes := [sampleStart, sampleNode "left" .state [],
    sampleNode "slow" .tool [("type", .str "built-in"), ("tool", .record [("id", .str "slow")])],
    sampleNode "stray" .state [], round, sampleNode "body" .state []]
  edges := [sampleEdge "in" "left", sampleEdge "in" "slow", sampleEdge "in" "stray", sampleEdge "left" "round",
    sampleEdge "slow" "round", closing "stray",
    { sampleEdge "round" "body" with sourceHandle := .str "round-loop-start" }, closing "body"]
  keys_nodup := by decide +kernel
  ends_mem := by decide +kernel

/-- A run of the shortcut. -/
def shortcutRun : Launch Unit := sampleRun shortcut rfl

/-- In the sixth step of the run the slow predecessor is not done. -/
theorem slow_missing : Key.ofString "slow" ∈ shortcut.awaited round ∧
    ¬Completed (shortcutRun.state 5) (Key.ofString "slow") := by
  constructor
  · decide +kernel
  · rintro ⟨-, ⟨c, id, p, pid, hfollows, hkey⟩, -⟩
    have houtput := ((shortcutRun.sound 5).completed hfollows).2
    rw [hkey] at houtput
    revert houtput
    unfold HasOutput
    decide +kernel

/-- It has a stand-in. -/
theorem slow_has_stand_in : ∃ standIns : Finset Key, 1 ≤ standIns.card ∧
    ∀ source ∈ standIns, shortcut.Returns round source ∧ Completed (shortcutRun.state 5) source ∧
      HasOutput (shortcutRun.state 5) source := by
  have hmissing : ∀ source ∈ ({Key.ofString "slow"} : Finset Key),
      source ∈ shortcut.awaited round ∧ ¬Completed (shortcutRun.state 5) source := fun source hsource =>
    Finset.mem_singleton.mp hsource ▸ slow_missing
  exact loop_waits_for_enough shortcutRun 5 (n := round)
    (by simp [shortcutRun, sampleRun, openPlan, Launch.graph, shortcut]) rfl (by decide +kernel) (by decide +kernel)
    hmissing

/-- The branch that comes in at the loop's end handle stands in for the slow
predecessor: the loop is taken up before that one is done. -/
theorem loop_starts_short :
    (∃ e ∈ shortcut.incoming round.id.key,
      Graph.closesLoop round e.targetHandle = .ok false ∧ e.source.key = Key.ofString "slow") ∧
    round.id.key ∉ (shortcutRun.state 5).visited ∧ round.id.key ∈ (shortcutRun.state 6).visited ∧
    ¬Completed (shortcutRun.state 5) (Key.ofString "slow") ∧ ¬HasOutput (shortcutRun.state 6) (Key.ofString "slow") := by
  refine ⟨⟨sampleEdge "slow" "round", Graph.mem_incoming.mpr ⟨by simp [shortcut], rfl⟩, rfl, rfl⟩,
    by decide +kernel, by decide +kernel, slow_missing.2, ?_⟩
  unfold HasOutput
  decide +kernel

end Run
end Workflow
