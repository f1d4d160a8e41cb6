import Workflow.Proofs.Choices
import Workflow.Proofs.Halting
import Mathlib.Data.Set.Card

/-!
# Workflow.Proofs.Confluence

Which nodes a run executes does not depend on the order of its events.

Where it is given what each branching node selects, it is also given which
nodes lead to which (`Graph.Leads`).  A node is taken up as soon as enough of
the nodes that have been taken up lead to it, so at the end of a run without
failures the visited nodes are the least set that is closed under this rule
(`Graph.Closed`).  That they are closed follows from what is `Led`: whoever is
done has sent a branch to every node it leads to.  That they are the least such
set follows step by step, since the visits that have arrived at a gate come
from different nodes.
-/

namespace Workflow

/-! ## Closed sets of nodes -/

namespace Graph

variable {g : Graph} {sel : Key → Value} {a k : Key} {E : Set Key}

/-- Does the one node lead to the other where the branching nodes select the
given handles? -/
def Leads (g : Graph) (sel : Key → Value) (source target : Key) : Prop :=
  ∃ n, g.node? source = some n ∧ ∃ i ∈ g.targets n (sel source), i.key = target

/-- How many members of a set lead to a node. -/
noncomputable def leading (g : Graph) (sel : Key → Value) (E : Set Key) (k : Key) : Nat :=
  {a ∈ E | g.Leads sel a k}.ncard

/-- The start node is in the set, and every node is to which as many members
lead as it waits for, and one at least. -/
structure Closed (g : Graph) (sel : Key → Value) (start : Key) (E : Set Key) : Prop where
  start : start ∈ E
  joins : ∀ {k r}, g.required k = .ok r → max 1 r ≤ g.leading sel E k → k ∈ E

theorem leads_finite (g : Graph) (sel : Key → Value) (E : Set Key) (k : Key) :
    {a ∈ E | g.Leads sel a k}.Finite := by
  refine g.keys.toFinset.finite_toSet.subset fun a ha => ?_
  obtain ⟨_, n, hn, _⟩ := ha
  exact List.mem_toFinset.mpr (mem_keys_of_node? hn)

/-- As many members lead to a node as have been told apart. -/
theorem card_le_leading {cs : Finset Nat} (source : Nat → Key)
    (hsource : ∀ c ∈ cs, source c ∈ E ∧ g.Leads sel (source c) k) (hinj : Set.InjOn source cs) : cs.card ≤ g.leading sel E k := by
  rw [← Set.ncard_coe_finset cs, ← hinj.ncard_image]
  refine Set.ncard_le_ncard ?_ (leads_finite g sel E k)
  rintro _ ⟨c, hc, rfl⟩
  exact hsource c hc

end Graph

namespace Run

open Machine

variable {σ : Type}

/-! ## Whoever is done has sent its branches -/

/-- Visits follow others where these lead, a node that is done has been
followed by all nodes it leads to, and a node that does not wait is taken up by
its first visit. -/
structure Led (g : Graph) (sel : Key → Value) (h : Hand) (m : Machine σ) : Prop where
  follows : ∀ {c id p pid}, Follows m.jobs c id p pid → g.Leads sel pid.key id.key
  followed : ∀ {a k}, a ∈ m.visited → (∀ t id, Executing h m t id → id.key ≠ a) → g.Leads sel a k →
    ∃ c id p pid, Follows m.jobs c id p pid ∧ pid.key = a ∧ id.key = k
  ungated : ∀ {k r}, k ∉ m.visited → g.required k = .ok r → r ≤ 1 → begun m k = 0

section

variable {s : Setup σ} {start : Node} {sel : Key → Value} {h h' : Hand} {m m' : Machine σ}

/-- Who has followed still follows. -/
theorem Follows.append {jobs : List Job} {c p : Nat} {id pid : NodeId} (hfollows : Follows jobs c id p pid)
    (js : List Job) : Follows (jobs ++ js) c id p pid := by
  obtain ⟨hc, pparent, hp⟩ := hfollows
  refine ⟨?_, pparent, ?_⟩
  · rw [List.getElem?_append_left (List.getElem?_eq_some_iff.mp hc).1, hc]
  · rw [List.getElem?_append_left (List.getElem?_eq_some_iff.mp hp).1, hp]

theorem Follows.move (hmove : Move s h m h' m') {c p : Nat} {id pid : NodeId} (hfollows : Follows m.jobs c id p pid) :
    Follows m'.jobs c id p pid := by
  rcases hmove.jobs with hjobs | ⟨_, _, _, _, _, _, _, _, _, _, hjobs⟩ | ⟨_, _, _, _, _, hjobs⟩
  · exact hjobs ▸ hfollows
  · exact hjobs ▸ hfollows.append _
  · exact hjobs ▸ hfollows.append _

/-- The new visits follow the one that begins them. -/
theorem follows_new {jobs : List Job} {t : Nat} {id : NodeId} {parent : Option Nat}
    (ht : jobs[t]? = some (.visit id parent)) {ids : List NodeId} {i : NodeId} (hi : i ∈ ids) :
    ∃ c, Follows (jobs ++ branches t ids) c i t id := by
  obtain ⟨x, hx⟩ := List.mem_iff_getElem?.mp hi
  refine ⟨jobs.length + x, ?_, parent, ?_⟩
  · rw [List.getElem?_append_right (Nat.le_add_right ..), Nat.add_sub_cancel_left, branches, List.getElem?_map, hx]
    rfl
  · rw [List.getElem?_append_left (List.getElem?_eq_some_iff.mp ht).1, ht]

theorem Move.visited_subset (hmove : Move s h m h' m') (htokens : Tokens h m) : m.visited ⊆ m'.visited := by
  rcases hmove.visited htokens with ⟨_, _, henters⟩ | hsame
  · rw [henters.visited]
    exact List.subset_cons_self ..
  · rw [hsame]
    exact List.Subset.refl _

namespace Led

theorem follows_move (hmove : Move s h m h' m') (hsound : Sound s start h m) (hchosen : Chosen s.plan.graph sel h m)
    (hled : Led s.plan.graph sel h m) {c p : Nat} {id pid : NodeId} (hfollows : Follows m'.jobs c id p pid) :
    s.plan.graph.Leads sel pid.key id.key := by
  rcases hmove.jobs with hjobs | ⟨t, tid, parent, stage, n, w, v, hh, hvisits, hn, hjobs⟩ | ⟨t, w, tasks, next, _, hjobs⟩
  · exact hled.follows (hjobs ▸ hfollows)
  · rw [hjobs] at hfollows
    have hlt : t < m.jobs.length := (List.getElem?_eq_some_iff.mp hvisits.job).1
    rcases follows_branches hsound.shape.tree hlt hfollows with hold | ⟨_, hid, _, pparent, hpid⟩
    · exact hled.follows hold
    · cases hvisits.job.symm.trans hpid
      rw [hchosen hh hvisits hn] at hid
      exact ⟨n, hn, id, List.mem_of_getElem? hid, rfl⟩
  · rw [hjobs] at hfollows
    exact hled.follows (follows_toolCalls hsound.shape.tree hfollows)

theorem followed_move (hmove : Move s h m h' m') (hsound : Sound s start h m) (hunfailed : ¬Failed h m)
    (hchosen : Chosen s.plan.graph sel h m) (hled : Led s.plan.graph sel h m) {a k : Key} (ha : a ∈ m'.visited)
    (hnobody : ∀ t id, Executing h' m' t id → id.key ≠ a) (hleads : s.plan.graph.Leads sel a k) :
    ∃ c id p pid, Follows m'.jobs c id p pid ∧ pid.key = a ∧ id.key = k := by
  have hold : a ∈ m.visited := by
    rcases hmove.visited hsound.tokens with ⟨t, id, henters⟩ | hsame
    · obtain ⟨parent, hvisits⟩ := henters.visits
      have hexec : Executing h' m' t id :=
        ⟨parent, .over, (hvisits.setStage .over).of_tasks henters.tasks, .inr henters.works⟩
      rw [henters.visited] at ha
      exact (List.mem_cons.mp ha).resolve_left (hnobody t id hexec).symm
    · exact hsame ▸ ha
  by_cases hbefore : ∀ t id, Executing h m t id → id.key ≠ a
  · obtain ⟨c, id, p, pid, hfollows, hpid, hid⟩ := hled.followed hold hbefore hleads
    exact ⟨c, id, p, pid, hfollows.move hmove, hpid, hid⟩
  · push Not at hbefore
    obtain ⟨t, id, hexec, rfl⟩ := hbefore
    obtain ⟨n, hn, i, hi, hik⟩ := hleads
    rcases hmove.executing_ends hsound.shape hsound.tokens hexec with hexec' | ⟨w, v, rfl⟩ | ⟨w, f, rfl⟩
    · exact absurd rfl (hnobody t id hexec')
    · cases hmove with
      | spread hvisits hn' =>
          obtain ⟨_, hjob⟩ := hexec.job
          cases hvisits.job.symm.trans hjob
          cases hn.symm.trans hn'
          rw [← hchosen rfl hvisits hn] at hi
          obtain ⟨c, hfollows⟩ := follows_new hjob hi
          refine ⟨c, i, t, id, ?_, rfl, hik⟩
          rw [jobs_fanOut]
          exact hfollows
      | stop hvisits hnowhere =>
          obtain ⟨_, hjob⟩ := hexec.job
          cases hvisits.job.symm.trans hjob
          rw [← hchosen rfl hvisits hn, hnowhere n hn] at hi
          cases hi
    · exact absurd (.inl rfl) hunfailed

theorem ungated_move (hmove : Move s h m h' m') (hsound : Sound s start h m) (hled : Led s.plan.graph sel h m) {k : Key}
    {r : Nat} (hnew : k ∉ m'.visited) (hr : s.plan.graph.required k = .ok r) (hfew : r ≤ 1) : begun m' k = 0 := by
  have hbefore := hled.ungated (fun hmem => hnew (hmove.visited_subset hsound.tokens hmem)) hr hfew
  rcases hmove.begun hsound.shape hsound.tokens with hsame | ⟨t, id, parent, rfl, hvisits, hbegun⟩
  · rw [hsame, hbefore]
  · rw [hbegun, hbefore, Nat.zero_add]
    refine congrArg Bool.toNat (beq_eq_false_iff_ne.mpr ?_)
    rintro rfl
    cases hmove with
    | skip hvisits' hmem =>
        obtain ⟨rfl, _⟩ := hvisits.unique hvisits'
        exact hnew hmem
    | refuse hvisits' _ hfault =>
        obtain ⟨rfl, _⟩ := hvisits.unique hvisits'
        cases hr.symm.trans hfault
    | absent hvisits' hnone =>
        obtain ⟨rfl, _⟩ := hvisits.unique hvisits'
        obtain ⟨n, hn⟩ := hsound.shape.tree.known hvisits.job
        cases hn.symm.trans hnone
    | enter hvisits' =>
        obtain ⟨rfl, _⟩ := hvisits.unique hvisits'
        exact hnew List.mem_cons_self
    | release hvisits' =>
        obtain ⟨rfl, _⟩ := hvisits.unique hvisits'
        exact hnew List.mem_cons_self
    | park hvisits' _ hr' hmany | turn hvisits' _ hr' hmany =>
        obtain ⟨rfl, _⟩ := hvisits.unique hvisits'
        cases hr.symm.trans hr'
        exact absurd hmany (Nat.not_lt_of_le hfew)
    | drop hstale => cases hvisits.symm.trans hstale
    | toolError htools | toolReply htools | toolCall htools => exact hvisits.not_tools htools

/-- Every move without failures keeps to where nodes lead. -/
theorem move (hmove : Move s h m h' m') (hsound : Sound s start h m) (hunfailed : ¬Failed h m)
    (hchosen : Chosen s.plan.graph sel h m) (hled : Led s.plan.graph sel h m) : Led s.plan.graph sel h' m' where
  follows := hled.follows_move hmove hsound hchosen
  followed := hled.followed_move hmove hsound hunfailed hchosen
  ungated := hled.ungated_move hmove hsound

theorem takes {e : Event} (htakes : Takes m e m') (hled : Led s.plan.graph sel .idle m) :
    Led s.plan.graph sel (.holds e) m' := by
  have hjobs := htakes.jobs
  constructor
  case follows => exact fun hfollows => hled.follows (hjobs ▸ hfollows)
  case followed =>
    intro a k ha hnobody hleads
    rw [htakes.visited] at ha
    rw [hjobs]
    exact hled.followed ha (fun t id hexec => hnobody t id (hexec.of_tasks htakes.tasks.symm nofun)) hleads
  case ungated =>
    intro k r hnew
    rw [htakes.visited] at hnew
    rw [begun_of_tasks htakes.tasks]
    exact hled.ungated hnew

/-- As a run begins nobody follows anybody. -/
theorem single (g : Graph) (w : World) (services : σ) (id : NodeId) (active : Int) :
    Led g sel .idle (Machine.single w services (.visit id none) active) := by
  constructor
  case follows => exact fun hf => absurd hf not_follows_single
  case followed => exact fun ha => absurd ha List.not_mem_nil
  case ungated => exact fun {k r} _ _ _ => by simp [begun, Machine.single, Task.hasBegun, Stage.isQueued]

/-- A node that is taken up is in every closed set that the nodes taken up
before it are in. -/
theorem closed_of_enters (hled : Led s.plan.graph sel h m) (hsound : Sound s start h m) (hmove : Move s h m h' m')
    {t : Nat} {id : NodeId} (henters : Enters h m h' m' t id) (hrequired : ∀ k, ∃ r, s.plan.graph.required k = .ok r)
    {E : Set Key} (hclosed : s.plan.graph.Closed sel start.id.key E) (hbefore : ∀ a ∈ m.visited, a ∈ E) :
    id.key ∈ E := by
  by_cases hstart : id.key = start.id.key
  · exact hstart ▸ hclosed.start
  · obtain ⟨r, hr⟩ := hrequired id.key
    obtain ⟨cs, hmany, hcs⟩ := hsound.followers hmove henters hstart hr
    choose! cid p pid hfollows hkey using hcs
    refine hclosed.joins hr (hmany.trans (Graph.card_le_leading (fun c => (pid c).key) ?_ ?_))
    · intro c hc
      exact ⟨hbefore _ (hsound.ran.follows (hfollows c hc)), hkey c hc ▸ hled.follows (hfollows c hc)⟩
    · intro c hc c' hc' hsame
      exact hsound.ran.apart (hfollows c hc) (hfollows c' hc') ((hkey c hc).trans (hkey c' hc').symm) hsame

end Led

end

/-! ## Who is visited -/

namespace Launch

theorem visited_mono (l : Launch σ) {i k : Nat} (hle : i ≤ k) : (l.state i).visited ⊆ (l.state k).visited := by
  induction k, hle using Nat.le_induction with
  | base => exact List.Subset.refl _
  | succ k _ ih =>
      rw [l.state_succ]
      cases hstep : step l.setup (l.state k) with
      | none => exact ih
      | some m' => exact fun a ha => step_visited hstep (ih ha)

/-- The first step takes up the start node. -/
theorem start_visited (l : Launch σ) (hrequired : ∀ k, ∃ r, l.graph.required k = .ok r) :
    l.start.id.key ∈ (l.state 1).visited := by
  obtain ⟨r, hr⟩ := hrequired l.start.id.key
  have hstep : step l.setup l.first =
      some (beginVisit l.setup { l.first with ready := [] } 0 l.start.id false) := rfl
  have hstate : l.state 1 = beginVisit l.setup { l.first with ready := [] } 0 l.start.id false := by
    rw [l.state_succ, l.state_zero, hstep]
    rfl
  have hnode : l.setup.plan.graph.node? l.start.id.key = some l.start := (Graph.startNode_mem l.startNode_eq).1
  have hnew : ({ l.first with ready := [] } : Machine σ).visited.contains l.start.id.key = false := rfl
  have hr' : l.setup.plan.graph.required l.start.id.key = .ok r := hr
  rw [hstate]
  unfold beginVisit
  rw [hnew, hr']
  simp only [Bool.false_eq_true, if_false, Bool.false_and]
  unfold enter
  rw [hnode]
  dsimp only
  rw [proceed_visited]
  exact List.mem_cons_self

section

variable {l : Launch σ} {sel : Key → Value}

/-- Every state of a run without failures keeps to where nodes lead. -/
theorem led (hnone : ∀ k, (l.state k).failures = []) (hselects : l.Selects sel) (k : Nat) :
    Led l.graph sel .idle (l.state k) :=
  l.selecting_induct hnone hselects (.single ..) (fun htakes _ h => h.takes (s := l.setup) htakes)
    (fun hmove hsound hunfailed hchosen h => h.move hmove hsound hunfailed hchosen) k

/-- All nodes that are taken up are in every closed set. -/
theorem visited_closed (hnone : ∀ k, (l.state k).failures = []) (hselects : l.Selects sel)
    (hrequired : ∀ k, ∃ r, l.graph.required k = .ok r) {E : Set Key} (hclosed : l.graph.Closed sel l.start.id.key E)
    (k : Nat) : ∀ a ∈ (l.state k).visited, a ∈ E := by
  refine (l.selecting_induct hnone hselects (I := fun h m => Led l.graph sel h m ∧ ∀ a ∈ m.visited, a ∈ E)
    ⟨.single .., fun _ ha => absurd ha List.not_mem_nil⟩ ?_ ?_ k).2
  · rintro m e m₁ htakes _ ⟨hled, hbefore⟩
    exact ⟨hled.takes (s := l.setup) htakes, htakes.visited ▸ hbefore⟩
  · rintro h₁ m₁ h₂ m₂ hmove hsound hunfailed hchosen ⟨hled, hbefore⟩
    refine ⟨hled.move hmove hsound hunfailed hchosen, fun a ha => ?_⟩
    rcases hmove.visited hsound.tokens with ⟨t, id, henters⟩ | hsame
    · rw [henters.visited] at ha
      rcases List.mem_cons.mp ha with rfl | hold
      · exact hled.closed_of_enters hsound hmove henters hrequired hclosed hbefore
      · exact hbefore a hold
    · exact hbefore a (hsame ▸ ha)

/-- When a run without failures is over, as many visits of a node have begun as
there are visited nodes that lead to it. -/
theorem leading_le_begun (hnone : ∀ k, (l.state k).failures = []) (hselects : l.Selects sel) {N : Nat}
    (hover : (l.state N).outcome ≠ none) (k : Key) :
    l.graph.leading sel {a | a ∈ (l.state N).visited} k ≤ begun (l.state N) k := by
  have hstages : ∀ {t id parent stage}, (l.state N).Visits t id parent stage → stage = .over :=
    (l.alive hnone N).finished hover
  have hnobody : ∀ {t id}, ¬Executing .idle (l.state N) t id := by
    rintro t id ⟨parent, stage, hvisits, hexec⟩
    obtain rfl := hstages hvisits
    rcases hexec with hexec | hexec <;> cases hexec
  have hfollowed : ∀ a ∈ {a | a ∈ (l.state N).visited ∧ l.graph.Leads sel a k},
      ∃ c id p pid, Follows (l.state N).jobs c id p pid ∧ pid.key = a ∧ id.key = k := fun a ha =>
    (led hnone hselects N).followed ha.1 (fun t id hexec => absurd hexec hnobody) ha.2
  choose! c id p pid hfollows hpid hid using hfollowed
  rw [← card_begunVisits, ← Set.ncard_coe_finset]
  refine Set.ncard_le_ncard_of_injOn c (fun a ha => ?_) (fun a ha b hb hsame => ?_) (Finset.finite_toSet _)
  · obtain ⟨stage, hvisits⟩ := jobs_getElem?.mp (hfollows a ha).1
    obtain rfl := hstages hvisits
    exact begunVisits_mem hvisits (hid a ha) rfl
  · obtain ⟨hjob, _, hparent⟩ := hfollows a ha
    obtain ⟨hjob', _, hparent'⟩ := hfollows b hb
    rw [← hsame, hjob] at hjob'
    injection hjob' with hjob'
    injection hjob' with _ hp
    injection hp with hp
    rw [← hp, hparent] at hparent'
    injection hparent' with hparent'
    injection hparent' with hsource
    rw [← hpid a ha, ← hpid b hb, hsource]

/-- The nodes that a run without failures has taken up when it is over form a
closed set. -/
theorem Halted.closed {N : Nat} (hhalt : l.Halted N) (hnone : ∀ k, (l.state k).failures = [])
    (hselects : l.Selects sel) (hrequired : ∀ k, ∃ r, l.graph.required k = .ok r) :
    l.graph.Closed sel l.start.id.key {a | a ∈ (l.state N).visited} := by
  obtain ⟨v, houtcome⟩ := hhalt.returns hnone
  have hover : (l.state N).outcome ≠ none := by
    rw [houtcome]
    exact nofun
  have hsound := l.sound N
  constructor
  case start =>
    have hlast : l.state (N + 1) = l.state N := run_of_halt hhalt (Nat.le_succ N)
    have hstart := l.visited_mono (Nat.succ_le_succ (Nat.zero_le N)) (l.start_visited hrequired)
    exact hlast ▸ hstart
  case joins =>
    intro k r hr hmany
    by_contra hnew
    have hbegun := hmany.trans (leading_le_begun hnone hselects hover k)
    rcases Nat.lt_or_ge 1 r with hgated | hfew
    · have harrivals := hsound.gated.arrivals hnew hr hgated
      unfold arrivals at harrivals
      cases hgate : gateAt (l.state N).joins k with
      | none =>
          rw [hgate, Option.elim_none] at harrivals
          rw [← harrivals] at hbegun
          exact absurd ((le_max_left 1 r).trans hbegun) nofun
      | some j =>
          obtain ⟨hj, rfl⟩ := gateAt_some hgate
          obtain ⟨r', hr', hrequired', _⟩ := (hsound.gated.gates j hj).required
          cases hr.symm.trans hr'
          have hbelow := (hsound.gated.gates j hj).below hnew
          rw [hgate, Option.elim_some] at harrivals
          rw [hrequired', harrivals] at hbelow
          exact absurd ((le_max_right 1 r).trans hbegun) (Nat.not_le_of_lt (Int.ofNat_lt.mp hbelow))
    · rw [(led hnone hselects N).ungated hnew hr hfew] at hbegun
      exact absurd ((le_max_left 1 r).trans hbegun) nofun

end

/-! ## What is executed -/

/-- The step after the given state carries out the dispatch of the node. -/
def Dispatches (l : Launch σ) (i : Nat) (n : Node) : Prop :=
  ∃ t m, Executes l.setup (l.state i) n t m (l.state (i + 1))

/-- The nodes whose dispatch is carried out by some step of the run. -/
def executed (l : Launch σ) : Set Key := {k | ∃ i n, l.Dispatches i n ∧ n.id.key = k}

section

variable {l : Launch σ} {i k : Nat} {n n' : Node}

theorem Dispatches.visited (h : l.Dispatches i n) : (l.state (i + 1)).visited = n.id.key :: (l.state i).visited := by
  obtain ⟨t, m, hexecutes⟩ := h
  exact hexecutes.result

theorem Dispatches.new (h : l.Dispatches i n) : n.id.key ∉ (l.state i).visited := by
  have hnodup := (l.sound (i + 1)).ran.nodup
  rw [h.visited] at hnodup
  exact (List.nodup_cons.mp hnodup).1

/-- No node is dispatched twice. -/
theorem Dispatches.unique (h : l.Dispatches i n) (h' : l.Dispatches k n') (hkey : n.id.key = n'.id.key) : i = k := by
  have hbefore : ∀ {i k : Nat} {n n' : Node}, l.Dispatches i n → l.Dispatches k n' → n.id.key = n'.id.key → ¬i < k := by
    intro i k n n' h h' hkey hlt
    refine h'.new (l.visited_mono hlt ?_)
    rw [h.visited, hkey]
    exact List.mem_cons_self
  exact Nat.le_antisymm (Nat.le_of_not_lt (hbefore h' h hkey.symm)) (Nat.le_of_not_lt (hbefore h h' hkey))

/-- Whatever is visited has been dispatched. -/
theorem dispatches_of_visited {a : Key} (ha : a ∈ (l.state k).visited) : ∃ i n, l.Dispatches i n ∧ n.id.key = a := by
  induction k with
  | zero => cases ha
  | succ k ih =>
      by_cases hold : a ∈ (l.state k).visited
      · exact ih hold
      · have hstep := l.state_step fun heq => hold (heq ▸ ha)
        rcases step_dispatches hstep with hsame | ⟨n, t, m₁, hexecutes⟩
        · exact absurd (hsame ▸ ha) hold
        · rw [hexecutes.result] at ha
          exact ⟨k, n, ⟨t, m₁, hexecutes⟩, ((List.mem_cons.mp ha).resolve_right hold).symm⟩

/-- At the end of a run, the visited nodes are those that have been dispatched. -/
theorem Halted.executed_eq {N : Nat} (hhalt : l.Halted N) : l.executed = {a | a ∈ (l.state N).visited} := by
  ext a
  constructor
  · rintro ⟨i, n, hdispatches, rfl⟩
    have hmem : n.id.key ∈ (l.state (max N (i + 1))).visited := by
      refine l.visited_mono (le_max_right ..) ?_
      rw [hdispatches.visited]
      exact List.mem_cons_self
    have hlast : l.state (max N (i + 1)) = l.state N := run_of_halt hhalt (le_max_left ..)
    exact hlast ▸ hmem
  · exact fun ha => dispatches_of_visited ha

/-- The nodes that a run without failures executes are the least closed set. -/
theorem executed_isLeast {sel : Key → Value} (hrequired : ∀ k, ∃ r, l.graph.required k = .ok r)
    (hsucceeds : l.Succeeds) (hselects : l.Selects sel) :
    IsLeast {E | l.graph.Closed sel l.start.id.key E} l.executed := by
  have hnone := l.unfailing hrequired hsucceeds
  obtain ⟨N, hhalt⟩ := l.halts
  rw [hhalt.executed_eq]
  exact ⟨hhalt.closed hnone hselects hrequired,
    fun E hclosed => visited_closed hnone hselects hrequired hclosed N⟩

/-- Two runs of one graph that make the same choices execute the same nodes,
whatever else their collaborators answer and however late. -/
theorem executed_eq {τ : Type} {l' : Launch τ} {sel : Key → Value} (hgraph : l'.graph = l.graph)
    (hrequired : ∀ k, ∃ r, l.graph.required k = .ok r) (hsucceeds : l.Succeeds) (hsucceeds' : l'.Succeeds)
    (hselects : l.Selects sel) (hselects' : l'.Selects sel) : l'.executed = l.executed := by
  have hleast := executed_isLeast hrequired hsucceeds hselects
  have hleast' := executed_isLeast (hgraph ▸ hrequired) hsucceeds' hselects'
  have hstart : l'.start = l.start := by
    have heq := l'.startNode_eq
    unfold graph at hgraph
    rw [hgraph, l.startNode_eq] at heq
    exact (Except.ok.inj heq).symm
  rw [hgraph, hstart] at hleast'
  exact hleast'.unique hleast

end
end Launch

/-- In a run in which every dispatch succeeds and every branching node selects
the handle that is given for it, the scheduler executes the least set of nodes
that contains the start node and every node to which as many of its members
lead as the node waits for (one at least).  It executes each of them once, and
the run returns, however late collaborators answer. -/
theorem executes_least_closed_set (l : Launch σ) (hpayload : ∀ n ∈ l.graph.nodes, ∃ id es, n.payload = .dict id es)
    (hsucceeds : l.Succeeds) {sel : Key → Value} (hselects : l.Selects sel) :
    (∃ N v, ∀ fuel, N ≤ fuel → (runGraph l.plan l.services fuel l.world).outcome = .ok v) ∧
    IsLeast {E | l.graph.Closed sel l.start.id.key E} l.executed ∧
    ∀ k ∈ l.executed, ∃! i, ∃ n, l.Dispatches i n ∧ n.id.key = k := by
  have hrequired := Graph.required_ok hpayload
  refine ⟨?_, Launch.executed_isLeast hrequired hsucceeds hselects, ?_⟩
  · obtain ⟨N, hhalt⟩ := l.halts
    obtain ⟨v, houtcome⟩ := hhalt.returns (l.unfailing hrequired hsucceeds)
    refine ⟨N, (l.state N).world.look v, fun fuel hle => ?_⟩
    rw [hhalt.runGraph_eq hle]
    unfold Machine.ended
    rw [houtcome]
  · rintro k ⟨i, n, hdispatches, rfl⟩
    refine ⟨i, ⟨n, hdispatches, rfl⟩, ?_⟩
    rintro i' ⟨n', hdispatches', hkey⟩
    exact hdispatches'.unique hdispatches hkey

/-- A branching node that always selects the left branch. -/
def choose : Node := sampleNode "choose" .condition [("conditions", .list []), ("defaultOutputHandleId", .str "left")]

/-- Two branches of which one is selected, and a join that waits for both. -/
def fork : Graph where
  nodes := [sampleStart, choose, sampleNode "left" .state [], sampleNode "right" .state [], sampleNode "meet" .state []]
  edges := [sampleEdge "in" "choose", { sampleEdge "choose" "left" with sourceHandle := .str "left" },
    { sampleEdge "choose" "right" with sourceHandle := .str "right" }, sampleEdge "left" "meet", sampleEdge "right" "meet"]
  keys_nodup := by decide +kernel
  ends_mem := by decide +kernel

/-- A run of it. -/
def forkRun : Launch Unit := sampleRun fork rfl

theorem forkRun_halted : forkRun.Halted 7 := Option.isNone_iff_eq_none.mp (by decide +kernel)

theorem fork_selects_left : forkRun.Selects fun _ => .str "left" := by
  have hstep : ∀ i < 7, ¬Done (forkRun.state i) choose.id.key → Done (forkRun.state (i + 1)) choose.id.key →
      ((forkRun.state (i + 1)).world.outputs.get? choose.id.key).all
        (fun v => isText ((forkRun.state (i + 1)).world.look (selectedHandle v)) "left") = true := by
    decide +kernel
  intro i n v hn hbranching hbefore hafter houtput
  obtain rfl : n = choose := by
    have hmem := (Graph.node?_some hn).1
    simp only [Launch.graph, forkRun, sampleRun, openPlan, fork, List.mem_cons, List.not_mem_nil, or_false] at hmem
    rcases hmem with rfl | rfl | rfl | rfl | rfl
    · cases hbranching
    · rfl
    all_goals cases hbranching
  rcases Nat.lt_or_ge i 7 with hlt | hge
  · have hall := hstep i hlt hbefore hafter
    rw [houtput] at hall
    exact eq_of_isText hall
  · have hlast : forkRun.state i = forkRun.state 7 := run_of_halt forkRun_halted hge
    rw [hlast] at hbefore
    exact absurd (by decide +kernel) hbefore

/-- The left branch is executed once.  The join is not executed, since the right
branch never comes. -/
theorem fork_executes_left :
    (∃ N v, ∀ fuel, N ≤ fuel → (runGraph forkRun.plan forkRun.services fuel forkRun.world).outcome = .ok v) ∧
    IsLeast {E | fork.Closed (fun _ => .str "left") (Key.ofString "in") E} forkRun.executed ∧
    Key.ofString "meet" ∉ forkRun.executed ∧
    ∃! i, ∃ n, forkRun.Dispatches i n ∧ n.id.key = Key.ofString "left" := by
  have hsucceeds : forkRun.Succeeds := forkRun_halted.succeeds (by decide +kernel)
  have hpayload : ∀ n ∈ fork.nodes, ∃ id es, n.payload = .dict id es := by
    intro n hn
    simp only [fork, List.mem_cons, List.not_mem_nil, or_false] at hn
    rcases hn with rfl | rfl | rfl | rfl | rfl <;> exact ⟨_, _, rfl⟩
  obtain ⟨hreturns, hleast, honce⟩ := executes_least_closed_set forkRun hpayload hsucceeds fork_selects_left
  have hvisited : forkRun.executed = {a | a ∈ (forkRun.state 7).visited} := forkRun_halted.executed_eq
  refine ⟨hreturns, hleast, ?_, honce _ ?_⟩
  · rw [hvisited, Set.mem_ofPred_eq]
    decide +kernel
  · rw [hvisited, Set.mem_ofPred_eq]
    decide +kernel

end Run
end Workflow
