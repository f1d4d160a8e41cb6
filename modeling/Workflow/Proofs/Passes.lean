import Workflow.Proofs.Courses
import Workflow.Proofs.Nesting

/-!
# Workflow.Proofs.Passes

One pass through the body of a loop.

A pass dispatches one node after the other.  `Pass` describes it as a list of
`Stop`s: each of them is the dispatch of a node, and there are no executions but
those that the dispatches begin.  Every course of a pass is of that kind
(`walkBody_pass`), whatever the nodes come to and whatever others do meanwhile.

1. A pass is a simple path along the edges that the nodes select, and there are
   five ways in which it ends (`pass_simple_path`).
2. A branching node is obeyed, unless an edge of it leads into the end of the
   loop: there the pass ends whatever the node selects (`branches_obeyed`,
   `detour_not_taken`).
-/

namespace Workflow.Execute

open Run

variable {A : World → World → Prop} {g : Graph} {dispatch : Node → Work Value} {loop : Node} {endHandle : Value}
  {current first : NodeId} {n : Node} {output : Value} {w v : World} {d : Key → ℤ} {r : Except Failure Unit}

/-! ## Where a pass goes -/

/-- The node to which the edge leads that is followed from a node with the given
output: a branching node selects the edge, any other node has its first one followed. -/
def onward? (g : Graph) (n : Node) (output : Value) : Option NodeId :=
  if n.kind.isBranching then (g.branchEdge? n (Machine.selectedHandle output)).map (·.target)
  else (g.outgoing n.id.key).head?.map (·.target)

/-- Does an edge lead from the node into the end of the loop? -/
def leadsToEnd (g : Graph) (loop : Node) (endHandle : Value) (k : Key) : Bool := g.hasEdge k loop.id.value endHandle

/-- Why a pass cannot go on from a node that has no edge to be followed. -/
def strandedAt (g : Graph) (loop : Node) (current : NodeId) (output : Value) : LoopProblem :=
  if g.outgoing current.key = [] then .deadEnd current loop.id
  else .unconnected current loop.id (Machine.selectedHandle output)

theorem nextInPass_of_end (h : leadsToEnd g loop endHandle current.key = true) :
    nextInPass g loop endHandle current n output = .ok none := by
  unfold nextInPass
  exact if_pos h

/-- Short of the end of the loop a pass follows the edge to be followed. -/
theorem nextInPass_of_not_end (hkey : n.id.key = current.key) (h : leadsToEnd g loop endHandle current.key = false) :
    nextInPass g loop endHandle current n output =
      (onward? g n output).elim (.error (strandedAt g loop current output)) fun next => .ok (some next) := by
  have hend : ¬ g.hasEdge current.key loop.id.value endHandle = true := by
    rw [Bool.not_eq_true]
    exact h
  unfold nextInPass onward? strandedAt
  rw [if_neg hend, hkey]
  cases hout : g.outgoing current.key with
  | nil =>
      -- without edges there is none to be selected either
      have hnone : g.branchEdge? n (Machine.selectedHandle output) = none := by
        refine Option.eq_none_iff_forall_ne_some.mpr fun e he => ?_
        have hmem := Graph.branchEdge?_mem he
        rw [hkey, hout] at hmem
        cases hmem
      cases hkind : n.kind.isBranching <;> simp [hnone]
  | cons e es =>
      cases hkind : n.kind.isBranching with
      | false => simp
      | true =>
          simp only [↓reduceIte]
          split
          next e' hedge =>
            have hedge : g.branchEdge? n (Machine.selectedHandle output) = some e' := hedge
            rw [hedge]
            rfl
          next hnone =>
            have hnone : g.branchEdge? n (Machine.selectedHandle output) = none := hnone
            rw [hnone, if_neg (List.cons_ne_nil e es)]
            rfl

theorem onward?_mem {next : NodeId} (h : onward? g n output = some next) : next.key ∈ g.keys := by
  unfold onward? at h
  split at h
  · obtain ⟨e, he, rfl⟩ := Option.map_eq_some_iff.mp h
    exact (g.ends_mem e (Graph.mem_outgoing.mp (Graph.branchEdge?_mem he)).1).2
  · obtain ⟨e, he, rfl⟩ := Option.map_eq_some_iff.mp h
    exact (g.ends_mem e (Graph.mem_outgoing.mp (List.mem_of_mem_head? he)).1).2

/-! ## Passes -/

/-- One node on the way of a pass: its dispatch takes one world to another, begins
so many executions, and comes to a result. -/
structure Stop where
  id : NodeId
  node : Node
  before : World
  after : World
  begun : Key → ℤ
  result : Except Failure Value

/-- The key of the node. -/
def Stop.key (s : Stop) : Key := s.id.key

/-- The node is dispatched, and that comes to what the stop says. -/
structure Stop.Made (A : World → World → Prop) (g : Graph) (dispatch : Node → Work Value) (s : Stop) : Prop where
  node : g.node? s.key = some s.node
  course : Step.Course A s.before (dispatch s.node s.before) s.begun s.after s.result

/-- A pass that goes on at the given node, having been to the nodes of `seen`: its
stops, the world in which it ends, and the result. -/
inductive Pass (A : World → World → Prop) (g : Graph) (dispatch : Node → Work Value) (loop : Node) (endHandle : Value) :
    List Key → List Stop → World → Except Failure Unit → Prop
  /-- The node fails. -/
  | fails {seen s f} : s.key ∉ seen → s.Made A g dispatch → s.result = .error f →
      Pass A g dispatch loop endHandle seen [s] s.after (.error f)
  /-- The node leads into the end of the loop. -/
  | returns {seen s output} : s.key ∉ seen → s.Made A g dispatch → s.result = .ok output →
      leadsToEnd g loop endHandle s.key = true → Pass A g dispatch loop endHandle seen [s] s.after (.ok ())
  /-- There is no edge to be followed from the node. -/
  | strands {seen s output} : s.key ∉ seen → s.Made A g dispatch → s.result = .ok output →
      leadsToEnd g loop endHandle s.key = false → onward? g s.node output = none →
      Pass A g dispatch loop endHandle seen [s] s.after (.error (.own (.loop (strandedAt g loop s.id output))))
  /-- The edge leads to a node that the pass has been to. -/
  | repeats {seen s output next} : s.key ∉ seen → s.Made A g dispatch → s.result = .ok output →
      leadsToEnd g loop endHandle s.key = false → onward? g s.node output = some next → next.key ∈ s.key :: seen →
      Pass A g dispatch loop endHandle seen [s] s.after (.error (.own (.loop (.repeated next loop.id))))
  /-- The edge leads to another node, and the pass goes on there. -/
  | goesOn {seen s t output rest v r} : s.key ∉ seen → s.Made A g dispatch → s.result = .ok output →
      leadsToEnd g loop endHandle s.key = false → onward? g s.node output = some t.id → t.before = s.after →
      Pass A g dispatch loop endHandle (s.key :: seen) (t :: rest) v r →
      Pass A g dispatch loop endHandle seen (s :: t :: rest) v r

/-- Every course of a pass is one of dispatches, provided that there is room for
the nodes that have not been seen. -/
theorem walk_pass (room : Nat) : ∀ {seen : List Key} {current : NodeId} {w : World} {d : Key → ℤ},
    seen.Nodup → seen ⊆ g.keys → current.key ∈ g.keys → current.key ∉ seen → g.size ≤ room + seen.length →
    Step.Course A w (walk g dispatch loop endHandle room seen current w) d v r →
    ∃ s rest, s.id = current ∧ s.before = w ∧ d = ((s :: rest).map (·.begun)).sum ∧
      Pass A g dispatch loop endHandle seen (s :: rest) v r := by
  induction room with
  | zero =>
      intro seen current w d hnodup hsubset hcurrent hseen hroom
      -- all nodes have been seen
      have hperm : seen.Perm g.keys := (hnodup.subperm hsubset).perm_of_length_le (by
        simpa [Graph.keys, Graph.size] using hroom)
      exact absurd (hperm.mem_iff.mpr hcurrent) hseen
  | succ room ih =>
      intro seen current w d hnodup hsubset hcurrent hseen hroom hcourse
      obtain ⟨n, hn⟩ := Graph.node?_of_mem_keys hcurrent
      have hkey : n.id.key = current.key := (Graph.node?_some hn).2
      rw [walk_unseen _ _ _ hseen, Graph.node_value, hn] at hcourse
      dsimp only at hcourse
      rw [Work.lift_ok, Work.bind_apply] at hcourse
      obtain ⟨f, rfl, hfails⟩ | ⟨d₁, u, output, d₂, hdispatch, hrest, rfl⟩ := hcourse.bind_cases
      · let s : Stop := ⟨current, n, w, v, d, .error f⟩
        have hmade : s.Made A g dispatch := ⟨hn, hfails⟩
        exact ⟨s, [], rfl, rfl, by simp [s], .fails hseen hmade rfl⟩
      · let s : Stop := ⟨current, n, w, u, d₁, .ok output⟩
        have hmade : s.Made A g dispatch := ⟨hn, hdispatch⟩
        cases hend : leadsToEnd g loop endHandle current.key with
        | true =>
            rw [nextInPass_of_end hend] at hrest
            obtain ⟨rfl, rfl, rfl⟩ := Step.Course.of_done hrest
            exact ⟨s, [], rfl, rfl, by simp [s, World.begunTo_self], .returns hseen hmade rfl hend⟩
        | false =>
            rw [nextInPass_of_not_end hkey hend] at hrest
            cases hnext : onward? g n output with
            | none =>
                rw [hnext] at hrest
                obtain ⟨rfl, rfl, rfl⟩ := Step.Course.of_fail hrest
                exact ⟨s, [], rfl, rfl, by simp [s, World.begunTo_self], .strands hseen hmade rfl hend hnext⟩
            | some next =>
                rw [hnext, Option.elim_some] at hrest
                dsimp only at hrest
                by_cases hrepeated : next.key ∈ current.key :: seen
                · rw [walk_repeated _ _ _ hrepeated] at hrest
                  obtain ⟨rfl, rfl, rfl⟩ := Step.Course.of_fail hrest
                  exact ⟨s, [], rfl, rfl, by simp [s, World.begunTo_self], .repeats hseen hmade rfl hend hnext hrepeated⟩
                · obtain ⟨t, rest, rfl, hbefore, rfl, hpass⟩ := ih (List.nodup_cons.mpr ⟨hseen, hnodup⟩)
                    (List.cons_subset.mpr ⟨hcurrent, hsubset⟩) (onward?_mem hnext) hrepeated
                    (by rw [List.length_cons]; omega) hrest
                  exact ⟨s, t :: rest, rfl, rfl, by simp [s], .goesOn hseen hmade rfl hend hnext hbefore hpass⟩

/-- Every course of a pass from a node of the graph on is one of dispatches. -/
theorem walkBody_pass (hfirst : first.key ∈ g.keys) (hend : loop.loopEndHandle = .ok endHandle)
    (h : Step.Course A w (walkBody g dispatch loop first w) d v r) :
    ∃ s rest, s.id = first ∧ s.before = w ∧ d = ((s :: rest).map (·.begun)).sum ∧
      Pass A g dispatch loop endHandle [] (s :: rest) v r := by
  unfold walkBody at h
  rw [hend, Work.lift_ok] at h
  exact walk_pass g.size List.nodup_nil (List.nil_subset _) hfirst List.not_mem_nil (Nat.le_add_right _ _) h

/-! ## The way of a pass -/

/-- How a pass ends at a stop, having been to the nodes of the given keys. -/
inductive Ends (g : Graph) (loop : Node) (endHandle : Value) (been : List Key) (s : Stop) : Except Failure Unit → Prop
  /-- The failure of the node is the failure of the pass. -/
  | failed {f : Failure} : s.result = .error f → Ends g loop endHandle been s (.error f)
  /-- The node leads into the end of the loop. -/
  | returned {output : Value} : s.result = .ok output → leadsToEnd g loop endHandle s.key = true →
      Ends g loop endHandle been s (.ok ())
  /-- No edge leaves the node. -/
  | deadEnd {output : Value} : s.result = .ok output → leadsToEnd g loop endHandle s.key = false → g.outgoing s.key = [] →
      Ends g loop endHandle been s (.error (.own (.loop (.deadEnd s.id loop.id))))
  /-- The node selects a handle that no edge leaves from. -/
  | unconnected {output : Value} : s.result = .ok output → leadsToEnd g loop endHandle s.key = false → g.outgoing s.key ≠ [] →
      s.node.kind.isBranching = true → g.branchEdge? s.node (Machine.selectedHandle output) = none →
      Ends g loop endHandle been s
        (.error (.own (.loop (.unconnected s.id loop.id (Machine.selectedHandle output)))))
  /-- The node leads to one that the pass has been to. -/
  | repeated {output : Value} {next : NodeId} : s.result = .ok output → leadsToEnd g loop endHandle s.key = false →
      onward? g s.node output = some next → next.key ∈ been →
      Ends g loop endHandle been s (.error (.own (.loop (.repeated next loop.id))))

theorem Ends.congr {been been' : List Key} {s : Stop} (h : ∀ k, k ∈ been ↔ k ∈ been') (hends : Ends g loop endHandle been s r) :
    Ends g loop endHandle been' s r := by
  cases hends with
  | failed hresult => exact .failed hresult
  | returned hresult hend => exact .returned hresult hend
  | deadEnd hresult hend hout => exact .deadEnd hresult hend hout
  | unconnected hresult hend hout hkind hedge => exact .unconnected hresult hend hout hkind hedge
  | repeated hresult hend hnext hmem => exact .repeated hresult hend hnext ((h _).mp hmem)

/-- From a node without an edge to be followed a pass cannot go on. -/
theorem Ends.stranded {been : List Key} {s : Stop} (hmade : s.Made A g dispatch) (hresult : s.result = .ok output)
    (hend : leadsToEnd g loop endHandle s.key = false) (hnext : onward? g s.node output = none) :
    Ends g loop endHandle been s (.error (.own (.loop (strandedAt g loop s.id output)))) := by
  unfold strandedAt
  by_cases hout : g.outgoing s.id.key = []
  · rw [if_pos hout]
    exact .deadEnd hresult hend hout
  · rw [if_neg hout]
    have hkey : s.node.id.key = s.id.key := (Graph.node?_some hmade.node).2
    unfold onward? at hnext
    cases hkind : s.node.kind.isBranching with
    | true =>
        rw [hkind, if_pos rfl] at hnext
        exact .unconnected hresult hend hout hkind (Option.map_eq_none_iff.mp hnext)
    | false =>
        -- the first edge of any other node is followed
        rw [hkind, if_neg Bool.false_ne_true, hkey] at hnext
        exact absurd (List.head?_eq_none_iff.mp (Option.map_eq_none_iff.mp hnext)) hout

/-- The stop is followed by another one: its node does not lead into the end of
the loop, and the edge to be followed leads to the node of the other. -/
structure Stop.FollowedBy (g : Graph) (loop : Node) (endHandle : Value) (s t : Stop) : Prop where
  before : t.before = s.after
  short : leadsToEnd g loop endHandle s.key = false
  edge : ∃ output, s.result = .ok output ∧ onward? g s.node output = some t.id

/-- A pass from the first node on, in stops: a path without repetition. -/
structure Trail (A : World → World → Prop) (g : Graph) (dispatch : Node → Work Value) (loop : Node) (endHandle : Value)
    (first : NodeId) (w : World) (stops : List Stop) (d : Key → ℤ) (v : World) (r : Except Failure Unit) : Prop where
  head : ∃ s, stops.head? = some s ∧ s.id = first ∧ s.before = w
  made : ∀ s ∈ stops, s.Made A g dispatch
  nodup : (stops.map Stop.key).Nodup
  path : stops.IsChain (Stop.FollowedBy g loop endHandle)
  last : ∃ s, stops.getLast? = some s ∧ s.after = v ∧ Ends g loop endHandle (stops.map Stop.key) s r
  begun : d = (stops.map Stop.begun).sum

namespace Pass

variable {seen : List Key} {s : Stop} {rest stops : List Stop}

theorem made (h : Pass A g dispatch loop endHandle seen stops v r) : ∀ s ∈ stops, s.Made A g dispatch := by
  induction h with
  | fails _ hmade => exact fun t ht => List.mem_singleton.mp ht ▸ hmade
  | returns _ hmade => exact fun t ht => List.mem_singleton.mp ht ▸ hmade
  | strands _ hmade => exact fun t ht => List.mem_singleton.mp ht ▸ hmade
  | repeats _ hmade => exact fun t ht => List.mem_singleton.mp ht ▸ hmade
  | goesOn _ hmade _ _ _ _ _ ih => exact List.forall_mem_cons.mpr ⟨hmade, ih⟩

/-- No node is come to twice. -/
theorem nodup (h : Pass A g dispatch loop endHandle seen stops v r) :
    (stops.map Stop.key).Nodup ∧ ∀ k ∈ stops.map Stop.key, k ∉ seen := by
  induction h with
  | fails hseen => exact ⟨List.nodup_singleton _, fun k hk => List.mem_singleton.mp hk ▸ hseen⟩
  | returns hseen => exact ⟨List.nodup_singleton _, fun k hk => List.mem_singleton.mp hk ▸ hseen⟩
  | strands hseen => exact ⟨List.nodup_singleton _, fun k hk => List.mem_singleton.mp hk ▸ hseen⟩
  | repeats hseen => exact ⟨List.nodup_singleton _, fun k hk => List.mem_singleton.mp hk ▸ hseen⟩
  | goesOn hseen _ _ _ _ _ _ ih =>
      obtain ⟨hnodup, hfresh⟩ := ih
      refine ⟨List.nodup_cons.mpr ⟨fun hmem => hfresh _ hmem List.mem_cons_self, hnodup⟩, ?_⟩
      exact List.forall_mem_cons.mpr ⟨hseen, fun k hk hmem => hfresh k hk (List.mem_cons_of_mem _ hmem)⟩

theorem path (h : Pass A g dispatch loop endHandle seen stops v r) :
    stops.IsChain (Stop.FollowedBy g loop endHandle) := by
  induction h with
  | fails => exact .singleton _
  | returns => exact .singleton _
  | strands => exact .singleton _
  | repeats => exact .singleton _
  | goesOn _ _ hresult hend hnext hbefore _ ih => exact .cons_cons ⟨hbefore, hend, _, hresult, hnext⟩ ih

/-- The pass ends with its last stop. -/
theorem last (h : Pass A g dispatch loop endHandle seen stops v r) :
    ∃ s, stops.getLast? = some s ∧ s.after = v ∧ Ends g loop endHandle (stops.map Stop.key ++ seen) s r := by
  induction h with
  | fails _ _ hresult => exact ⟨_, rfl, rfl, .failed hresult⟩
  | returns _ _ hresult hend => exact ⟨_, rfl, rfl, .returned hresult hend⟩
  | strands _ hmade hresult hend hnext => exact ⟨_, rfl, rfl, Ends.stranded hmade hresult hend hnext⟩
  | repeats _ _ hresult hend hnext hmem => exact ⟨_, rfl, rfl, .repeated hresult hend hnext hmem⟩
  | @goesOn seen s t _ rest _ _ _ _ _ _ _ _ _ ih =>
      obtain ⟨last, hlast, hafter, hends⟩ := ih
      refine ⟨last, hlast, hafter, ?_⟩
      -- the stop counts among those before the rest, or among those seen
      have hsame : ∀ k, k ∈ (t :: rest).map Stop.key ++ s.key :: seen ↔ k ∈ (s :: t :: rest).map Stop.key ++ seen := by
        intro k
        simp only [List.map_cons, List.mem_append, List.mem_cons]
        tauto
      exact hends.congr hsame

end Pass

/-- Every course of a pass follows a trail. -/
theorem walkBody_trail (hfirst : first.key ∈ g.keys) (hend : loop.loopEndHandle = .ok endHandle)
    (h : Step.Course A w (walkBody g dispatch loop first w) d v r) :
    ∃ stops, Trail A g dispatch loop endHandle first w stops d v r := by
  obtain ⟨s, rest, hid, hbefore, hbegun, hpass⟩ := walkBody_pass hfirst hend h
  obtain ⟨last, hlast, hafter, hends⟩ := hpass.last
  rw [List.append_nil] at hends
  exact ⟨s :: rest, ⟨s, rfl, hid, hbefore⟩, hpass.made, hpass.nodup.1, hpass.path, ⟨last, hlast, hafter, hends⟩, hbegun⟩

namespace Trail

variable {stops : List Stop}

/-- A pass comes to no more nodes than there are. -/
theorem length_le (h : Trail A g dispatch loop endHandle first w stops d v r) : stops.length ≤ g.size := by
  have hkeys : stops.map Stop.key ⊆ g.keys := by
    intro k hk
    obtain ⟨s, hs, rfl⟩ := List.mem_map.mp hk
    obtain ⟨hmem, hkey⟩ := Graph.node?_some (h.made s hs).node
    exact hkey ▸ List.mem_map_of_mem hmem
  simpa [Graph.keys, Graph.size] using (h.nodup.subperm hkeys).length_le

/-- Each stop is followed by the next one, or the pass ends at it. -/
theorem followed_or_last (h : Trail A g dispatch loop endHandle first w stops d v r) {i : Nat} {s : Stop}
    (hs : stops[i]? = some s) :
    (∃ t, stops[i + 1]? = some t ∧ s.FollowedBy g loop endHandle t) ∨
      (i + 1 = stops.length ∧ Ends g loop endHandle (stops.map Stop.key) s r) := by
  obtain ⟨hi, hget⟩ := List.getElem?_eq_some_iff.mp hs
  by_cases hnext : i + 1 < stops.length
  · exact .inl ⟨stops[i + 1], List.getElem?_eq_getElem hnext, hget ▸ List.isChain_iff_getElem.mp h.path i hnext⟩
  · have hlength : i + 1 = stops.length := by omega
    obtain ⟨last, hlast, -, hends⟩ := h.last
    have hsame : last = s := by
      rw [List.getLast?_eq_getElem?, ← hlength, Nat.add_sub_cancel, hs] at hlast
      exact (Option.some.inj hlast).symm
    exact .inr ⟨hlength, hsame ▸ hends⟩

end Trail

/-! ## Simple paths -/

/-- A pass comes to an end if the nodes do, and it is a simple path.  From the
first node on it follows the edges to be followed, comes to no node twice, and
ends at the last one in one of five ways: that node fails, it leads into the end
of the loop, no edge leaves it, the handle that it selects is not connected, or
its edge leads to a node of the path. -/
theorem pass_simple_path (hA : ∀ v, ∃ u, A v u) (dispatch : Node → Work Value) (hfirst : first.key ∈ g.keys)
    (hend : loop.loopEndHandle = .ok endHandle) (w : World) :
    (∃ d v r, Step.Course A w (walkBody g dispatch loop first w) d v r) ∧
      ∀ d v r, Step.Course A w (walkBody g dispatch loop first w) d v r →
        ∃ stops, Trail A g dispatch loop endHandle first w stops d v r ∧ stops.length ≤ g.size := by
  refine ⟨Step.exists_course hA _ w, fun d v r h => ?_⟩
  obtain ⟨stops, htrail⟩ := walkBody_trail hfirst hend h
  exact ⟨stops, htrail, htrail.length_le⟩

/-- A loop that passes once. -/
def detour : Node := bareNode "l" .loop [("maxIterations", .int 1)]

/-- A condition node without conditions selects the same handle always. -/
def always (id handle : String) : Node := bareNode id .condition [("defaultOutputHandleId", .str handle)]

/-- The body of the loop: two condition nodes, each of which may go on with more
work.  The second one may end the pass instead. -/
def detourGraph : Graph where
  nodes := [detour, always "b" "more", always "c" "more", bareNode "n" .state []]
  edges :=
    [wire "l" "b" (.str "l-loop-start") .null, wire "b" "n" (.str "done") .null, wire "b" "c" (.str "more") .null,
      wire "c" "l" (.str "done") (.str "l-loop-end"), wire "c" "n" (.str "more") .null,
      wire "n" "l" .null (.str "l-loop-end")]
  keys_nodup := by decide
  ends_mem := by decide

/-- A pass of the loop. -/
def detourPass : Work Unit := walkBody detourGraph (Execute.dispatch (barePlan detourGraph 1)) detour (.ofString "b")

/-- The pass is a path through some of the four nodes. -/
theorem detour_simple_path :
    (∃ d v r, Step.Course Eq World.empty (detourPass World.empty) d v r) ∧
      ∀ d v r, Step.Course Eq World.empty (detourPass World.empty) d v r →
        ∃ stops, Trail Eq detourGraph (Execute.dispatch (barePlan detourGraph 1)) detour (.str "l-loop-end")
          (.ofString "b") World.empty stops d v r ∧ stops.length ≤ 4 :=
  pass_simple_path (fun v => ⟨v, rfl⟩) (Execute.dispatch (barePlan detourGraph 1))
    (show (NodeId.ofString "b").key ∈ detourGraph.keys by decide)
    (show detour.loopEndHandle = .ok (.str "l-loop-end") from rfl) World.empty

/-! ## Branches -/

/-- A pass that comes to the result obeys the branches that its stops select, as
long as no edge of theirs leads into the end of the loop: it goes on where the
selected edge leads, or reports that it has been there.  From where an edge leads
into the end of the loop it returns, whatever is selected. -/
def BranchesObeyed (g : Graph) (loop : Node) (endHandle : Value) (stops : List Stop) (r : Except Failure Unit) : Prop :=
  ∀ i s output e, stops[i]? = some s → s.result = .ok output → s.node.kind.isBranching = true →
    g.branchEdge? s.node (Machine.selectedHandle output) = some e →
    if leadsToEnd g loop endHandle s.key then i + 1 = stops.length ∧ r = .ok ()
    else (∃ t, stops[i + 1]? = some t ∧ t.id = e.target) ∨
      (i + 1 = stops.length ∧ e.target.key ∈ stops.map Stop.key ∧
        r = .error (.own (.loop (.repeated e.target loop.id))))

theorem Trail.branchesObeyed {stops : List Stop} (h : Trail A g dispatch loop endHandle first w stops d v r) :
    BranchesObeyed g loop endHandle stops r := by
  intro i s output e hs hresult hkind hedge
  have honward : onward? g s.node output = some e.target := by
    unfold onward?
    rw [if_pos hkind, hedge, Option.map_some]
  obtain ⟨t, ht, hfollowed⟩ | ⟨hlast, hends⟩ := h.followed_or_last hs
  · obtain ⟨output', hresult', hnext⟩ := hfollowed.edge
    obtain rfl : output = output' := Except.ok.inj (hresult.symm.trans hresult')
    rw [hfollowed.short, if_neg Bool.false_ne_true]
    exact .inl ⟨t, ht, Option.some.inj (hnext.symm.trans honward)⟩
  · cases hends with
    | failed hfailed => exact absurd (hresult.symm.trans hfailed) nofun
    | returned _ hleads =>
        rw [if_pos hleads]
        exact ⟨hlast, rfl⟩
    | deadEnd _ _ hout =>
        -- the selected edge is one of those that leave the node
        have hmem := Graph.branchEdge?_mem hedge
        rw [(Graph.node?_some (h.made s (List.mem_of_getElem? hs)).node).2, hout] at hmem
        cases hmem
    | unconnected hresult' _ _ _ hnone =>
        obtain rfl := Except.ok.inj (hresult.symm.trans hresult')
        exact absurd (hedge.symm.trans hnone) nofun
    | repeated hresult' hshort hnext hmem =>
        obtain rfl := Except.ok.inj (hresult.symm.trans hresult')
        obtain rfl := Option.some.inj (hnext.symm.trans honward)
        rw [hshort, if_neg Bool.false_ne_true]
        exact .inr ⟨hlast, hmem, rfl⟩

/-- A pass obeys its branches up to where an edge leads into the end of the loop. -/
theorem branches_obeyed (hfirst : first.key ∈ g.keys) (hend : loop.loopEndHandle = .ok endHandle)
    (h : Step.Course A w (walkBody g dispatch loop first w) d v r) :
    ∃ stops, Trail A g dispatch loop endHandle first w stops d v r ∧ BranchesObeyed g loop endHandle stops r := by
  obtain ⟨stops, htrail⟩ := walkBody_trail hfirst hend h
  exact ⟨stops, htrail, htrail.branchesObeyed⟩

/-- The pass returns, having obeyed the first of its two branches. -/
theorem detour_obeyed : ∃ v, detourPass World.empty = .done v () ∧ ∃ stops,
    Trail Eq detourGraph (Execute.dispatch (barePlan detourGraph 1)) detour (.str "l-loop-end") (.ofString "b")
      World.empty stops (World.empty.begunTo v) v (.ok ()) ∧
    BranchesObeyed detourGraph detour (.str "l-loop-end") stops (.ok ()) :=
  ⟨_, rfl, branches_obeyed (w := World.empty) (by decide) rfl .done⟩

/-- The second condition node selects the edge to more work, and that is not done:
an edge that is not selected leads from it into the end of the loop. -/
theorem detour_not_taken : ∃ v output, detourPass World.empty = .done v () ∧
    v.rounds (.ofString "c") = 1 ∧ v.output? (.ofString "c") = some output ∧
    detourGraph.branchEdge? (always "c" "more") (Machine.selectedHandle output) =
      some (wire "c" "n" (.str "more") .null) ∧
    v.rounds (.ofString "n") = 0 := by
  refine ⟨_, _, rfl, ?began, rfl, rfl, ?never⟩
  case began => decide +kernel
  case never => decide +kernel

end Workflow.Execute
