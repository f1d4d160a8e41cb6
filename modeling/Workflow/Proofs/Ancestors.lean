import Workflow.Proofs.Confluence
import Mathlib.Logic.Relation

/-!
# Workflow.Proofs.Ancestors

Graphs without cycles and without choices.

In such a graph the least closed set of nodes is described by the sources of its
members alone (`Feeds`): the start node belongs to it, and every node does whose
sources all belong to it and are no end nodes.  All its members come after the
start node (`start_precedes`), so what comes before that is left out.

A graph without cycles is well-founded, so what depends on the ancestors of a
node only can be given for all nodes at once (`exists_solution`).
-/

namespace Workflow

/-- Nodes of the kind make no choices, repeat nothing, keep no state and talk to
no model. -/
def NodeKind.isSimple : NodeKind → Bool
  | .condition | .loop | .state | .llm => false
  | _ => true

theorem NodeKind.not_branching_of_isSimple {kind : NodeKind} (h : kind.isSimple = true) : kind.isBranching = false := by
  cases kind <;> simp_all [isSimple, isBranching]

namespace Graph

variable {g : Graph} {a b k start : Key} {E : Set Key} {sel : Key → Value}

/-! ## Ancestors -/

/-- Does a path of edges lead from the one key to the other? -/
def Precedes (g : Graph) : Key → Key → Prop := Relation.TransGen g.Links

/-- No path leads from a node back to it. -/
def Acyclic (g : Graph) : Prop := ∀ k, ¬g.Precedes k k

/-- All nodes are of simple kinds. -/
def Simple (g : Graph) : Prop := ∀ n ∈ g.nodes, n.kind.isSimple = true

theorem Precedes.mem_keys (h : g.Precedes a k) : a ∈ g.keys := by
  obtain ⟨b, hlinks, _⟩ := Relation.TransGen.head'_iff.mp h
  exact hlinks.mem_keys.1

/-- How many nodes come before that of the key. -/
noncomputable def ancestry (g : Graph) (k : Key) : Nat := {a | g.Precedes a k}.ncard

/-- Whoever comes before the other has fewer ancestors. -/
theorem Acyclic.ancestry_lt (h : g.Acyclic) (hak : g.Precedes a k) : g.ancestry a < g.ancestry k := by
  have hfinite : {a | g.Precedes a k}.Finite :=
    (List.finite_toSet g.keys).subset fun _ hb => hb.mem_keys
  refine Set.ncard_lt_ncard ⟨fun b hb => ?_, fun hsubset => h a (hsubset hak)⟩ hfinite
  exact Relation.TransGen.trans hb hak

theorem Acyclic.wellFounded (h : g.Acyclic) : WellFounded g.Precedes :=
  Subrelation.wf (fun hak => h.ancestry_lt hak) (measure g.ancestry).wf

/-- Where every edge leads to a higher rank there is no cycle. -/
theorem acyclic_of_rank (rank : Key → Nat) (h : ∀ e ∈ g.edges, rank e.source.key < rank e.target.key) : g.Acyclic := by
  have hlinks : ∀ {a k}, g.Links a k → rank a < rank k := by
    rintro a k ⟨e, he, rfl, rfl⟩
    exact h e he
  have hprecedes : ∀ {a k}, g.Precedes a k → rank a < rank k := fun hak => by
    induction hak with
    | single hak => exact hlinks hak
    | tail _ hbk ih => exact ih.trans (hlinks hbk)
  exact fun k hk => lt_irrefl _ (hprecedes hk)

/-- What is passed on from every node but one to its sources is passed on to all
ancestors, up to those of that one. -/
theorem Precedes.upwards {P : Key → Prop} (h : g.Precedes a k) (hlast : ∀ {a}, g.Links a k → P a)
    (hup : ∀ {a b}, P b → b ≠ start → g.Links a b → P a) : P a ∨ g.Precedes a start := by
  induction h using Relation.TransGen.head_induction_on with
  | single hlinks => exact .inl (hlast hlinks)
  | @head a b hlinks _ ih =>
      rcases ih with hb | hb
      · by_cases hstart : b = start
        · exact .inr (hstart ▸ .single hlinks)
        · exact .inl (hup hb hstart hlinks)
      · exact .inr (.head hlinks hb)

/-! ## Nodes that are fed by their sources -/

/-- No end node has the key. -/
def GoesOn (g : Graph) (k : Key) : Prop := ∀ n, g.node? k = some n → n.kind ≠ .finish

/-- The members of the set are the start node and the nodes with sources, all of
which are members and no end nodes. -/
def Feeds (g : Graph) (start : Key) (E : Set Key) : Prop :=
  ∀ k, k ∈ E ↔ k = start ∨ g.sources k ≠ [] ∧ ∀ a ∈ g.sources k, a ∈ E ∧ g.GoesOn a

theorem links_of_leads (h : g.Leads sel a k) : g.Links a k := by
  obtain ⟨n, hn, i, hi, rfl⟩ := h
  obtain rfl := (node?_some hn).2
  exact links_of_mem_targets hi

/-- Where nodes make no choices, they lead along all of their edges. -/
theorem Simple.leads_iff (hsimple : g.Simple) : g.Leads sel a k ↔ g.Links a k ∧ g.GoesOn a := by
  constructor
  · refine fun h => ⟨links_of_leads h, fun n hn => ?_⟩
    obtain ⟨m, hm, i, hi, _⟩ := h
    cases hm.symm.trans hn
    exact not_finish_of_mem_targets hi
  · rintro ⟨hlinks, hgoesOn⟩
    obtain ⟨n, hn⟩ := node?_of_mem_keys hlinks.mem_keys.1
    have hkind := NodeKind.not_branching_of_isSimple (hsimple n (node?_some hn).1)
    obtain ⟨e, he, rfl, rfl⟩ := hlinks
    have htarget : e.target.key ∈ (g.successors n.id.key).map (·.key) := by
      refine mem_keys_distinct.mpr (List.mem_map_of_mem (List.mem_map_of_mem (mem_outgoing.mpr ⟨he, ?_⟩)))
      exact (node?_some hn).2.symm
    obtain ⟨i, hi, hkey⟩ := List.mem_map.mp htarget
    refine ⟨n, hn, i, ?_, hkey⟩
    simpa [targets, hgoesOn n hn, hkind] using hi

theorem Simple.not_loop (hsimple : g.Simple) : ∀ n ∈ g.nodes, n.kind ≠ .loop := by
  intro n hn hloop
  have hkind := hsimple n hn
  rw [hloop] at hkind
  cases hkind

theorem Simple.required_eq (hsimple : g.Simple) (hk : k ∈ g.keys) : g.required k = .ok (g.sources k).length := by
  obtain ⟨n, hn⟩ := node?_of_mem_keys hk
  exact Graph.required_eq hn (hsimple.not_loop n (node?_some hn).1)

/-- As many members of a set lead to a node as it has sources if all of these are
members and go on. -/
theorem Simple.leading_eq (hsimple : g.Simple) (h : (g.sources k).length ≤ g.leading sel E k) :
    ∀ a ∈ g.sources k, a ∈ E ∧ g.GoesOn a := by
  have hsubset : {a ∈ E | g.Leads sel a k} ⊆ (g.sources k).toFinset := fun a ha =>
    List.mem_toFinset.mpr (mem_sources.mpr (links_of_leads ha.2))
  have hcard : ((g.sources k).toFinset : Set Key).ncard = (g.sources k).length := by
    rw [Set.ncard_coe_finset, List.toFinset_card_of_nodup (sources_nodup g k)]
  have hall := Set.eq_of_subset_of_ncard_le hsubset (hcard.trans_le h) (Finset.finite_toSet _)
  intro a ha
  have hmem : a ∈ ((g.sources k).toFinset : Set Key) := List.mem_toFinset.mpr ha
  rw [← hall] at hmem
  exact ⟨hmem.1, (hsimple.leads_iff.mp hmem.2).2⟩

theorem Simple.leading_of_sources (hsimple : g.Simple) (h : ∀ a ∈ g.sources k, a ∈ E ∧ g.GoesOn a) :
    (g.sources k).length ≤ g.leading sel E k := by
  rw [← List.toFinset_card_of_nodup (sources_nodup g k), ← Set.ncard_coe_finset]
  refine Set.ncard_le_ncard (fun a ha => ?_) (leads_finite g sel E k)
  have hmem := List.mem_toFinset.mp ha
  exact ⟨(h a hmem).1, hsimple.leads_iff.mpr ⟨mem_sources.mp hmem, (h a hmem).2⟩⟩

theorem exists_leads (h : 1 ≤ g.leading sel E k) : ∃ a ∈ E, g.Leads sel a k := by
  have hne : {a ∈ E | g.Leads sel a k}.ncard ≠ 0 := Nat.one_le_iff_ne_zero.mp h
  obtain ⟨a, ha⟩ := Set.nonempty_of_ncard_ne_zero hne
  exact ⟨a, ha.1, ha.2⟩

/-- The least closed set is fed by its sources. -/
theorem Simple.feeds (hsimple : g.Simple) (hleast : IsLeast {E | g.Closed sel start E} E) : g.Feeds start E := by
  obtain ⟨hclosed, hleast⟩ := hleast
  -- The members that have to be in the set form a closed set themselves.
  have hsupported : g.Closed sel start {k ∈ E | k = start ∨ g.sources k ≠ [] ∧ ∀ a ∈ g.sources k, a ∈ E ∧ g.GoesOn a} := by
    refine ⟨⟨hclosed.start, .inl rfl⟩, fun {k r} hr hmany => ?_⟩
    obtain ⟨a, _, hleads⟩ := exists_leads ((le_max_left ..).trans hmany)
    have hlinks := links_of_leads hleads
    obtain rfl : (g.sources k).length = r := by
      have := (hsimple.required_eq hlinks.mem_keys.2).symm.trans hr
      injection this
    have hall := hsimple.leading_eq ((le_max_right ..).trans hmany)
    have hmore : max 1 (g.sources k).length ≤ g.leading sel E k :=
      hmany.trans (Set.ncard_le_ncard (fun b hb => ⟨hb.1.1, hb.2⟩) (leads_finite g sel E k))
    exact ⟨hclosed.joins hr hmore, .inr ⟨List.ne_nil_of_mem (mem_sources.mpr hlinks), fun b hb =>
      ⟨(hall b hb).1.1, (hall b hb).2⟩⟩⟩
  intro k
  constructor
  · exact fun hk => (hleast hsupported hk).2
  · rintro (rfl | ⟨hne, hall⟩)
    · exact hclosed.start
    · obtain ⟨a, ha⟩ := List.exists_mem_of_ne_nil _ hne
      refine hclosed.joins (hsimple.required_eq (mem_sources.mp ha).mem_keys.2) (max_le ?_ (hsimple.leading_of_sources hall))
      exact (List.length_pos_of_ne_nil hne).trans_le (hsimple.leading_of_sources hall)

/-- In a graph without cycles the sources say who belongs to the set. -/
theorem Acyclic.feeds_unique (hacyclic : g.Acyclic) {E' : Set Key} (h : g.Feeds start E) (h' : g.Feeds start E') :
    E = E' := by
  ext k
  induction k using hacyclic.wellFounded.induction with
  | _ k ih =>
      have hsources : ∀ a ∈ g.sources k, (a ∈ E ∧ g.GoesOn a ↔ a ∈ E' ∧ g.GoesOn a) := fun a ha =>
        and_congr_left fun _ => ih a (.single (mem_sources.mp ha))
      rw [h k, h' k]
      exact or_congr_right (and_congr_right fun _ => forall₂_congr hsources)

/-- All members of the least closed set come after the start node. -/
theorem start_precedes (hleast : IsLeast {E | g.Closed sel start E} E) (hk : k ∈ E) : k = start ∨ g.Precedes start k := by
  have hclosed : g.Closed sel start {k | k = start ∨ g.Precedes start k} := by
    refine ⟨.inl rfl, fun {k r} _ hmany => .inr ?_⟩
    obtain ⟨a, rfl | ha, hleads⟩ := exists_leads ((le_max_left ..).trans hmany)
    · exact .single (links_of_leads hleads)
    · exact ha.tail (links_of_leads hleads)
  exact hleast.2 hclosed hk

/-- What comes before the start node is not in the least closed set. -/
theorem Acyclic.not_mem (hacyclic : g.Acyclic) (hleast : IsLeast {E | g.Closed sel start E} E) (h : g.Precedes a start) :
    a ∉ E := by
  intro ha
  rcases start_precedes hleast ha with rfl | hafter
  · exact hacyclic _ h
  · exact hacyclic _ (h.trans hafter)

/-! ## What depends on ancestors only -/

/-- Where there is a value for every key, whatever the values of its ancestors,
there are values for all keys at once. -/
theorem Acyclic.exists_solution (hacyclic : g.Acyclic) {α : Type} [Inhabited α] {S : Key → (Key → α) → α → Prop}
    (hexists : ∀ k f, ∃ e, S k f e) (hcongr : ∀ {k f f' e}, (∀ a, g.Precedes a k → f a = f' a) → S k f e → S k f' e) :
    ∃ f : Key → α, ∀ k, S k f (f k) := by
  classical
  let F (k : Key) (rec : ∀ a, g.Precedes a k → α) : α :=
    (hexists k fun a => if h : g.Precedes a k then rec a h else default).choose
  refine ⟨hacyclic.wellFounded.fix F, fun k => ?_⟩
  rw [hacyclic.wellFounded.fix_eq]
  refine hcongr (fun a ha => ?_) (hexists k _).choose_spec
  rw [dif_pos ha]

/-! ## Topological orders -/

/-- The nodes are those of the set, each of them once, and no edge leads from a
later one to an earlier one. -/
structure Sorts (g : Graph) (E : Set Key) (ns : List Node) : Prop where
  nodes : ∀ n ∈ ns, n ∈ g.nodes
  nodup : (ns.map (·.id.key)).Nodup
  members : ∀ k, k ∈ ns.map (·.id.key) ↔ k ∈ E
  forward : ns.Pairwise fun n m => ¬g.Links m.id.key n.id.key

/-- Sources that are members stand before their nodes. -/
theorem Sorts.before {ns ms : List Node} {n : Node} (h : g.Sorts E (ns ++ n :: ms)) (hacyclic : g.Acyclic)
    (hlinks : g.Links a n.id.key) (ha : a ∈ E) : a ∈ ns.map (·.id.key) := by
  obtain ⟨m, hm, rfl⟩ := List.mem_map.mp ((h.members a).mpr ha)
  rcases List.mem_append.mp hm with hm | hm
  · exact List.mem_map_of_mem hm
  · rcases List.mem_cons.mp hm with rfl | hm
    · exact absurd (.single hlinks) (hacyclic m.id.key)
    · obtain ⟨_, hforward, _⟩ := List.pairwise_append.mp h.forward
      exact absurd hlinks ((List.pairwise_cons.mp hforward).1 m hm)

/-- An initial part of the order has all sources of its nodes that are members. -/
theorem Sorts.before_mem {ns ms : List Node} (h : g.Sorts E (ns ++ ms)) (hacyclic : g.Acyclic) (hlinks : g.Links a b)
    (hb : b ∈ ns.map (·.id.key)) (ha : a ∈ E) : a ∈ ns.map (·.id.key) := by
  obtain ⟨n, hn, rfl⟩ := List.mem_map.mp hb
  obtain ⟨fore, aft, rfl⟩ := List.append_of_mem hn
  rw [List.append_assoc, List.cons_append] at h
  rw [List.map_append]
  exact List.mem_append_left _ (h.before hacyclic hlinks ha)

/-- A node that stands first has no sources that are members. -/
theorem Sorts.first {ns : List Node} {n : Node} (h : g.Sorts E (n :: ns)) (hacyclic : g.Acyclic) (hfeeds : g.Feeds start E) :
    n.id.key = start := by
  refine ((hfeeds n.id.key).mp ((h.members _).mp List.mem_cons_self)).resolve_right ?_
  rintro ⟨hne, hall⟩
  obtain ⟨a, ha⟩ := List.exists_mem_of_ne_nil _ hne
  have hsorts : g.Sorts E ([] ++ n :: ns) := h
  cases hsorts.before hacyclic (mem_sources.mp ha) (hall a ha).1

/-- The nodes of every set can be brought into a topological order. -/
theorem Acyclic.exists_sorts (hacyclic : g.Acyclic) (hE : ∀ k ∈ E, k ∈ g.keys) : ∃ ns, g.Sorts E ns := by
  classical
  let le (n m : Node) : Bool := g.ancestry n.id.key ≤ g.ancestry m.id.key
  have hperm := List.mergeSort_perm (g.nodes.filter fun n => n.id.key ∈ E) le
  have hmem : ∀ {n}, n ∈ (g.nodes.filter fun n => n.id.key ∈ E).mergeSort le ↔ n ∈ g.nodes ∧ n.id.key ∈ E := fun {n} => by
    rw [hperm.mem_iff, List.mem_filter, decide_eq_true_iff]
  have hsorted : ((g.nodes.filter fun n => n.id.key ∈ E).mergeSort le).Pairwise fun n m => le n m = true :=
    List.pairwise_mergeSort (fun n m o hnm hmo => by simp only [le, decide_eq_true_iff] at *; omega)
      (fun n m => by simp only [le, Bool.or_eq_true, decide_eq_true_iff]; omega) _
  refine ⟨_, fun n hn => (hmem.mp hn).1, ?_, fun k => ?_, hsorted.imp fun {n m} hle hlinks => ?_⟩
  · exact (hperm.map _).nodup_iff.mpr (g.keys_nodup.sublist (List.filter_sublist.map _))
  · constructor
    · intro hk
      obtain ⟨n, hn, rfl⟩ := List.mem_map.mp hk
      exact (hmem.mp hn).2
    · intro hk
      obtain ⟨n, hn, rfl⟩ := List.mem_map.mp (hE k hk)
      exact List.mem_map_of_mem (hmem.mpr ⟨hn, hk⟩)
  · exact absurd (hacyclic.ancestry_lt (.single hlinks)) (Nat.not_lt.mpr (of_decide_eq_true hle))

end Graph
end Workflow
