import Mathlib.Data.Finset.Card
import Mathlib.Logic.Relation
import Workflow.Proofs.Views

/-!
# Workflow.Proofs.Nesting

How much loops do.

A loop executes the nodes of its body, and those may be loops again.  `Step.Spends`
counts the executions that a computation begins, on every path through it,
whatever collaborators answer.  A pass begins no more than one execution for each
node (`walk_spends`), whatever those spend themselves, and there are no more
passes than the loop is set to.

So the whole nest begins a bounded number of executions and then returns or fails
by itself, provided that no loop is met again inside its own body
(`loops_bounded`).  The bound on nesting that runs are given is not what stops
it.  Where a loop is met again inside its own body no pass notices: every
execution of the loop keeps its own list of the nodes it has been to, as the run
through `backGraph` shows.
-/

namespace Workflow

/-- Is it a limit of the run that has been met? -/
def Problem.isLimit : Problem → Bool
  | .tooDeep => true
  | _ => false

/-- Is it a limit of the run that has been met? -/
def Failure.isLimit : Failure → Bool
  | .node e => e.cause.isLimit
  | .own p => p.isLimit

theorem Failure.leave_isLimit (f : Failure) (id : NodeId) (kind : NodeKind) :
    (f.leave id kind).cause.isLimit = f.isLimit := by
  cases f <;> rfl

namespace Run

/-! ## Counting executions -/

/-- How many executions have begun. -/
def World.starts (w : World) : Nat := w.log.countP fun e => e.phase = .start

/-- No more than so many executions have begun, and what has been written is
known still. -/
structure World.Begins (I : List Write → Prop) (b : Nat) (w v : World) : Prop where
  known : I v.writes
  starts : v.starts ≤ w.starts + b

/-- The answer is not that a limit of the run has been met. -/
def Fair {α : Type} (r : Except Problem α) : Prop := ∀ p, r = .error p → p.isLimit = false

namespace Step

variable {α β : Type} {I : List Write → Prop} {b c : Nat} {w v : World}

/-- On every path no more than `b` executions are begun, and none ends at a limit
of the run.  `I` says what is known of the writes to shared mappings, by all that
act meanwhile. -/
def Spends (I : List Write → Prop) : Nat → World → Step α → Prop
  | b, w, .done v _ => w.Begins I b v
  | b, w, .fail v f => w.Begins I b v ∧ f.isLimit = false
  | b, w, .call v _ next =>
    ∃ d e, d + e ≤ b ∧ w.Begins I d v ∧ ∀ r u, Fair r → I u.writes → Spends I e u (next r u)
  | b, w, .tools v tasks next =>
    (∀ task ∈ tasks, task.Quiet) ∧
      ∃ d e, d + e ≤ b ∧ w.Begins I d v ∧ ∀ r u, Fair r → I u.writes → Spends I e u (next r u)

/-- What is begun earlier counts as well. -/
theorem Spends.after (h : w.Begins I b v) {s : Step α} (hs : s.Spends I c v) : s.Spends I (b + c) w := by
  have hadd : ∀ {u d}, v.Begins I d u → w.Begins I (b + d) u := fun hu =>
    ⟨hu.known, by have := h.starts; have := hu.starts; omega⟩
  cases s with
  | done u a => exact hadd hs
  | fail u f => exact ⟨hadd hs.1, hs.2⟩
  | call u c next =>
    obtain ⟨d, e, hde, hu, hnext⟩ := hs
    exact ⟨b + d, e, by omega, hadd hu, hnext⟩
  | tools u tasks next =>
    obtain ⟨hquiet, d, e, hde, hu, hnext⟩ := hs
    exact ⟨hquiet, b + d, e, by omega, hadd hu, hnext⟩

theorem Spends.mono {s : Step α} (hs : s.Spends I b w) (h : b ≤ c) : s.Spends I c w := by
  cases s with
  | done u a => exact ⟨hs.known, by have := hs.starts; omega⟩
  | fail u f => exact ⟨⟨hs.1.known, by have := hs.1.starts; omega⟩, hs.2⟩
  | call u c next =>
    obtain ⟨d, e, hde, hu, hnext⟩ := hs
    exact ⟨d, e, by omega, hu, hnext⟩
  | tools u tasks next =>
    obtain ⟨hquiet, d, e, hde, hu, hnext⟩ := hs
    exact ⟨hquiet, d, e, by omega, hu, hnext⟩

/-- Two computations in a row spend what both of them spend. -/
theorem Spends.bind {next : α → Work β} (hnext : ∀ v a, I v.writes → (next a v).Spends I c v) {s : Step α}
    (h : s.Spends I b w) : (s.bind next).Spends I (b + c) w := by
  induction s generalizing b w with
  | done v a =>
    change (next a v).Spends I (b + c) w
    exact (hnext v a h.known).after h
  | fail v f => exact ⟨⟨h.1.known, by have := h.1.starts; omega⟩, h.2⟩
  | call v call rest ih =>
    obtain ⟨d, e, hde, hv, hrest⟩ := h
    exact ⟨d, e + c, by omega, hv, fun r u hr hu => ih r u (hrest r u hr hu)⟩
  | tools v tasks rest ih =>
    obtain ⟨hquiet, d, e, hde, hv, hrest⟩ := h
    exact ⟨hquiet, d, e + c, by omega, hv, fun r u hr hu => ih r u (hrest r u hr hu)⟩

/-- The end of a computation may depend on whether it fails, unless it is at a
limit of the run. -/
theorem Spends.bind_attempt {next : Except Failure α → Work β}
    (hnext : ∀ v r, I v.writes → (∀ f, r = .error f → f.isLimit = false) → (next r v).Spends I c v) {s : Step α}
    (h : s.Spends I b w) : (s.attempt.bind next).Spends I (b + c) w := by
  induction s generalizing b w with
  | done v a =>
    change (next (.ok a) v).Spends I (b + c) w
    exact (hnext v (.ok a) h.known fun f hf => by cases hf).after h
  | fail v f =>
    change (next (.error f) v).Spends I (b + c) w
    refine (hnext v (.error f) h.1.known fun f' hf => ?_).after h.1
    obtain rfl := Except.error.inj hf
    exact h.2
  | call v call rest ih =>
    obtain ⟨d, e, hde, hv, hrest⟩ := h
    exact ⟨d, e + c, by omega, hv, fun r u hr hu => ih r u (hrest r u hr hu)⟩
  | tools v tasks rest ih =>
    obtain ⟨hquiet, d, e, hde, hv, hrest⟩ := h
    exact ⟨hquiet, d, e + c, by omega, hv, fun r u hr hu => ih r u (hrest r u hr hu)⟩

end Step

/-- Wherever `I` holds of the writes, the computation begins no more than `b`
executions. -/
def Work.Spends {α : Type} (I : List Write → Prop) (b : Nat) (x : Work α) : Prop :=
  ∀ w, I w.writes → (x w).Spends I b w

namespace Work.Spends

variable {α β : Type} {I : List Write → Prop} {b c : Nat}

theorem mono {x : Work α} (h : x.Spends I b) (hbc : b ≤ c) : x.Spends I c := fun w hw => (h w hw).mono hbc

theorem bind {x : Work α} {next : α → Work β} (hx : x.Spends I b) (hnext : ∀ a, (next a).Spends I c) :
    (x >>= next).Spends I (b + c) := fun w hw => (hx w hw).bind fun v a hv => hnext a v hv

/-- What begins no execution may come first. -/
theorem free {x : Work α} {next : α → Work β} (hx : x.Spends I 0) (hnext : ∀ a, (next a).Spends I c) :
    (x >>= next).Spends I c := (hx.bind hnext).mono (Nat.zero_add c).le

theorem pure (a : α) : (Pure.pure a : Work α).Spends I b := fun _ hw => ⟨hw, Nat.le_add_right _ _⟩

theorem throw {p : Problem} (hp : p.isLimit = false) : (Work.throw p : Work α).Spends I b :=
  fun _ hw => ⟨⟨hw, Nat.le_add_right _ _⟩, hp⟩

theorem lift (r : Except Fault α) : (Work.lift r).Spends I b := by
  cases r with
  | error f => exact throw rfl
  | ok a => exact pure a

/-- What follows an operation on values need only be looked at for its result. -/
theorem lift_bind {r : Except Fault α} {next : α → Work β} (hnext : ∀ a, r = .ok a → (next a).Spends I b) :
    (Work.lift r >>= next).Spends I b := by
  cases r with
  | error f => exact fun _ hw => ⟨⟨hw, Nat.le_add_right _ _⟩, rfl⟩
  | ok a => exact hnext a rfl

theorem ite {c : Prop} [Decidable c] {x y : Work α} (hx : x.Spends I b) (hy : y.Spends I b) :
    (if c then x else y).Spends I b := by
  by_cases h : c
  · simpa [h] using hx
  · simpa [h] using hy

/-- A guard: where the condition holds the computation fails, and goes on else. -/
theorem guard {c : Prop} [Decidable c] {p : Problem} {rest : PUnit → Work α} (hp : p.isLimit = false)
    (h : (rest PUnit.unit).Spends I b) :
    (if c then (do let u ← Work.throw p; rest u) else rest PUnit.unit).Spends I b :=
  ite (fun _ hw => ⟨⟨hw, Nat.le_add_right _ _⟩, hp⟩) h

theorem note (plan : Plan) (n : Node) {phase : Phase} (message : String) (payload : Value)
    (hphase : phase.isRemark = true) : (Work.note plan n phase message payload).Spends I 0 := by
  intro w hw
  refine ⟨hw, ?_⟩
  have hstart : phase ≠ .start := by
    rintro rfl
    cases hphase
  simp [World.starts, World.note, World.addEntry, List.countP_append, hstart]

end Work.Spends
end Run

namespace Execute

open Run

variable {plan : Plan} {g : Graph} {I : List Write → Prop} {b : Nat}

/-! ## Passes -/

/-- A pass of the loop that begins at the first node may come to the given one. -/
inductive OnPath (g : Graph) (loop : Node) (endHandle : Value) (first : NodeId) : NodeId → Prop
  | first : OnPath g loop endHandle first first
  | next {current next : NodeId} {n : Node} {output : Value} : OnPath g loop endHandle first current →
      g.node current.value = .ok n → nextInPass g loop endHandle current n output = .ok (some next) →
      OnPath g loop endHandle first next

variable {loop : Node} {endHandle : Value} {first current : NodeId} {dispatch : Node → Work Value}

/-- In a pass there is one execution at most for every node that has not been
seen, whatever each of these spends. -/
theorem walk_spends
    (hdispatch : ∀ {current n}, OnPath g loop endHandle first current → g.node current.value = .ok n →
      (dispatch n).Spends I b) (room : Nat) :
    ∀ seen {current}, OnPath g loop endHandle first current →
      (walk g dispatch loop endHandle room seen current).Spends I (room * b) := by
  induction room with
  | zero =>
    intro seen current _
    unfold walk
    exact .guard rfl (.throw rfl)
  | succ room ih =>
    intro seen current hpath
    unfold walk
    refine .guard rfl (.lift_bind fun n hn => ?_)
    refine .mono (.bind (hdispatch hpath hn) fun output => ?_) (Nat.succ_mul room b ▸ (Nat.add_comm b _).le)
    split
    next => exact .pure _
    next hnext => exact ih _ (.next hpath hn hnext)
    next => exact .throw rfl

theorem shouldExit_spends (plan : Plan) (n : Node) (e : Value) : (shouldExit plan n e).Spends I 0 := by
  unfold shouldExit
  refine .ite (.pure _) fun w hw => ?_
  refine Work.Spends.lift_bind (b := 0) (r := w.context plan.graph none) (fun context _ => ?_) w hw
  split
  next => exact .pure _
  next => exact .lift _
  next => exact .free (.note plan n _ _ rfl) fun _ => .pure _

theorem passes_spends (n : Node) (s : LoopSettings) {pass : Work Unit} (hpass : pass.Spends I b) (left : Nat) :
    ∀ done, (passes plan n s pass left done).Spends I (left * b) := by
  induction left with
  | zero => exact fun done => .free (.note plan n _ _ rfl) fun _ => .pure _
  | succ left ih =>
    intro done
    unfold passes
    refine .free (.note plan n _ _ rfl) fun _ => ?_
    refine .mono (.bind hpass fun _ => .free (.note plan n _ _ rfl) fun _ =>
      .free (shouldExit_spends plan n _) fun stop => .ite ?_ (ih _)) (Nat.succ_mul left b ▸ (Nat.add_comm b _).le)
    exact .mono (.free (.note plan n _ _ rfl) fun _ => .pure _) (Nat.zero_le _)

/-! ## Loops -/

/-- A pass of the loop may come to the node, with the loop set as it may be. -/
inductive Meets (I : List Write → Prop) (g : Graph) (loop n : Node) : Prop
  | intro {w : World} {startHandle endHandle : Value} {edge : Edge NodeId} {current : NodeId} (hw : I w.writes)
      (hstart : (w.node loop).loopStartHandle = .ok startHandle) (hend : (w.node loop).loopEndHandle = .ok endHandle)
      (hedge : g.edgeAt? loop.id.key startHandle = some edge)
      (hpath : OnPath g (w.node loop) endHandle edge.target current) (hn : g.node current.value = .ok n)

/-- The loop asks for no more than `m` passes. -/
def Limited (I : List Write → Prop) (m : Nat) (loop : Node) : Prop :=
  ∀ w : World, I w.writes → ∀ s, loopSettings (w.node loop) = .ok s → s.limit.toNat ≤ m

/-- A loop looks at its payload as it is when the loop begins. -/
theorem loop_current (dispatch : Node → Work Value) (w : World) :
    Execute.loop plan dispatch loop w = (do
      let s ← Work.lift (loopSettings (w.node loop))
      let startHandle ← Work.lift (w.node loop).loopStartHandle
      match plan.graph.edgeAt? (w.node loop).id.key startHandle with
      | none => do
        Work.note plan (w.node loop) .warning "Loop start handle is not connected" .null
        return loopOutput s.exitHandle 0
      | some e => passes plan (w.node loop) s (walkBody plan.graph dispatch (w.node loop) e.target) s.limit.toNat 0 :
        Work Value) w := rfl

theorem loop_spends {m : Nat} (hlimit : Limited I m loop)
    (hdispatch : ∀ n, Meets I plan.graph loop n → (dispatch n).Spends I b) :
    (Execute.loop plan dispatch loop).Spends I (m * (plan.graph.size * b)) := by
  intro w hw
  rw [loop_current]
  refine Work.Spends.lift_bind (fun s hs => .lift_bind fun startHandle hstart => ?_) w hw
  split
  next => exact .free (.note plan _ _ _ rfl) fun _ => .pure _
  next edge hedge =>
    refine .mono (passes_spends _ s (.lift_bind fun endHandle hend => ?_) _ _)
      (Nat.mul_le_mul_right _ (hlimit w hw s hs))
    exact walk_spends (fun hpath hn => hdispatch _ ⟨hw, hstart, hend, hedge, hpath, hn⟩) _ _ .first

/-- The execution of a node is one more than what the node spends. -/
theorem dispatchWith_spends {perform : Node → Work Value} {n : Node} (h : (perform n).Spends I b) :
    (dispatchWith plan perform n).Spends I (1 + b) := by
  intro w hw
  cases hkind : plan.kinds.contains n.kind with
  | false =>
    unfold dispatchWith
    simp only [hkind]
    exact ⟨⟨hw, Nat.le_add_right _ _⟩, rfl⟩
  | true =>
    rw [dispatchWith_apply hkind]
    have hbegun : w.Begins I 1 (w.begun plan n) := ⟨hw, by simp [World.starts, World.begun, World.addEntry, startEntry]⟩
    refine .mono (.after hbegun (.bind_attempt (c := 0) (fun v r hv hr => ?_) (h _ hw))) le_rfl
    cases r with
    | ok output =>
      exact ⟨hv, by simp [World.starts, World.completed, World.setOutput, World.addEntry, completeEntry]⟩
    | error f =>
      refine ⟨⟨hv, ?_⟩, (Failure.leave_isLimit f n.id n.kind).trans (hr f rfl)⟩
      cases f <;> simp [World.starts, World.failed, World.addEntry, failureEntry]

/-! ## Nests of loops -/

/-- The loop is met in the body of the other one. -/
def Inside (I : List Write → Prop) (g : Graph) (inner outer : Node) : Prop :=
  inner.kind = .loop ∧ Meets I g outer inner

theorem Inside.mem_nodes {inner outer : Node} (h : Relation.TransGen (Inside I g) inner outer) : inner ∈ g.nodes := by
  obtain ⟨outer, ⟨-, hmeets⟩, -⟩ := Relation.TransGen.head'_iff.mp h
  obtain ⟨-, -, -, -, -, hn⟩ := hmeets
  exact Graph.mem_nodes_of_node hn

/-- No loop is met again inside its own body. -/
def Nested (I : List Write → Prop) (g : Graph) : Prop := ∀ loop, ¬ Relation.TransGen (Inside I g) loop loop

open Classical in
/-- The number of loops inside a loop. -/
noncomputable def loopsInside (I : List Write → Prop) (g : Graph) (loop : Node) : Nat :=
  (g.nodes.toFinset.filter (Relation.TransGen (Inside I g) · loop)).card

theorem loopsInside_lt (hnest : Nested I g) {inner outer : Node} (h : Inside I g inner outer) :
    loopsInside I g inner < loopsInside I g outer := by
  classical
  refine Finset.card_lt_card (Finset.ssubset_iff_of_subset (fun n hn => ?_) |>.mpr ⟨inner, ?_, ?_⟩)
  · obtain ⟨hmem, hn⟩ := Finset.mem_filter.mp hn
    exact Finset.mem_filter.mpr ⟨hmem, hn.tail h⟩
  · exact Finset.mem_filter.mpr ⟨List.mem_toFinset.mpr (Inside.mem_nodes (.single h)), .single h⟩
  · exact fun hmem => hnest inner (Finset.mem_filter.mp hmem).2

theorem loopsInside_lt_size (hnest : Nested I g) {loop : Node} (h : loop ∈ g.nodes) :
    loopsInside I g loop < g.size := by
  classical
  have hssubset : g.nodes.toFinset.filter (Relation.TransGen (Inside I g) · loop) ⊂ g.nodes.toFinset :=
    Finset.filter_ssubset.mpr ⟨loop, List.mem_toFinset.mpr h, hnest loop⟩
  exact (Finset.card_lt_card hssubset).trans_le (List.toFinset_card_le g.nodes)

/-- What the execution of a node may spend, with so many loops inside each other,
each of which passes `m` times at most through `size` nodes. -/
def cost (m size : Nat) : Nat → Nat
  | 0 => 1
  | depth + 1 => 1 + m * (size * cost m size depth)

theorem one_le_cost (m size depth : Nat) : 1 ≤ cost m size depth := by
  cases depth <;> simp [cost]

theorem perform_not_loop {n : Node} (h : n.kind ≠ .loop) (nesting : Nat) :
    perform plan nesting n = perform plan 0 n := by
  unfold perform
  cases hkind : n.kind <;> simp_all

/-- Every node that is no loop returns or fails by itself, and begins no
execution but its own. -/
def Behaves (I : List Write → Prop) (plan : Plan) : Prop :=
  ∀ n ∈ plan.graph.nodes, n.kind ≠ .loop → (perform plan 0 n).Spends I 0

/-- A state node behaves. -/
theorem state_spends (plan : Plan) (n : Node) : (state plan n).Spends I 0 := by
  have hremarked : ∀ {w v : World}, I w.writes → Remarked n.id w v → w.Begins I 0 v := by
    intro w v hw h
    obtain ⟨es, hlog, hremarks⟩ := h.log
    refine ⟨h.writes ▸ hw, ?_⟩
    have hnone : es.countP (fun e => e.phase = .start) = 0 := by
      refine List.countP_eq_zero.mpr fun e he => ?_
      have := (hremarks e he).2.2
      cases hphase : e.phase <;> simp_all [Phase.isRemark]
    rw [World.starts, World.starts, hlog, List.countP_append, hnone]
  intro w hw
  obtain ⟨v, -, -, hdone, h, -⟩ | ⟨v, f, hfail, h⟩ := state_revises plan n w
  · rw [hdone]
    exact hremarked hw h
  · rw [hfail]
    exact ⟨hremarked hw h, rfl⟩

theorem dispatch_spends {m : Nat} (hrest : Behaves I plan)
    (hlimit : ∀ loop ∈ plan.graph.nodes, loop.kind = .loop → Limited I m loop) (hnest : Nested I plan.graph)
    (depth : Nat) : ∀ n ∈ plan.graph.nodes, (n.kind = .loop → loopsInside I plan.graph n < depth) →
      ∀ nesting, depth ≤ nesting →
        (dispatchWith plan (perform plan nesting) n).Spends I (cost m plan.graph.size depth) := by
  induction depth with
  | zero =>
    intro n hn hdeep nesting hle
    have hkind : n.kind ≠ .loop := fun h => absurd (hdeep h) (Nat.not_lt_zero _)
    refine dispatchWith_spends (b := 0) ?_
    rw [perform_not_loop hkind]
    exact hrest n hn hkind
  | succ depth ih =>
    intro n hn hdeep nesting hle
    by_cases hkind : n.kind = .loop
    · obtain ⟨nesting, rfl⟩ : ∃ k, nesting = k + 1 := ⟨nesting - 1, by omega⟩
      have hperform : perform plan (nesting + 1) n = Execute.loop plan (dispatchWith plan (perform plan nesting)) n := by
        unfold perform
        simp [hkind]
      refine dispatchWith_spends ?_
      rw [hperform]
      refine loop_spends (hlimit n hn hkind) fun inner hmeets => ?_
      have hinner : inner ∈ plan.graph.nodes := by
        obtain ⟨-, -, -, -, -, hn⟩ := hmeets
        exact Graph.mem_nodes_of_node hn
      refine ih inner hinner (fun h => ?_) nesting (by omega)
      have := loopsInside_lt hnest (⟨h, hmeets⟩ : Inside I plan.graph inner n)
      have := hdeep hkind
      omega
    · rw [show dispatchWith plan (perform plan nesting) n = dispatchWith plan (perform plan 0) n by
        unfold dispatchWith; rw [perform_not_loop hkind]]
      exact (dispatchWith_spends (b := 0) (hrest n hn hkind)).mono (one_le_cost _ _ _)

/-! ## Room for passes -/

theorem throw_bind {α β : Type} (p : Problem) (next : α → Work β) : (Work.throw p >>= next) = Work.throw p := rfl

/-- A node that a pass has been to is reported. -/
theorem walk_repeated (dispatch : Node → Work Value) (endHandle : Value) (room : Nat) {seen : List Key}
    (h : current.key ∈ seen) :
    walk g dispatch loop endHandle room seen current = Work.throw (.loop (.repeated current loop.id)) := by
  have hseen : seen.contains current.key = true := List.contains_iff_mem.mpr h
  unfold walk
  rw [if_pos hseen, throw_bind]

theorem walk_unseen (dispatch : Node → Work Value) (endHandle : Value) (room : Nat) {seen : List Key}
    (h : current.key ∉ seen) :
    walk g dispatch loop endHandle (room + 1) seen current = (do
      let n ← Work.lift (g.node current.value)
      let output ← dispatch n
      match nextInPass g loop endHandle current n output with
      | .ok none => pure ()
      | .ok (some next) => walk g dispatch loop endHandle room (current.key :: seen) next
      | .error p => Work.throw (.loop p)) := by
  have hseen : ¬ seen.contains current.key = true := fun hmem => h (List.contains_iff_mem.mp hmem)
  rw [walk]
  exact if_neg hseen

theorem nextInPass_mem {output : Value} {n : Node} {next : NodeId}
    (h : nextInPass g loop endHandle current n output = .ok (some next)) : next.key ∈ g.keys := by
  unfold nextInPass at h
  split at h
  · cases h
  · split at h
    next => cases h
    next e _ hout =>
      have hout : e ∈ g.outgoing current.key := hout ▸ List.mem_cons_self
      split at h
      · dsimp only at h
        split at h
        next e' hbranch =>
          cases h
          exact (g.ends_mem e' (Graph.mem_outgoing.mp (Graph.branchEdge?_mem hbranch)).1).2
        next => cases h
      · cases h
        exact (g.ends_mem e (Graph.mem_outgoing.mp hout).1).2

/-- A pass that has room for all nodes it has not been to ends by itself. -/
theorem walk_room (dispatch : Node → Work Value) (room : Nat) :
    ∀ {seen : List Key} {current : NodeId}, seen.Nodup → seen ⊆ g.keys → current.key ∈ g.keys →
      g.size ≤ room + seen.length →
      walk g dispatch loop endHandle (room + 1) seen current = walk g dispatch loop endHandle room seen current := by
  induction room with
  | zero =>
    intro seen current hnodup hsubset hcurrent hroom
    -- all nodes have been seen
    have hperm : seen.Perm g.keys := by
      refine (hnodup.subperm hsubset).perm_of_length_le ?_
      simpa [Graph.keys, Graph.size] using hroom
    have hseen : current.key ∈ seen := hperm.mem_iff.mpr hcurrent
    rw [walk_repeated _ _ _ hseen, walk_repeated _ _ _ hseen]
  | succ room ih =>
    intro seen current hnodup hsubset hcurrent hroom
    by_cases hseen : current.key ∈ seen
    · rw [walk_repeated _ _ _ hseen, walk_repeated _ _ _ hseen]
    · have hrest : ∀ next : NodeId, next.key ∈ g.keys →
          walk g dispatch loop endHandle (room + 1) (current.key :: seen) next =
            walk g dispatch loop endHandle room (current.key :: seen) next := fun next hnext =>
        ih (List.nodup_cons.mpr ⟨hseen, hnodup⟩) (List.cons_subset.mpr ⟨hcurrent, hsubset⟩) hnext
          (by rw [List.length_cons]; omega)
      rw [walk_unseen _ _ _ hseen, walk_unseen _ _ _ hseen]
      refine congrArg (Work.lift _ >>= ·) (funext fun n => congrArg (dispatch n >>= ·) (funext fun output => ?_))
      cases hnext : nextInPass g loop endHandle current n output with
      | error p => rfl
      | ok next =>
        cases next with
        | none => rfl
        | some next => exact hrest next (nextInPass_mem hnext)

/-- However much room there is for it, a pass is the same. -/
theorem walk_ends (dispatch : Node → Work Value) (loop : Node) (endHandle : Value) {first : NodeId}
    (h : first.key ∈ g.keys) (more : Nat) :
    walk g dispatch loop endHandle (g.size + more) [] first = walk g dispatch loop endHandle g.size [] first := by
  induction more with
  | zero => rfl
  | succ more ih =>
    rw [← ih, ← Nat.add_assoc]
    exact walk_room dispatch (g.size + more) List.nodup_nil (List.nil_subset _) h (by rw [List.length_nil]; omega)

/-! ## Bounded loops -/

/-- Where no loop is met again inside its own body, a loop begins a bounded
number of executions and then returns or fails, and not because loops are nested
too deeply: however deeply they may be.  A pass ends by itself as well, and a
node that it comes to twice is reported. -/
theorem loops_bounded {m : Nat} (hrest : Behaves I plan)
    (hlimit : ∀ loop ∈ plan.graph.nodes, loop.kind = .loop → Limited I m loop) (hnest : Nested I plan.graph)
    {loop : Node} (hloop : loop ∈ plan.graph.nodes) (hkind : loop.kind = .loop) {nesting : Nat}
    (hdeep : plan.graph.size ≤ nesting) :
    (Execute.loop plan (dispatchWith plan (perform plan nesting)) loop).Spends I
        (m * (plan.graph.size * cost m plan.graph.size plan.graph.size)) ∧
      (∀ dispatch endHandle (first : NodeId) more, first.key ∈ plan.graph.keys →
        walk plan.graph dispatch loop endHandle (plan.graph.size + more) [] first =
          walk plan.graph dispatch loop endHandle plan.graph.size [] first) ∧
      ∀ dispatch endHandle room (seen : List Key) (current : NodeId) w, current.key ∈ seen →
        walk plan.graph dispatch loop endHandle room seen current w =
          .fail w (.own (.loop (.repeated current loop.id))) := by
  refine ⟨loop_spends (hlimit loop hloop hkind) fun n hmeets => ?_, ?_, ?_⟩
  · obtain ⟨-, -, -, -, -, hn⟩ := hmeets
    have hmem := Graph.mem_nodes_of_node hn
    exact dispatch_spends hrest hlimit hnest _ n hmem (fun _ => loopsInside_lt_size hnest hmem) nesting hdeep
  · exact fun dispatch endHandle first more hfirst => walk_ends dispatch loop endHandle hfirst more
  · intro dispatch endHandle room seen current w hseen
    rw [walk_repeated dispatch endHandle room hseen]
    rfl

/-! ## A loop, and one that is met again -/

/-- A node without bindings. -/
def bareNode (id : String) (kind : NodeKind) (settings : List (String × Value)) : Node :=
  ⟨.ofString id, kind, .str id, .record settings, .null⟩

/-- An edge between named nodes, from one handle to another. -/
def wire (source target : String) (sourceHandle targetHandle : Value) : Edge NodeId :=
  ⟨.ofString source, .ofString target, sourceHandle, targetHandle, .null⟩

/-- A plan for executing nodes of a graph with so many loops inside each other. -/
def barePlan (g : Graph) (nesting : Nat) : Plan :=
  ⟨g, .record [], .silent, NodeKind.all, false, fun _ => .ok (), nesting, 0⟩

/-- A loop that passes twice. -/
def twice : Node := bareNode "l" .loop [("maxIterations", .int 2)]

/-- The body of the loop: one node, wired back to the loop's end. -/
def twiceGraph : Graph where
  nodes := [twice, bareNode "c" .state []]
  edges := [wire "l" "c" (.str "l-loop-start") .null, wire "c" "l" .null (.str "l-loop-end")]
  keys_nodup := by decide
  ends_mem := by decide

/-- From the one node of the body a pass goes nowhere. -/
theorem twice_path {w : World} {current : NodeId}
    (h : OnPath twiceGraph (w.node twice) (.str "l-loop-end") (.ofString "c") current) : current = .ofString "c" := by
  induction h with
  | first => rfl
  | @next current next n output _ _ hnext ih =>
    subst ih
    have hend : twiceGraph.hasEdge (NodeId.ofString "c").key (w.node twice).id.value (.str "l-loop-end") = true := rfl
    unfold nextInPass at hnext
    rw [if_pos hend] at hnext
    cases hnext

theorem twice_not_inside (inner : Node) : ¬ Inside (· = []) twiceGraph inner twice := by
  rintro ⟨hkind, @⟨w, startHandle, endHandle, edge, current, hw, hstart, hend, hedge, hpath, hn⟩⟩
  have hnode : w.node twice = World.empty.node twice := World.node_of_writes hw twice
  rw [hnode] at hstart hend hpath
  obtain rfl : startHandle = .str "l-loop-start" := Except.ok.inj (hstart.symm.trans rfl)
  obtain rfl : endHandle = .str "l-loop-end" := Except.ok.inj (hend.symm.trans rfl)
  obtain rfl : edge = wire "l" "c" (.str "l-loop-start") .null := Option.some.inj (hedge.symm.trans rfl)
  obtain rfl := twice_path hpath
  obtain rfl : inner = bareNode "c" .state [] := Except.ok.inj (hn.symm.trans rfl)
  cases hkind

/-- Twice the one node of the body is executed, and the loop returns or fails. -/
theorem twice_bounded : (Execute.loop (barePlan twiceGraph 2)
    (dispatchWith (barePlan twiceGraph 2) (perform (barePlan twiceGraph 2) 2)) twice).Spends (· = [])
      (2 * (2 * cost 2 2 2)) := by
  have hnode : ∀ loop ∈ twiceGraph.nodes, loop.kind = .loop → loop = twice := by
    intro loop hmem hkind
    rcases List.mem_cons.mp hmem with rfl | hmem
    · rfl
    · obtain rfl := List.mem_singleton.mp hmem
      cases hkind
  have hbehaves : Behaves (· = []) (barePlan twiceGraph 2) := by
    intro n hn hkind
    rcases List.mem_cons.mp hn with rfl | hn
    · exact absurd rfl hkind
    · obtain rfl := List.mem_singleton.mp hn
      exact state_spends _ _
  have hlimited : ∀ loop ∈ twiceGraph.nodes, loop.kind = .loop → Limited (· = []) 2 loop := by
    intro loop hmem hkind w hw s hs
    obtain rfl := hnode loop hmem hkind
    rw [show w.node twice = World.empty.node twice from World.node_of_writes hw twice] at hs
    obtain rfl := Except.ok.inj (hs.symm.trans rfl)
    exact le_rfl
  have hnested : Nested (· = []) twiceGraph := by
    intro loop hinside
    obtain ⟨outer, -, hlast⟩ := Relation.TransGen.tail'_iff.mp hinside
    obtain ⟨inner, hfirst, -⟩ := Relation.TransGen.head'_iff.mp hinside
    obtain rfl := hnode loop (Inside.mem_nodes hinside) hfirst.1
    exact twice_not_inside outer hlast
  exact (loops_bounded hbehaves hlimited hnested List.mem_cons_self rfl le_rfl).1

/-- A loop whose body may lead back into it, past its end. -/
def back : Node := bareNode "l" .loop [("maxIterations", .int 1)]

/-- In the body of the loop the way back into it is taken as long as the state
is empty, and makes it other than that. -/
def backGraph : Graph where
  nodes :=
    [back,
      bareNode "c" .condition
        [("conditions", .list [.record [("expression", .str "state"), ("outputHandleId", .str "x")]]),
          ("defaultOutputHandleId", .str "again")],
      bareNode "n" .state [("stateUpdates", .list [.record [("key", .str "k"), ("value", .int 1)]])],
      bareNode "d" .state []]
  edges :=
    [wire "l" "c" (.str "l-loop-start") .null, wire "c" "n" (.str "again") .null, wire "n" "l" .null .null,
      wire "c" "d" (.str "x") .null, wire "d" "l" .null (.str "l-loop-end"), wire "l" "d" (.str "max-reached") .null]
  keys_nodup := by decide
  ends_mem := by decide

/-- Does the computation return at once? -/
def returns {α : Type} : Step α → Bool
  | .done _ _ => true
  | _ => false

/-- A pass of the loop comes to the loop itself, and does not report that. -/
theorem back_not_reported :
    OnPath backGraph back (.str "l-loop-end") (.ofString "c") back.id ∧
      ¬ ∃ v p, Execute.loop (barePlan backGraph 1) (dispatchWith (barePlan backGraph 1) (perform (barePlan backGraph 1) 1))
        back World.empty = .fail v (.own (.loop p)) := by
  constructor
  · have hn : OnPath backGraph back (.str "l-loop-end") (.ofString "c") (.ofString "n") :=
      .next .first rfl (rfl : nextInPass _ _ _ _ _ (selecting (.str "again")) = _)
    exact .next hn rfl (rfl : nextInPass _ _ _ _ _ .null = _)
  · rintro ⟨v, p, h⟩
    have hreturns : returns (Execute.loop (barePlan backGraph 1)
        (dispatchWith (barePlan backGraph 1) (perform (barePlan backGraph 1) 1)) back World.empty) = true := by
      decide +kernel
    rw [h] at hreturns
    cases hreturns

end Execute
end Workflow
