import Mathlib.Algebra.BigOperators.Group.List.Basic
import Workflow.Proofs.Repetition
import Workflow.Proofs.Writing

/-!
# Workflow.Proofs.Nests

Loops inside each other.

A nest is a list of `Layer`s, each with one loop.  The body of the loop is a straight
line of nodes, among them the loop of the next layer.  That is executed as often as
any other node of the line: once in every pass.

So the numbers of passes multiply.  `executions` says so layer by layer, along the
courses of the dispatch of the outermost loop (`Nest.multiplies`), and
`nested_loops_multiply` node by node.
-/

namespace Workflow.Execute

open Run

variable {A : World → World → Prop} {plan : Plan} {g : Graph} {dispatch : Node → Work Value} {loop n : Node}
  {endHandle handle output : Value} {w u v : World} {d : Key → ℤ}

/-! ## Nests -/

/-- A straight line of nodes in the body of a loop: each of them leads to the next
one, if a loop among them selects the given handle, and the last one leads into the
end of the loop. -/
structure Straight (g : Graph) (loop : Node) (endHandle handle : Value) (line : List Node) : Prop where
  mem : ∀ n ∈ line, n ∈ g.nodes
  steps : line.IsChain fun n m =>
    leadsToEnd g loop endHandle n.id.key = false ∧ onward? g n (selecting handle) = some m.id
  last : ∃ n, line.getLast? = some n ∧ leadsToEnd g loop endHandle n.id.key = true

/-- A loop of a nest: how often it passes through its body, the handles that it is
set to, and the nodes of its body, which come before and after the loop inside. -/
structure Layer where
  loop : Node
  passes : Nat
  startHandle : Value
  endHandle : Value
  limitHandle : String
  before : List Node
  after : List Node

namespace Layer

/-- The nodes of the body that are no loops. -/
def workers (l : Layer) : List Node := l.before ++ l.after

/-- The body of the loop, in order, with the layers inside. -/
def line (l : Layer) : List Layer → List Node
  | [] => l.workers
  | inner :: _ => l.before ++ inner.loop :: l.after

/-- The handle that the loop on the line of a body selects, if there is one. -/
def handleOn : List Layer → Value
  | [] => .null
  | inner :: _ => .str inner.limitHandle

/-- In the given world the loop is set to its number of passes, without an exit
condition, and to its handles. -/
structure IsSet (l : Layer) (w : World) : Prop where
  settings : ∃ i es s, (w.node l.loop).payload = .dict i es ∧ SetTo es s ∧ s.limit = l.passes ∧
    s.exitCondition.truthy = false ∧ s.limitHandle = .str l.limitHandle
  startHandle : (w.node l.loop).loopStartHandle = .ok l.startHandle
  endHandle : (w.node l.loop).loopEndHandle = .ok l.endHandle

/-- The loop begins its body at the first node of a straight line, and what is on
the line are nodes that do not branch and the loop of the next layer. -/
structure Wired (g : Graph) (l : Layer) (rest : List Layer) : Prop where
  isLoop : l.loop.kind = .loop
  plain : ∀ n ∈ l.workers, n.kind.isBranching = false
  start : ∃ e n, g.edgeAt? l.loop.id.key l.startHandle = some e ∧ (l.line rest).head? = some n ∧ e.target = n.id
  straight : Straight g l.loop l.endHandle (handleOn rest) (l.line rest)

end Layer

/-- The layers are those of loops inside each other. -/
def Nest (g : Graph) : List Layer → Prop
  | [] => True
  | l :: rest => l.Wired g rest ∧ Nest g rest

/-- All nodes of a nest. -/
def members (layers : List Layer) : List Node := layers.flatMap fun l => l.loop :: l.workers

/-! ## Executions -/

/-- One execution of a node. -/
def once (n : Node) : Key → ℤ := Pi.single n.id.key 1

/-- The executions of a nest: one of its outermost loop, and with every pass of it
one of each node of the body, and those of the nest inside. -/
def executions : List Layer → Key → ℤ
  | [] => 0
  | l :: rest => once l.loop + l.passes • ((l.workers.map once).sum + executions rest)

theorem begunTo_begun (plan : Plan) (w : World) (n : Node) : w.begunTo (w.begun plan n) = once n := by
  funext k
  have hrounds := (tally_begun plan w n k).1
  rw [World.begunTo, hrounds, once, Pi.single_apply]
  by_cases hk : k = n.id.key
  · simp [hk]
  · simp [hk, Ne.symm hk]

theorem begunTo_completed (plan : Plan) (w : World) (n : Node) (output : Value) (elapsed : Nat) :
    w.begunTo (w.completed plan n output elapsed) = 0 := by
  funext k
  rw [World.begunTo, (tally_completed plan w n output elapsed k).1, sub_self]
  rfl

theorem begunTo_failed (plan : Plan) (w : World) (n : Node) (f : Failure) : w.begunTo (w.failed plan n f) = 0 := by
  funext k
  have hlog : (w.failed plan n f).log = w.log ++ [failureEntry n f w.clock] := rfl
  have hphase : ¬ (failureEntry n f w.clock).phase = .start := by simp [failureEntry_phase]
  simp [World.begunTo, World.rounds, hlog, List.countP_append, hphase]

/-- What becomes of the result of a node's work as its execution is concluded. -/
inductive Concludes (n : Node) : Except Failure Value → Except Failure Value → Prop
  | ok (a : Value) (origin : Origin) : Concludes n (.ok a) (.ok (a.adopt origin))
  | error (f : Failure) : Concludes n (.error f) (.error (.node (f.leave n.id n.kind)))

/-- The dispatch of a node begins one execution of it, and those that its work
begins, unless nodes of its kind cannot be executed. -/
theorem dispatchWith_course {perform : Node → Work Value} {r : Except Failure Value}
    (h : Step.Course A w (dispatchWith plan perform n w) d v r) :
    (plan.kinds.contains n.kind = false ∧ ∃ f, r = .error f) ∨
      ∃ d' u r', Step.Course A (w.begun plan n) (perform n (w.begun plan n)) d' u r' ∧
        d = once n + d' ∧ v.writes = u.writes ∧ Concludes n r' r := by
  cases hkind : plan.kinds.contains n.kind with
  | false =>
      unfold dispatchWith at h
      simp only [hkind] at h
      obtain ⟨-, -, rfl⟩ := Step.Course.of_fail h
      exact .inl ⟨rfl, _, rfl⟩
  | true =>
      rw [dispatchWith_apply hkind] at h
      obtain ⟨f, -, hwork⟩ | ⟨d₁, u, r', d₂, hwork, hend, rfl⟩ := h.bind_cases
      · obtain ⟨-, ⟨⟩, -⟩ := hwork.attempt_cases
      · obtain ⟨x, hx, hwork⟩ := hwork.attempt_cases
        obtain rfl := Except.ok.inj hx
        -- to be told from where the execution has begun
        have hbegun : ∀ d₂, d₂ = 0 → d₁ + d₂ = once n + ((w.begun plan n).begunTo w + d₁) := by
          rintro _ rfl
          rw [World.begunTo_swap, begunTo_begun, add_zero, add_neg_cancel_left]
        refine .inr ⟨_, u, r', hwork.after _, ?_⟩
        cases r' with
        | error f =>
            obtain ⟨hd₂, rfl, rfl⟩ := Step.Course.of_fail hend
            exact ⟨hbegun d₂ (hd₂.trans (begunTo_failed plan u n f)), rfl, .error f⟩
        | ok a =>
            obtain ⟨hd₂, rfl, rfl⟩ := Step.Course.of_done hend
            exact ⟨hbegun d₂ (hd₂.trans (begunTo_completed plan u n _ _)), rfl, .ok a _⟩

/-- The work of a node that is no loop begins no execution, and where it fails it
does so with a problem of its own. -/
theorem worker_work (hkind : n.kind ≠ .loop) {nesting : Nat} {r : Except Failure Value}
    (h : Step.Course A w (perform plan nesting n w) d v r) : d = 0 ∧ ∀ f, r = .error f → ∃ p, f = .own p := by
  by_cases hstate : n.kind = .state
  · have hperform : perform plan nesting n = state plan n := by rw [perform_eq, hstate]
    have hnone : ∀ {u : World}, Remarked n.id w u → w.begunTo u = 0 := by
      intro u hremarked
      obtain ⟨es, hlog, hes⟩ := hremarked.log
      exact World.begunTo_of_remarks hlog fun e he => (hes e he).2.2
    rw [hperform] at h
    obtain ⟨u, -, -, hdone, hremarked, -⟩ | ⟨u, f, hfail, hremarked⟩ := state_revises plan n w
    · rw [hdone] at h
      obtain ⟨rfl, -, rfl⟩ := Step.Course.of_done h
      exact ⟨hnone hremarked, fun _ hf => nomatch hf⟩
    · rw [hfail] at h
      obtain ⟨rfl, -, rfl⟩ := Step.Course.of_fail h
      exact ⟨hnone hremarked, fun f hf => ⟨_, (Except.error.inj hf).symm⟩⟩
  · have hasides := @perform_asides False plan nesting n False.elim hstate hkind w
    refine ⟨h.begun_eq_zero hasides fun _ _ => World.begunTo_of_aside, ?_⟩
    rintro f rfl
    exact h.failure hasides

/-- A node that is no loop begins no execution but its own, and its failure is one
of its own, if nodes of its kind can be executed. -/
theorem worker_course (hkind : n.kind ≠ .loop) {nesting : Nat} {r : Except Failure Value}
    (h : Step.Course A w (dispatchWith plan (perform plan nesting) n w) d v r) :
    (∀ output, r = .ok output → d = once n) ∧
      ∀ f, r = .error f → plan.kinds.contains n.kind = true → ∃ p, f = .node ⟨n.id, n.kind, p⟩ := by
  obtain ⟨hkinds, f, rfl⟩ | ⟨d', u, r', hwork, rfl, -, hconcludes⟩ := dispatchWith_course h
  · refine ⟨fun _ hok => (nomatch hok), fun _ _ hkinds' => ?_⟩
    cases hkinds.symm.trans hkinds'
  · obtain ⟨rfl, hown⟩ := worker_work hkind hwork
    cases hconcludes with
    | ok a origin => exact ⟨fun _ _ => add_zero _, fun _ hf => nomatch hf⟩
    | error f =>
        obtain ⟨p, rfl⟩ := hown f rfl
        exact ⟨fun _ hok => (nomatch hok), fun f hf _ => ⟨p, (Except.error.inj hf).symm⟩⟩

/-! ## Straight passes -/

/-- What is followed from a node depends on the handle that it selects, and that
only if it is a branching node. -/
theorem onward?_selecting (h : n.kind.isBranching = true → Machine.selectedHandle output = handle) :
    onward? g n output = onward? g n (selecting handle) := by
  unfold onward?
  cases hkind : n.kind.isBranching with
  | false => simp
  | true => rw [h hkind]; rfl

theorem Stop.Made.writes {s : Stop} (hA : ∀ w u, A w u → w.Writes u) (hdispatch : ∀ n, (dispatch n).Writes)
    (h : s.Made A g dispatch) : s.before.Writes s.after := h.course.keeps (hdispatch _ _) World.Writes.trans hA

/-- At its end a pass has seen the writes of its first stop. -/
theorem Pass.writes {r : Except Failure Unit} (hA : ∀ w u, A w u → w.Writes u) (hdispatch : ∀ n, (dispatch n).Writes)
    {rest : List Stop} : ∀ {seen : List Key} {s : Stop}, Pass A g dispatch loop endHandle seen (s :: rest) v r →
      s.after.Writes v := by
  induction rest with
  | nil =>
      intro seen s h
      cases h <;> exact .refl _
  | cons t rest ih =>
      intro seen s h
      cases h with
      | goesOn _ _ _ _ _ hbefore hrest =>
          have hmade := hrest.made t List.mem_cons_self
          exact World.Writes.trans _ _ _ (hbefore ▸ hmade.writes hA hdispatch) (ih hrest)

/-- The nodes of a line keep to it: as long as no more is written than the last
world has seen, each of them begins what `f` says and selects the given handle, if
it returns. -/
def KeepTo (A : World → World → Prop) (g : Graph) (dispatch : Node → Work Value) (handle : Value) (f : Node → Key → ℤ)
    (line : List Node) (v : World) : Prop :=
  ∀ s : Stop, s.Made A g dispatch → s.node ∈ line → s.after.Writes v → ∀ output, s.result = .ok output →
    s.begun = f s.node ∧ (s.node.kind.isBranching = true → Machine.selectedHandle output = handle)

namespace Straight

variable {line : List Node}

theorem node_eq (h : Straight g loop endHandle handle (n :: line)) {s : Stop} (hs : s.Made A g dispatch)
    (hid : s.id = n.id) : s.node = n := by
  have hn := Graph.node?_mem (h.mem n List.mem_cons_self)
  rw [← hid] at hn
  exact Option.some.inj (hs.node.symm.trans hn)

theorem tail {m : Node} (h : Straight g loop endHandle handle (n :: m :: line)) :
    Straight g loop endHandle handle (m :: line) where
  mem x hx := h.mem x (List.mem_cons_of_mem _ hx)
  steps := (List.isChain_cons_cons.mp h.steps).2
  last := h.last

/-- A stop at the first node of a line that keeps to it begins what that node does,
and short of the end of the loop the next node of the line is before it. -/
theorem first_stop {f : Node → Key → ℤ} (h : Straight g loop endHandle handle (n :: line))
    (hkeep : KeepTo A g dispatch handle f (n :: line) v) {s : Stop} (hs : s.Made A g dispatch) (hid : s.id = n.id)
    (hwrites : s.after.Writes v) (hresult : s.result = .ok output) :
    s.begun = f n ∧ (leadsToEnd g loop endHandle s.key = false →
      ∃ m rest, line = m :: rest ∧ onward? g s.node output = some m.id) := by
  have hnode := h.node_eq hs hid
  obtain ⟨hbegun, hselects⟩ := hkeep s hs (hnode ▸ List.mem_cons_self) hwrites output hresult
  refine ⟨hnode ▸ hbegun, fun hshort => ?_⟩
  cases line with
  | nil =>
      obtain ⟨last, hget, hend⟩ := h.last
      obtain rfl : n = last := Option.some.inj hget
      rw [Stop.key, hid, hend] at hshort
      cases hshort
  | cons m rest =>
      refine ⟨m, rest, rfl, ?_⟩
      rw [onward?_selecting hselects, hnode]
      exact (List.isChain_cons_cons.mp h.steps).1.2

/-- A pass along a straight line comes to all its nodes and returns, or one of them
fails and the pass with it. -/
theorem pass (hA : ∀ w u, A w u → w.Writes u) (hdispatch : ∀ n, (dispatch n).Writes) {f : Node → Key → ℤ} :
    ∀ {seen : List Key} {stops : List Stop} {r : Except Failure Unit}, Straight g loop endHandle handle line →
      (line.map fun n => n.id.key).Nodup → (∀ n ∈ line, n.id.key ∉ seen) → KeepTo A g dispatch handle f line v →
      stops.head?.map Stop.id = line.head?.map (·.id) → Pass A g dispatch loop endHandle seen stops v r →
      (r = .ok () ∧ (stops.map Stop.begun).sum = (line.map f).sum) ∨
        ∃ (s : Stop) (e : Failure), s.Made A g dispatch ∧ s.node ∈ line ∧ s.after.Writes v ∧ s.result = .error e ∧
          r = .error e := by
  induction line with
  | nil =>
      rintro seen stops r hline
      obtain ⟨n, ⟨⟩, -⟩ := hline.last
  | cons n line ih =>
      intro seen stops r hline hnodup hfresh hkeep hhead h
      obtain ⟨hnew, hnodup'⟩ := List.nodup_cons.mp hnodup
      have hother : ∀ x ∈ line, x.id.key ≠ n.id.key := fun x hx heq => hnew (List.mem_map.mpr ⟨x, hx, heq⟩)
      cases h with
      | @fails _ s e _ hs hresult =>
          have hnode := hline.node_eq hs (Option.some.inj hhead)
          exact .inr ⟨s, e, hs, hnode ▸ List.mem_cons_self, .refl _, hresult, rfl⟩
      | @returns _ s output _ hs hresult hend =>
          have hid : s.id = n.id := Option.some.inj hhead
          obtain ⟨hbegun, -⟩ := hline.first_stop hkeep hs hid (.refl _) hresult
          cases line with
          | nil => exact .inl ⟨rfl, by simp [hbegun]⟩
          | cons m line =>
              -- short of the end of the line no node leads into the end of the loop
              rw [Stop.key, hid, (List.isChain_cons_cons.mp hline.steps).1.1] at hend
              cases hend
      | @strands _ s output _ hs hresult hshort hnone =>
          obtain ⟨-, honward⟩ := hline.first_stop hkeep hs (Option.some.inj hhead) (.refl _) hresult
          obtain ⟨m, rest, -, hnext⟩ := honward hshort
          cases hnone.symm.trans hnext
      | @repeats _ s output next _ hs hresult hshort hnext hseen =>
          have hid : s.id = n.id := Option.some.inj hhead
          obtain ⟨-, honward⟩ := hline.first_stop hkeep hs hid (.refl _) hresult
          obtain ⟨m, rest, rfl, hm⟩ := honward hshort
          obtain rfl := Option.some.inj (hnext.symm.trans hm)
          -- the next node of the line is another one, and has not been seen
          rw [Stop.key, hid] at hseen
          exact absurd (List.mem_cons.mp hseen)
            (not_or.mpr ⟨hother m List.mem_cons_self, hfresh m (List.mem_cons_of_mem _ List.mem_cons_self)⟩)
      | @goesOn _ s t output rest _ _ _ hs hresult hshort hnext hbefore hrest =>
          have hid : s.id = n.id := Option.some.inj hhead
          have hwrites : s.after.Writes v :=
            World.Writes.trans _ _ _ (hbefore ▸ (hrest.made t List.mem_cons_self).writes hA hdispatch)
              (hrest.writes hA hdispatch)
          obtain ⟨hbegun, honward⟩ := hline.first_stop hkeep hs hid hwrites hresult
          obtain ⟨m, line, rfl, hm⟩ := honward hshort
          have hhead' : (t :: rest).head?.map Stop.id = (m :: line).head?.map (·.id) := hnext.symm.trans hm
          have hfresh' : ∀ x ∈ m :: line, x.id.key ∉ s.key :: seen := fun x hx hmem =>
            (List.mem_cons.mp hmem).elim (fun heq => hother x hx (heq.trans (congrArg NodeId.key hid)))
              (hfresh x (List.mem_cons_of_mem _ hx))
          obtain ⟨hok, hsum⟩ | ⟨s', e, hs', hmem', hrest'⟩ := ih hline.tail hnodup' hfresh'
            (fun x hx hmem => hkeep x hx (List.mem_cons_of_mem _ hmem)) hhead' hrest
          · refine .inl ⟨hok, ?_⟩
            rw [List.map_cons, List.sum_cons, hsum, hbegun]
            exact List.sum_cons.symm
          · exact .inr ⟨s', e, hs', List.mem_cons_of_mem _ hmem', hrest'⟩

end Straight

/-! ## Repeated passes -/

/-- Turns that begin the same executions each begin so many times as many. -/
theorem Turns.begun_eq {pass : Work Unit} {ts : List Turn} {b : Key → ℤ} (h : Turns A pass w ts d v)
    (hb : ∀ t ∈ ts, t.begun = b) : d = ts.length • b := by
  induction h with
  | nil => exact (zero_nsmul b).symm
  | cons _ _ _ ih =>
      obtain ⟨hfirst, hrest⟩ := List.forall_mem_cons.mp hb
      rw [ih hrest, hfirst, List.length_cons, succ_nsmul']

/-- Every turn is a course of the pass, and what it has seen written has been
written at the end. -/
theorem Turns.made {pass : Work Unit} {ts : List Turn} (hA : ∀ w u, A w u → w.Writes u) (hpass : pass.Writes)
    (h : Turns A pass w ts d v) :
    w.Writes v ∧ ∀ t ∈ ts, Step.Course A t.before (pass t.before) t.begun t.after t.result ∧ t.after.Writes v := by
  induction h with
  | nil hwhisper => exact ⟨.of_eq hwhisper.writes, List.forall_mem_nil _⟩
  | cons hwhisper hcourse _ ih =>
      obtain ⟨hwrites, hrest⟩ := ih
      have hturn := World.Writes.trans _ _ _ (hcourse.keeps (hpass _) World.Writes.trans hA) hwrites
      exact ⟨World.Writes.trans _ _ _ (.of_eq hwhisper.writes) hturn, List.forall_mem_cons.mpr ⟨⟨hcourse, hwrites⟩, hrest⟩⟩

/-! ## Nests of loops -/

/-- What a node on the line of a body begins when it is dispatched: the loop begins
the nest inside. -/
def share (rest : List Layer) (n : Node) : Key → ℤ := if n.kind = .loop then executions rest else once n

/-- The failure of a nest is that of one of the nodes that are no loops, provided
that there is room for all layers and that nodes of all kinds can be executed. -/
def Blames (plan : Plan) (nesting : Nat) (layers : List Layer) (f : Failure) : Prop :=
  layers.length ≤ nesting → (∀ n ∈ members layers, plan.kinds.contains n.kind = true) →
    ∃ n ∈ layers.flatMap Layer.workers, ∃ p, f = .node ⟨n.id, n.kind, p⟩

namespace Layer.Wired

variable {l inner : Layer} {rest : List Layer}

/-- Workers are no loops. -/
theorem worker (h : l.Wired g rest) (hn : n ∈ l.workers) : n.kind ≠ .loop := by
  intro hkind
  have hplain := h.plain n hn
  rw [hkind] at hplain
  cases hplain

/-- On the line there are workers, and the loop of the next layer. -/
theorem mem_line (hn : n ∈ l.line rest) : n ∈ l.workers ∨ ∃ inner rest', rest = inner :: rest' ∧ n = inner.loop := by
  cases rest with
  | nil => exact .inl hn
  | cons inner rest' =>
      rcases List.mem_append.mp hn with hn | hn
      · exact .inl (List.mem_append_left _ hn)
      · rcases List.mem_cons.mp hn with rfl | hn
        · exact .inr ⟨inner, rest', rfl, rfl⟩
        · exact .inl (List.mem_append_right _ hn)

/-- The shares of a line make up the executions of one pass. -/
theorem share_line (h : l.Wired g rest) (hrest : Nest g rest) :
    ((l.line rest).map (share rest)).sum = (l.workers.map once).sum + executions rest := by
  have hworkers : ∀ ns : List Node, (∀ n ∈ ns, n ∈ l.workers) → ns.map (share rest) = ns.map once := fun ns hns =>
    List.map_congr_left fun n hn => if_neg (h.worker (hns n hn))
  cases rest with
  | nil =>
      rw [Layer.line, hworkers _ fun n hn => hn, executions, add_zero]
  | cons inner rest =>
      have hloop : share (inner :: rest) inner.loop = executions (inner :: rest) := if_pos hrest.1.isLoop
      rw [Layer.line, Layer.workers, List.map_append, List.map_cons, List.sum_append, List.sum_cons, hloop,
        hworkers l.before fun n hn => List.mem_append_left _ hn, hworkers l.after fun n hn => List.mem_append_right _ hn,
        List.map_append, List.sum_append, add_comm (executions _), ← add_assoc]

/-- The nodes of a line are distinct, if those of the nest are. -/
theorem line_nodup (h : ((members (l :: rest)).map fun n => n.id.key).Nodup) :
    ((l.line rest).map fun n => n.id.key).Nodup := by
  have hbody : ((l.workers ++ members rest).map fun n => n.id.key).Nodup := (List.nodup_cons.mp h).2
  cases rest with
  | nil => exact (List.append_nil l.workers ▸ hbody :)
  | cons inner rest' =>
      have hsub : ((l.workers ++ [inner.loop]).map fun n => n.id.key).Nodup := by
        refine hbody.sublist (.map _ (.append_left ?_ _))
        exact List.singleton_sublist.mpr List.mem_cons_self
      have hperm : (l.line (inner :: rest')).Perm (l.workers ++ [inner.loop]) :=
        List.perm_middle.trans (List.perm_append_singleton _ _).symm
      exact (hperm.map _).nodup_iff.mpr hsub

end Layer.Wired

namespace Blames

variable {nesting : Nat} {l : Layer} {rest : List Layer} {f : Failure}

theorem of_worker (hn : n ∈ l.workers) (h : plan.kinds.contains n.kind = true → ∃ p, f = .node ⟨n.id, n.kind, p⟩) :
    Blames plan nesting (l :: rest) f := by
  intro _ hkinds
  obtain ⟨p, hf⟩ := h (hkinds n (List.mem_cons_of_mem _ (List.mem_append_left _ hn)))
  exact ⟨n, List.mem_append_left _ hn, p, hf⟩

theorem of_inside (h : Blames plan nesting rest f) : Blames plan (nesting + 1) (l :: rest) f := by
  intro hroom hkinds
  obtain ⟨n, hn, p, hf⟩ := h (Nat.le_of_succ_le_succ hroom) fun n hn =>
    hkinds n (List.mem_cons_of_mem _ (List.mem_append_right _ hn))
  exact ⟨n, List.mem_append_right _ hn, p, hf⟩

/-- The failure of a node stays what it is as it leaves the loop. -/
theorem leave (h : Blames plan nesting (l :: rest) f) (id : NodeId) (kind : NodeKind) :
    Blames plan nesting (l :: rest) (.node (f.leave id kind)) := by
  intro hroom hkinds
  obtain ⟨n, hn, p, rfl⟩ := h hroom hkinds
  exact ⟨n, hn, p, rfl⟩

end Blames

/-- Whatever comes of the dispatch of the outermost loop, by the time that the
writes of the given world have been seen: it selects its limit handle, and the
executions are those of the nest; or it fails as one of the other nodes does. -/
def Multiplies (A : World → World → Prop) (plan : Plan) (nesting : Nat) (l : Layer) (rest : List Layer) (v : World) :
    Prop :=
  ∀ w d u r, u.Writes v → Step.Course A w (dispatchWith plan (perform plan nesting) l.loop w) d u r →
    (∃ output, r = .ok output ∧ d = executions (l :: rest) ∧ Machine.selectedHandle output = .str l.limitHandle) ∨
      ∃ f, r = .error f ∧ Blames plan nesting (l :: rest) f

section

variable {nesting : Nat} {l : Layer} {rest : List Layer}

/-- A stop on the line of a body begins its share and keeps to the line, or its
failure is that of the nest: the loop inside does as its nest multiplies. -/
theorem Layer.Wired.stop (hwired : l.Wired plan.graph rest) (hrest : Nest plan.graph rest)
    (hinner : ∀ inner rest', rest = inner :: rest' → Multiplies A plan nesting inner rest' v) {s : Stop}
    (hs : s.Made A plan.graph (dispatchWith plan (perform plan nesting))) (hmem : s.node ∈ l.line rest)
    (hwrites : s.after.Writes v) :
    (∀ output, s.result = .ok output → s.begun = share rest s.node ∧
        (s.node.kind.isBranching = true → Machine.selectedHandle output = Layer.handleOn rest)) ∧
      ∀ f, s.result = .error f → Blames plan (nesting + 1) (l :: rest) f := by
  have hcourse := hs.course
  rcases Layer.Wired.mem_line hmem with hworker | ⟨inner, rest', rfl, hloop⟩
  · have hnoLoop := hwired.worker hworker
    obtain ⟨hbegun, hown⟩ := worker_course hnoLoop hcourse
    refine ⟨fun output hresult => ⟨?_, fun hbranching => ?_⟩, fun f hresult => .of_worker hworker (hown f hresult)⟩
    · rw [share, if_neg hnoLoop]
      exact hbegun output hresult
    · cases hbranching.symm.trans (hwired.plain _ hworker)
  · rw [hloop] at hcourse
    obtain ⟨_, hok, hbegun, hselects⟩ | ⟨f', hf, hblames⟩ := hinner inner rest' rfl _ _ _ _ hwrites hcourse
    · refine ⟨fun output hresult => ?_, fun f hresult => (nomatch hok.symm.trans hresult)⟩
      obtain rfl := Except.ok.inj (hok.symm.trans hresult)
      refine ⟨?_, fun _ => hselects⟩
      rw [share, if_pos (hloop ▸ hrest.1.isLoop)]
      exact hbegun
    · refine ⟨fun output hresult => (nomatch hf.symm.trans hresult), fun f hresult => ?_⟩
      obtain rfl := Except.error.inj (hf.symm.trans hresult)
      exact .of_inside hblames

/-- One pass through the body of a loop of a nest, as the loop is in the given world. -/
theorem Layer.Wired.pass (hA : ∀ w u, A w u → w.Writes u) (hwired : l.Wired plan.graph rest) (hrest : Nest plan.graph rest)
    (hnodup : ((members (l :: rest)).map fun n => n.id.key).Nodup)
    (hinner : ∀ inner rest', rest = inner :: rest' → Multiplies A plan nesting inner rest' v) {x : World}
    (hend : (x.node l.loop).loopEndHandle = .ok l.endHandle) {first : Node}
    (hfirst : (l.line rest).head? = some first) {w u : World} {r : Except Failure Unit} (hu : u.Writes v)
    (h : Step.Course A w
      (walkBody plan.graph (dispatchWith plan (perform plan nesting)) (x.node l.loop) first.id w) d u r) :
    (r = .ok () ∧ d = (l.workers.map once).sum + executions rest) ∨
      ∃ f, r = .error f ∧ Blames plan (nesting + 1) (l :: rest) f := by
  have hline : Straight plan.graph (x.node l.loop) l.endHandle (Layer.handleOn rest) (l.line rest) :=
    ⟨hwired.straight.mem, hwired.straight.steps, hwired.straight.last⟩
  have hdispatch : ∀ n, (dispatchWith plan (perform plan nesting) n).Writes := fun n =>
    dispatchWith_writes plan (perform_writes plan nesting n)
  have hkey : first.id.key ∈ plan.graph.keys := List.mem_map_of_mem (hline.mem first (List.mem_of_mem_head? hfirst))
  obtain ⟨s, stops, hs, -, rfl, hpass⟩ := walkBody_pass hkey hend h
  have hkeep : KeepTo A plan.graph (dispatchWith plan (perform plan nesting)) (Layer.handleOn rest) (share rest)
      (l.line rest) u := fun _ hmade hmem hwrites =>
    (hwired.stop hrest hinner hmade hmem (World.Writes.trans _ _ _ hwrites hu)).1
  have hhead : (s :: stops).head?.map Stop.id = (l.line rest).head?.map (·.id) := by
    rw [hfirst, List.head?_cons, Option.map_some, Option.map_some, hs]
  obtain ⟨hok, hsum⟩ | ⟨s', f, hmade, hmem, hwrites, hresult, hr⟩ := hline.pass hA hdispatch
    (Layer.Wired.line_nodup hnodup) (fun _ _ => List.not_mem_nil) hkeep hhead hpass
  · exact .inl ⟨hok, hsum.trans (hwired.share_line hrest)⟩
  · exact .inr ⟨f, hr, (hwired.stop hrest hinner hmade hmem (World.Writes.trans _ _ _ hwrites hu)).2 f hresult⟩

/-- What the nest inside does, the loop around it does as many times as it passes. -/
theorem Layer.Wired.multiplies (hA : ∀ w u, A w u → w.Writes u) (hwired : l.Wired plan.graph rest)
    (hrest : Nest plan.graph rest) (hnodup : ((members (l :: rest)).map fun n => n.id.key).Nodup)
    (hset : ∀ u : World, u.Writes v → l.IsSet u)
    (hinner : ∀ inner rest', rest = inner :: rest' → Multiplies A plan nesting inner rest' v) :
    Multiplies A plan (nesting + 1) l rest v := by
  intro w d u r hu h
  obtain ⟨hkinds, f, rfl⟩ | ⟨d', x, r', hwork, rfl, hwrites, hconcludes⟩ := dispatchWith_course h
  · refine .inr ⟨f, rfl, fun _ hall => ?_⟩
    rw [hall l.loop List.mem_cons_self] at hkinds
    cases hkinds
  have hx : x.Writes v := World.Writes.trans _ _ _ (.of_eq hwrites) hu
  have hbegins : (w.begun plan l.loop).Writes v :=
    World.Writes.trans _ _ _ (hwork.keeps (perform_writes plan (nesting + 1) l.loop _) World.Writes.trans hA) hx
  obtain ⟨⟨i, es, s, hpayload, hs, hlimit, hfalse, hhandle⟩, hstart, hend⟩ := hset _ hbegins
  obtain ⟨e, first, hedge, hfirst, htarget⟩ := hwired.start
  have hperform : perform plan (nesting + 1) l.loop = Execute.loop plan (dispatchWith plan (perform plan nesting)) l.loop := by
    rw [perform_eq, hwired.isLoop]
  rw [hperform, loop_eq_passes (hs.loopSettings_eq hpayload) hstart hedge, htarget] at hwork
  obtain ⟨ts, hturns, houtcome⟩ := passes_turns (decides_never hfalse) _ (Nat.zero_add _) hwork
  obtain ⟨-, hmade⟩ := hturns.made hA (walkBody_writes plan.graph
    (fun n => dispatchWith_writes plan (perform_writes plan nesting n)) _ _)
  have hpass : ∀ t ∈ ts, (t.result = .ok () ∧ t.begun = (l.workers.map once).sum + executions rest) ∨
      ∃ f, t.result = .error f ∧ Blames plan (nesting + 1) (l :: rest) f := by
    intro t ht
    obtain ⟨hcourse, hwrites⟩ := hmade t ht
    exact hwired.pass hA hrest hnodup hinner hend hfirst (World.Writes.trans _ _ _ hwrites hx) hcourse
  cases houtcome with
  | exits _ _ hholds => cases hholds
  | usedUp hgo hcount =>
      have hbegun : ∀ t ∈ ts, t.begun = (l.workers.map once).sum + executions rest := by
        intro t ht
        obtain ⟨-, hbegun⟩ | ⟨f, hf, -⟩ := hpass t ht
        · exact hbegun
        · cases (hgo t ht).result.symm.trans hf
      have hlength : ts.length = l.passes := by simpa [hlimit] using hcount
      cases hconcludes with
      | ok _ origin =>
          refine .inl ⟨_, rfl, ?_, ?_⟩
          · rw [hturns.begun_eq hbegun, hlength, executions]
          · rw [hhandle]
            rfl
  | @fails ts t f _ hresult _ =>
      obtain ⟨hok, -⟩ | ⟨f', hf, hblames⟩ := hpass t (List.mem_append_right _ (List.mem_singleton.mpr rfl))
      · cases hok.symm.trans hresult
      · obtain rfl := Except.error.inj (hf.symm.trans hresult)
        cases hconcludes with
        | error _ => exact .inr ⟨_, rfl, hblames.leave _ _⟩

/-- Without room for the loop its dispatch fails. -/
theorem Layer.Wired.multiplies_zero (hwired : l.Wired g rest) : Multiplies A plan 0 l rest v := by
  intro w d u r hu h
  have hperform : perform plan 0 l.loop = Work.throw .tooDeep := by rw [perform_eq, hwired.isLoop]
  have hfails : ∃ f, r = .error f := by
    obtain ⟨-, hfails⟩ | ⟨d', x, r', hwork, -, -, hconcludes⟩ := dispatchWith_course h
    · exact hfails
    · rw [hperform] at hwork
      obtain ⟨-, -, rfl⟩ := Step.Course.of_fail hwork
      cases hconcludes with
      | error f => exact ⟨_, rfl⟩
  obtain ⟨f, rfl⟩ := hfails
  exact .inr ⟨f, rfl, fun hroom => absurd hroom (Nat.not_succ_le_zero _)⟩

/-- Along every course of its dispatch a nest of loops multiplies. -/
theorem Nest.multiplies (hA : ∀ w u, A w u → w.Writes u) (hnest : Nest plan.graph (l :: rest))
    (hnodup : ((members (l :: rest)).map fun n => n.id.key).Nodup)
    (hset : ∀ m ∈ l :: rest, ∀ u : World, u.Writes v → m.IsSet u) : Multiplies A plan nesting l rest v := by
  induction rest generalizing l nesting with
  | nil =>
      cases nesting with
      | zero => exact hnest.1.multiplies_zero
      | succ nesting => exact hnest.1.multiplies hA trivial hnodup (hset l List.mem_cons_self) nofun
  | cons inner rest ih =>
      cases nesting with
      | zero => exact hnest.1.multiplies_zero
      | succ nesting =>
          have hinside : ((members (inner :: rest)).map fun n => n.id.key).Nodup :=
            hnodup.sublist (.map _ (.cons _ (List.sublist_append_right _ _)))
          refine hnest.1.multiplies hA hnest.2 hnodup (hset l List.mem_cons_self) ?_
          rintro _ _ ⟨rfl, rfl⟩
          exact ih hnest.2 hinside fun m hm => hset m (List.mem_cons_of_mem _ hm)

end

/-! ## Products -/

theorem sum_once (ns : List Node) (k : Key) : (ns.map once).sum k = (ns.map fun n => n.id.key).count k := by
  induction ns with
  | nil => rfl
  | cons n ns ih =>
      rw [List.map_cons, List.sum_cons, Pi.add_apply, ih, List.map_cons, List.count_cons, once, Pi.single_apply]
      by_cases hk : k = n.id.key
      · simp [hk, add_comm]
      · simp [hk, Ne.symm hk]

theorem executions_cons (l : Layer) (rest : List Layer) (k : Key) :
    executions (l :: rest) k = (if k = l.loop.id.key then 1 else 0) +
      l.passes * ((l.workers.map fun n => n.id.key).count k + executions rest k) := by
  rw [executions, Pi.add_apply, once, Pi.single_apply, Pi.smul_apply, Pi.add_apply, sum_once, nsmul_eq_mul]

theorem members_keys (l : Layer) (rest : List Layer) : (members (l :: rest)).map (fun n => n.id.key) =
    l.loop.id.key :: ((l.workers.map fun n => n.id.key) ++ (members rest).map fun n => n.id.key) := by
  simp [members]

/-- Other nodes are not executed. -/
theorem executions_of_not_mem {layers : List Layer} {k : Key} (h : k ∉ (members layers).map fun n => n.id.key) :
    executions layers k = 0 := by
  induction layers with
  | nil => rfl
  | cons l rest ih =>
      rw [members_keys, List.mem_cons, List.mem_append, not_or, not_or] at h
      obtain ⟨hloop, hworkers, hrest⟩ := h
      rw [executions_cons, if_neg hloop, List.count_eq_zero.mpr hworkers, ih hrest]
      simp

/-- In a nest of distinct nodes each loop is executed as often as the loops around
it pass together, and the other nodes of its body as often as it passes then. -/
theorem executions_layer {layers : List Layer} (hnodup : ((members layers).map fun n => n.id.key).Nodup) :
    ∀ {i : Nat} {l : Layer}, layers[i]? = some l →
      executions layers l.loop.id.key = ((layers.take i).map Layer.passes).prod ∧
      ∀ n ∈ l.workers, executions layers n.id.key = ((layers.take (i + 1)).map Layer.passes).prod := by
  induction layers with
  | nil => nofun
  | cons outer rest ih =>
      rw [members_keys, List.nodup_cons, List.mem_append, not_or, List.nodup_append] at hnodup
      obtain ⟨⟨hworkers, hrest⟩, hdistinct, hnodup', hdisjoint⟩ := hnodup
      intro i l hl
      cases i with
      | zero =>
          obtain rfl : outer = l := Option.some.inj hl
          constructor
          · rw [executions_cons, if_pos rfl, List.count_eq_zero.mpr hworkers, executions_of_not_mem hrest]
            simp
          · intro n hn
            have hmem : n.id.key ∈ outer.workers.map fun n => n.id.key := List.mem_map.mpr ⟨n, hn, rfl⟩
            have hne : n.id.key ≠ outer.loop.id.key := fun heq => hworkers (heq ▸ hmem)
            have houtside : n.id.key ∉ (members rest).map fun n => n.id.key := fun h => hdisjoint _ hmem _ h rfl
            rw [executions_cons, if_neg hne, List.count_eq_one_of_mem hdistinct hmem, executions_of_not_mem houtside]
            simp
      | succ i =>
          have hl : rest[i]? = some l := hl
          -- within the nest inside it is only the number of passes that counts more
          have hinside : ∀ n ∈ l.loop :: l.workers,
              executions (outer :: rest) n.id.key = outer.passes * executions rest n.id.key := by
            intro n hn
            have hmem : n.id.key ∈ (members rest).map fun n => n.id.key :=
              List.mem_map.mpr ⟨n, List.mem_flatMap.mpr ⟨l, List.mem_of_getElem? hl, hn⟩, rfl⟩
            have hne : n.id.key ≠ outer.loop.id.key := fun heq => hrest (heq ▸ hmem)
            have houtside : n.id.key ∉ outer.workers.map fun n => n.id.key := fun h => hdisjoint _ h _ hmem rfl
            rw [executions_cons, if_neg hne, List.count_eq_zero.mpr houtside]
            simp
          obtain ⟨hloop, hworker⟩ := ih hnodup' hl
          constructor
          · rw [hinside _ List.mem_cons_self, hloop]
            simp
          · intro n hn
            rw [hinside n (List.mem_cons_of_mem _ hn), hworker n hn]
            simp

/-- Nested loops multiply.  Let the layers be those of a nest of distinct nodes,
and the loops be set as they say all along, whatever is written meanwhile.  Where
the outermost loop is executed and no node fails, each loop is executed as often as
the loops around it pass together, and each other node of its body as often as it
passes itself then.  The loops do not fail on their own account. -/
theorem nested_loops_multiply (hA : ∀ w u, A w u → w.Writes u) {layers : List Layer} {outer : Layer} {inside : List Layer}
    (hlayers : layers = outer :: inside) (hnest : Nest plan.graph layers)
    (hnodup : ((members layers).map fun n => n.id.key).Nodup) {nesting : Nat} {r : Except Failure Value}
    (h : Step.Course A w (dispatchWith plan (perform plan nesting) outer.loop w) d v r)
    (hset : ∀ l ∈ layers, ∀ u : World, u.Writes v → l.IsSet u) :
    (∃ output, r = .ok output ∧
        (∀ i l, layers[i]? = some l → d l.loop.id.key = ((layers.take i).map Layer.passes).prod ∧
          ∀ n ∈ l.workers, d n.id.key = ((layers.take (i + 1)).map Layer.passes).prod) ∧
        ∀ k ∉ (members layers).map (fun n => n.id.key), d k = 0) ∨
      ∃ f, r = .error f ∧ Blames plan nesting layers f := by
  subst hlayers
  obtain ⟨output, rfl, rfl, -⟩ | hfails := hnest.multiplies hA hnodup hset w d v r (.refl v) h
  · exact .inl ⟨output, rfl, fun i l => executions_layer hnodup, fun k => executions_of_not_mem⟩
  · exact .inr hfails

/-- A loop that passes twice, and one inside it that passes three times. -/
def sixfold : List Layer :=
  [⟨bareNode "o" .loop [("maxIterations", .int 2)], 2, .str "o-loop-start", .str "o-loop-end", "max-reached",
      [bareNode "a" .state []], [bareNode "z" .state []]⟩,
    ⟨bareNode "i" .loop [("maxIterations", .int 3)], 3, .str "i-loop-start", .str "i-loop-end", "max-reached",
      [bareNode "b" .state []], []⟩]

/-- The inner loop stands between the other two nodes of the outer one. -/
def sixfoldGraph : Graph where
  nodes := members sixfold
  edges :=
    [wire "o" "a" (.str "o-loop-start") .null, wire "a" "i" .null .null, wire "i" "b" (.str "i-loop-start") .null,
      wire "b" "i" .null (.str "i-loop-end"), wire "i" "z" (.str "max-reached") .null,
      wire "z" "o" .null (.str "o-loop-end")]
  keys_nodup := by decide
  ends_mem := by decide

theorem sixfold_nest : Nest sixfoldGraph sixfold := by
  refine ⟨⟨rfl, by decide, ⟨_, _, rfl, rfl, rfl⟩, ?mem, ?steps, _, rfl, rfl⟩,
    ⟨rfl, by decide, ⟨_, _, rfl, rfl, rfl⟩, ?mem', ?steps', _, rfl, rfl⟩, trivial⟩
  case mem => simp [sixfoldGraph, sixfold, members, Layer.line, Layer.workers]
  case steps => exact .cons_cons ⟨rfl, rfl⟩ (.cons_cons ⟨rfl, rfl⟩ (.singleton _))
  case mem' => simp [sixfoldGraph, sixfold, members, Layer.line, Layer.workers]
  case steps' => exact .singleton _

theorem Layer.IsSet.of_writes {l : Layer} (h : l.IsSet w) (hwrites : u.writes = w.writes) : l.IsSet u := by
  obtain ⟨hsettings, hstart, hend⟩ := h
  rw [← World.node_of_writes hwrites] at *
  exact ⟨hsettings, hstart, hend⟩

/-- Before anything is written the loops are set as the layers say. -/
theorem sixfold_isSet : ∀ l ∈ sixfold, l.IsSet World.empty := by
  refine List.forall_mem_cons.mpr ⟨⟨⟨_, _, ⟨2, .null, .str "exit", .str "max-reached"⟩, rfl, ?_, rfl, rfl, rfl⟩, rfl, rfl⟩,
    List.forall_mem_singleton.mpr ⟨⟨_, _, ⟨3, .null, .str "exit", .str "max-reached"⟩, rfl, ?_, rfl, rfl, rfl⟩, rfl, rfl⟩⟩
  · exact ⟨rfl, .inl ⟨rfl, rfl⟩, rfl, rfl⟩
  · exact ⟨rfl, .inl ⟨rfl, rfl⟩, rfl, rfl⟩

/-- One execution of the outer loop. -/
def sixfoldRun : Work Value :=
  dispatchWith (barePlan sixfoldGraph 2) (perform (barePlan sixfoldGraph 2) 2)
    (bareNode "o" .loop [("maxIterations", .int 2)])

/-- Does the computation return at once, with nothing written? -/
def returnsUnwritten {α : Type} : Step α → Bool
  | .done w _ => w.writes.isEmpty
  | _ => false

/-- The inner loop is executed twice, and the node inside it six times. -/
theorem sixfold_multiplies : ∃ d v output, Step.Course Eq World.empty (sixfoldRun World.empty) d v (.ok output) ∧
    d (.ofString "o") = 1 ∧ d (.ofString "a") = 2 ∧ d (.ofString "i") = 2 ∧ d (.ofString "b") = 6 := by
  have hreturns : returnsUnwritten (sixfoldRun World.empty) = true := by decide +kernel
  cases hrun : sixfoldRun World.empty with
  | fail | call | tools => simp [hrun, returnsUnwritten] at hreturns
  | done v output =>
      rw [hrun] at hreturns
      have hwritten : v.writes = [] := List.isEmpty_iff.mp hreturns
      have hcourse : Step.Course Eq World.empty (.done v output) (World.empty.begunTo v) v (.ok output) := .done
      have hset : ∀ l ∈ sixfold, ∀ u : World, u.Writes v → l.IsSet u := fun l hl u hu =>
        (sixfold_isSet l hl).of_writes (List.prefix_nil.mp (hwritten ▸ hu))
      obtain ⟨_, -, hcounts, -⟩ | ⟨f, ⟨⟩, -⟩ := nested_loops_multiply (A := Eq) (fun w u h => .of_eq (h ▸ rfl))
        (rfl : sixfold = _) sixfold_nest (by decide) (hrun ▸ hcourse) hset
      refine ⟨_, v, output, hcourse, ?_, ?_, ?_, ?_⟩
      · exact (hcounts 0 _ rfl).1
      · exact (hcounts 0 _ rfl).2 _ List.mem_cons_self
      · exact (hcounts 1 _ rfl).1
      · exact (hcounts 1 _ rfl).2 _ List.mem_cons_self

end Workflow.Execute
