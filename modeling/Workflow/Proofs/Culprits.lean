import Workflow.Proofs.Nesting
import Workflow.Proofs.Telling

/-!
# Workflow.Proofs.Culprits

Whose failure it is when a loop fails.

The execution of a loop consists of remarks of its own and of the dispatches of
nodes in its body, which may be loops again (`Drives`).  Where one of them fails it
is the last one, and the loop breaks off.

`FailsInside` says of a dispatch which node has failed in it on its own account, and
which loops were around that.  Whatever the loops are, the dispatch fails with the
error of that node; the node says so in the log, and then every loop does, from the
inside out (`failures_keep_identity`).  A loop whose body cannot be walked to its end
has failed on its own account, and so has one that comes to a node of a kind that
cannot be executed.
-/

namespace Workflow.Run

/-! ## Remarks -/

/-- Nothing but remarks has been logged, and no output has been stored. -/
structure Murmur (w v : World) : Prop where
  outputs : v.outputs = w.outputs
  log : ∃ es, v.log = w.log ++ es ∧ ∀ e ∈ es, e.phase.isRemark = true

theorem Murmur.remarks {w v : World} {es : List LogEntry} (h : Murmur w v) (hlog : v.log = w.log ++ es) :
    ∀ e ∈ es, e.phase.isRemark = true := by
  obtain ⟨fs, hfs, hremarks⟩ := h.log
  obtain rfl : es = fs := List.append_cancel_left (hlog.symm.trans hfs)
  exact hremarks

theorem Whisper.murmur {w v : World} (h : Whisper w v) : Murmur w v := ⟨h.outputs, h.log⟩

/-- Among these entries there is none about a failure. -/
def Unfailing (es : List LogEntry) : Prop := ∀ e ∈ es, e.phase ≠ .error

theorem unfailing_of_remarks {es : List LogEntry} (h : ∀ e ∈ es, e.phase.isRemark = true) : Unfailing es := by
  intro e he hphase
  have hremark := h e he
  rw [hphase] at hremark
  cases hremark

theorem Unfailing.append {es fs : List LogEntry} (hes : Unfailing es) (hfs : Unfailing fs) : Unfailing (es ++ fs) := by
  intro e he
  rcases List.mem_append.mp he with he | he
  · exact hes e he
  · exact hfs e he

/-- The entries about failures. -/
def failuresIn (es : List LogEntry) : List LogEntry := es.filter fun e => e.phase = .error

theorem failuresIn_append (es fs : List LogEntry) : failuresIn (es ++ fs) = failuresIn es ++ failuresIn fs :=
  List.filter_append es fs

theorem Unfailing.failuresIn_eq {es : List LogEntry} (h : Unfailing es) : failuresIn es = [] := by
  refine List.filter_eq_nil_iff.mpr fun e he => ?_
  simpa using h e he

end Workflow.Run

namespace Workflow.Execute

open Run

variable {A : World → World → Prop} {plan : Plan} {dispatch : Node → Work Value} {α β : Type}

/-! ## Dispatches -/

/-- One dispatch of a node: it takes one world to another, logs these entries itself,
and comes to a result. -/
structure Dispatched where
  node : Node
  before : World
  after : World
  told : List LogEntry
  result : Except Failure Value

/-- The dispatch goes in this way. -/
def Dispatched.Made (A : World → World → Prop) (dispatch : Node → Work Value) (d : Dispatched) : Prop :=
  Step.Tells A d.before (dispatch d.node d.before) d.told d.after d.result

/-- Where it does not fail as a node of it did, a dispatch logs no failure. -/
def Discreet (A : World → World → Prop) (dispatch : Node → Work Value) : Prop :=
  ∀ d : Dispatched, d.Made A dispatch → (∀ e, d.result ≠ .error (.node e)) → Unfailing d.told

theorem Discreet.of_ok (h : Discreet A dispatch) {d : Dispatched} {output : Value} (hmade : d.Made A dispatch)
    (hresult : d.result = .ok output) : Unfailing d.told := by
  refine h d hmade fun e he => ?_
  cases hresult.symm.trans he

/-- A computation in dispatches, one after the other, with nothing but remarks
before, between and after them.  It fails with the first dispatch that fails, or on
its own account. -/
inductive Drives (A : World → World → Prop) (dispatch : Node → Work Value) :
    World → List Dispatched → List LogEntry → World → Except Failure α → Prop
  | returns {w v es a} (hwhisper : Whisper w v) (hlog : v.log = w.log ++ es) : Drives A dispatch w [] es v (.ok a)
  | fails {w v es p} (hwhisper : Whisper w v) (hlog : v.log = w.log ++ es) :
      Drives A dispatch w [] es v (.error (.own p))
  | breaks {w d es f} (hwhisper : Whisper w d.before) (hlog : d.before.log = w.log ++ es) (hmade : d.Made A dispatch)
      (hresult : d.result = .error f) : Drives A dispatch w [d] (es ++ d.told) d.after (.error f)
  | goesOn {w d output ds es fs v r} (hwhisper : Whisper w d.before) (hlog : d.before.log = w.log ++ es)
      (hmade : d.Made A dispatch) (hresult : d.result = .ok output) (hrest : Drives A dispatch d.after ds fs v r) :
      Drives A dispatch w (d :: ds) (es ++ (d.told ++ fs)) v r

namespace Drives

variable {ds ds' : List Dispatched} {es es' : List LogEntry} {w v u : World} {d : Dispatched} {f : Failure}

/-- Remarks may come before. -/
theorem after {r : Except Failure α} (hwhisper : Whisper w u) {fs : List LogEntry} (hlog : u.log = w.log ++ fs)
    (h : Drives A dispatch u ds es v r) : Drives A dispatch w ds (fs ++ es) v r := by
  have hlater : ∀ {x : World} {es : List LogEntry}, x.log = u.log ++ es → x.log = w.log ++ (fs ++ es) := by
    intro x es hx
    rw [hx, hlog, List.append_assoc]
  cases h with
  | returns h hx => exact .returns (Whisper.trans _ _ _ hwhisper h) (hlater hx)
  | fails h hx => exact .fails (Whisper.trans _ _ _ hwhisper h) (hlater hx)
  | breaks h hx hmade hresult =>
      rw [← List.append_assoc]
      exact .breaks (Whisper.trans _ _ _ hwhisper h) (hlater hx) hmade hresult
  | goesOn h hx hmade hresult hrest =>
      rw [← List.append_assoc]
      exact .goesOn (Whisper.trans _ _ _ hwhisper h) (hlater hx) hmade hresult hrest

/-- What follows a computation that has returned follows its dispatches. -/
theorem append {a : α} {r : Except Failure β} (h : Drives A dispatch w ds es u (.ok a))
    (hnext : Drives A dispatch u ds' es' v r) : Drives A dispatch w (ds ++ ds') (es ++ es') v r := by
  generalize hr : Except.ok a = r' at h
  induction h with
  | returns hwhisper hlog => exact hnext.after hwhisper hlog
  | fails => cases hr
  | breaks => cases hr
  | goesOn hwhisper hlog hmade hresult _ ih =>
      rw [List.append_assoc, List.append_assoc]
      exact .goesOn hwhisper hlog hmade hresult (ih hnext hr)

/-- Nothing follows a computation that has failed. -/
theorem failed (h : Drives A dispatch w ds es v (.error f : Except Failure α)) :
    Drives A dispatch w ds es v (.error f : Except Failure β) := by
  generalize hr : (Except.error f : Except Failure α) = r at h
  induction h with
  | returns => cases hr
  | fails hwhisper hlog =>
      obtain rfl := Except.error.inj hr
      exact .fails hwhisper hlog
  | breaks hwhisper hlog hmade hresult =>
      obtain rfl := Except.error.inj hr
      exact .breaks hwhisper hlog hmade hresult
  | goesOn hwhisper hlog hmade hresult _ ih => exact .goesOn hwhisper hlog hmade hresult (ih hr)

theorem made {r : Except Failure α} (h : Drives A dispatch w ds es v r) : ∀ d ∈ ds, d.Made A dispatch := by
  induction h with
  | returns => exact List.forall_mem_nil _
  | fails => exact List.forall_mem_nil _
  | breaks _ _ hmade _ => exact List.forall_mem_singleton.mpr hmade
  | goesOn _ _ hmade _ _ ih => exact List.forall_mem_cons.mpr ⟨hmade, ih⟩

/-- A computation in discreet dispatches is discreet. -/
theorem unfailing {r : Except Failure α} (hdispatch : Discreet A dispatch) (h : Drives A dispatch w ds es v r)
    (hr : ∀ e, r ≠ .error (.node e)) : Unfailing es := by
  induction h with
  | returns hwhisper hlog => exact unfailing_of_remarks (hwhisper.murmur.remarks hlog)
  | fails hwhisper hlog => exact unfailing_of_remarks (hwhisper.murmur.remarks hlog)
  | @breaks w d es f hwhisper hlog hmade hresult =>
      have htold : Unfailing d.told := by
        refine hdispatch _ hmade fun e he => hr e ?_
        obtain rfl := Except.error.inj (hresult.symm.trans he)
        rfl
      exact (unfailing_of_remarks (hwhisper.murmur.remarks hlog)).append htold
  | goesOn hwhisper hlog hmade hresult _ ih =>
      exact (unfailing_of_remarks (hwhisper.murmur.remarks hlog)).append
        ((hdispatch.of_ok hmade hresult).append (ih hr))

/-- The failure of a node comes from one of the dispatches. -/
theorem exists_failed {e : NodeError} (h : Drives A dispatch w ds es v (.error (.node e) : Except Failure α)) :
    ∃ d ∈ ds, d.result = .error (.node e) := by
  generalize hr : Except.error (Failure.node e) = r at h
  induction h with
  | returns => cases hr
  | fails => cases hr
  | @breaks w d es f _ _ _ hresult =>
      obtain rfl := Except.error.inj hr
      exact ⟨d, List.mem_singleton_self d, hresult⟩
  | goesOn _ _ _ _ _ ih =>
      obtain ⟨d, hmem, hresult⟩ := ih hr
      exact ⟨d, List.mem_cons_of_mem _ hmem, hresult⟩

/-- A dispatch that fails is the last one, and its failure is that of the
computation.  What has been logged before it tells of no failure. -/
theorem of_failed {r : Except Failure α} (hdispatch : Discreet A dispatch)
    (h : Drives A dispatch w ds es v r) (hmem : d ∈ ds) (hresult : d.result = .error f) :
    r = .error f ∧ v = d.after ∧ ∃ before, es = before ++ d.told ∧ Unfailing before := by
  induction h with
  | returns => cases hmem
  | fails => cases hmem
  | breaks hwhisper hlog hmade hresult' =>
      obtain rfl := List.mem_singleton.mp hmem
      obtain rfl := Except.error.inj (hresult'.symm.trans hresult)
      exact ⟨rfl, rfl, _, rfl, unfailing_of_remarks (hwhisper.murmur.remarks hlog)⟩
  | goesOn hwhisper hlog hmade hresult' _ ih =>
      rcases List.mem_cons.mp hmem with rfl | hmem
      · cases hresult'.symm.trans hresult
      · obtain ⟨hr, hv, before, rfl, hbefore⟩ := ih hmem
        refine ⟨hr, hv, _, by rw [← List.append_assoc, ← List.append_assoc], ?_⟩
        rw [List.append_assoc]
        exact (unfailing_of_remarks (hwhisper.murmur.remarks hlog)).append
          ((hdispatch.of_ok hmade hresult').append hbefore)

end Drives

/-! ## Computations in dispatches -/

/-- Whichever way it goes, the computation is one in dispatches. -/
structure Driven (A : World → World → Prop) (dispatch : Node → Work Value) (x : Work α) : Prop where
  grows : x.Grows
  drives : ∀ {w es v r}, Step.Tells A w (x w) es v r → ∃ ds, Drives A dispatch w ds es v r

namespace Driven

theorem bind {x : Work α} {next : α → Work β} (hx : Driven A dispatch x) (hnext : ∀ a, Driven A dispatch (next a)) :
    Driven A dispatch (x >>= next) where
  grows := hx.grows.bind fun a => (hnext a).grows
  drives h := by
    obtain ⟨f, rfl, hfails⟩ | ⟨es₁, u, a, es₂, hfirst, hrest, rfl⟩ :=
      h.bind_cases (hx.grows _) fun a => (hnext a).grows
    · obtain ⟨ds, hds⟩ := hx.drives hfails
      exact ⟨ds, hds.failed⟩
    · obtain ⟨ds, hds⟩ := hx.drives hfirst
      obtain ⟨ds', hds'⟩ := (hnext a).drives hrest
      exact ⟨ds ++ ds', hds.append hds'⟩

theorem pure (a : α) : Driven A dispatch (Pure.pure a : Work α) where
  grows := .pure a
  drives h := by
    obtain ⟨hlog, rfl, rfl⟩ := Step.Tells.of_done h
    exact ⟨[], .returns (.refl _) hlog⟩

theorem throw (p : Problem) : Driven A dispatch (Work.throw p : Work α) where
  grows := .throw trivial
  drives h := by
    obtain ⟨hlog, rfl, rfl⟩ := Step.Tells.of_fail h
    exact ⟨[], .fails (.refl _) hlog⟩

theorem lift (r : Except Fault α) : Driven A dispatch (Work.lift r) := by
  cases r with
  | error f => exact throw _
  | ok a => exact pure a

theorem get : Driven A dispatch Work.get where
  grows := .get
  drives h := by
    obtain ⟨hlog, rfl, rfl⟩ := Step.Tells.of_done h
    exact ⟨[], .returns (.refl _) hlog⟩

theorem current (n : Node) : Driven A dispatch (Work.current n) where
  grows := .of_asides True (.current n)
  drives h := by
    obtain ⟨hlog, rfl, rfl⟩ := Step.Tells.of_done h
    exact ⟨[], .returns (.refl _) hlog⟩

theorem note (n : Node) {phase : Phase} {message : String} (payload : Value) (hmessage : Apart message)
    (hphase : phase.isRemark = true) : Driven A dispatch (Work.note plan n phase message payload) where
  grows := .note plan n phase payload hmessage
  drives h := by
    obtain ⟨hlog, rfl, rfl⟩ := Step.Tells.of_done h
    exact ⟨[], .returns (.note _ _ _ _ _ _ hphase) hlog⟩

theorem ite {c : Prop} [Decidable c] {x y : Work α} (hx : Driven A dispatch x) (hy : Driven A dispatch y) :
    Driven A dispatch (if c then x else y) := by
  by_cases h : c
  · simpa [h] using hx
  · simpa [h] using hy

/-- A guard: where the condition holds the computation fails, and goes on else. -/
theorem guard {c : Prop} [Decidable c] {p : Problem} {rest : PUnit → Work β} (h : ∀ u, Driven A dispatch (rest u)) :
    Driven A dispatch (if c then (do let u ← Work.throw p; rest u) else rest PUnit.unit) := ite (bind (throw p) h) (h _)

/-- A dispatch is one in dispatches. -/
theorem dispatched {n : Node} (hgrows : (dispatch n).Grows) : Driven A dispatch (dispatch n) where
  grows := hgrows
  drives {w es v r} h := by
    have hmade : Dispatched.Made A dispatch ⟨n, w, v, es, r⟩ := h
    cases r with
    | error f => exact ⟨_, .breaks (.refl w) (List.append_nil _).symm hmade rfl⟩
    | ok output =>
        have hdrives := Drives.goesOn (.refl w) (List.append_nil _).symm hmade rfl
          (.returns (.refl v) (List.append_nil _).symm : Drives A dispatch v [] [] v (.ok output))
        rw [List.append_nil] at hdrives
        exact ⟨_, hdrives⟩

end Driven

/-! ## Loops -/

theorem walk_driven (g : Graph) (hgrows : ∀ n, (dispatch n).Grows) (loop : Node) (endHandle : Value) (room : Nat) :
    ∀ seen current, Driven A dispatch (walk g dispatch loop endHandle room seen current) := by
  induction room with
  | zero =>
      intro seen current
      unfold walk
      exact .guard fun _ => .throw _
  | succ room ih =>
      intro seen current
      unfold walk
      refine .guard fun _ => .bind (.lift _) fun n => .bind (.dispatched (hgrows n)) fun output => ?_
      cases nextInPass g loop endHandle current n output with
      | error p => exact .throw _
      | ok next =>
          cases next with
          | none => exact .pure _
          | some next => exact ih _ _

theorem shouldExit_driven (n : Node) (expression : Value) : Driven A dispatch (shouldExit plan n expression) := by
  unfold shouldExit
  refine .ite (.pure _) (.bind .get fun w => .bind (.lift _) fun context => ?_)
  split
  · exact .pure _
  · exact .lift _
  · exact .bind (.note _ _ (by simp [Apart]) rfl) fun _ => .pure _

theorem passes_driven (n : Node) (s : LoopSettings) {pass : Work Unit} (hpass : Driven A dispatch pass) (left : Nat) :
    ∀ done, Driven A dispatch (passes plan n s pass left done) := by
  induction left with
  | zero => exact fun done => .bind (.note _ _ (by simp [Apart]) rfl) fun _ => .pure _
  | succ left ih =>
      intro done
      unfold passes
      refine .bind (.note _ _ (by simp [Apart, toString]) rfl) fun _ => .bind hpass fun _ => ?_
      refine .bind (.note _ _ (by simp [Apart, toString]) rfl) fun _ => .bind (shouldExit_driven _ _) fun stop => ?_
      exact .ite (.bind (.note _ _ (by simp [Apart]) rfl) fun _ => .pure _) (ih _)

/-- A loop is a computation in dispatches of the nodes of its body. -/
theorem loop_driven (hgrows : ∀ n, (dispatch n).Grows) (n : Node) : Driven A dispatch (loop plan dispatch n) := by
  unfold loop
  refine .bind (.current n) fun n => .bind (.lift _) fun s => .bind (.lift _) fun startHandle => ?_
  cases plan.graph.edgeAt? n.id.key startHandle with
  | none => exact .bind (.note _ _ (by simp [Apart]) rfl) fun _ => .pure _
  | some e => exact passes_driven n s (.bind (.lift _) fun endHandle => walk_driven _ hgrows _ _ _ _ _) _ _

/-! ## Executions -/

theorem conclude_grows (plan : Plan) (n : Node) (origin : Origin) (started : Nat) (r : Except Failure Value) :
    (conclude plan n origin started r).Grows := by
  intro w
  rcases r with (e | p) | output
  · have hmessage : Apart e.message := by
      unfold NodeError.message
      exact (((apart_kindName e.kind).append _).append _).append _ |>.append _
    exact ⟨.note w plan.sink n.id.value n.kind.name .error _ hmessage, trivial⟩
  · have hmessage : Apart s!"{n.kind.name} node failed: {p.message}" := ((apart_kindName n.kind).append _).append _
    exact ⟨.note w plan.sink n.id.value n.kind.name .error _ hmessage, trivial⟩
  · have hmessage : Apart s!"{n.kind.name} node completed" := (apart_kindName n.kind).append _
    exact ⟨World.Grows.trans _ _ _ (.note w plan.sink n.id.value n.kind.name .complete _ hmessage) (.setOutput _ _ _), trivial⟩

/-- How an execution ends whose work has logged the entries `es` and come to a result in
the world `v`: with an entry about its output, which is stored, or with one about its
failure and nothing else. -/
inductive Dispatched.Concludes (plan : Plan) (d : Dispatched) (es : List LogEntry) (v : World) :
    Except Failure Value → Prop
  | completed {a output : Value} {elapsed : Nat}
      (htold : d.told = startEntry d.node d.before.clock :: (es ++ [completeEntry d.node output elapsed v.clock]))
      (hafter : d.after = v.completed plan d.node output elapsed) (hresult : d.result = .ok output) :
      Dispatched.Concludes plan d es v (.ok a)
  | failed {f : Failure} (htold : d.told = startEntry d.node d.before.clock :: (es ++ [failureEntry d.node f v.clock]))
      (hafter : d.after = v.failed plan d.node f)
      (hresult : d.result = .error (.node (f.leave d.node.id d.node.kind))) : Dispatched.Concludes plan d es v (.error f)

/-- The dispatch is an execution whose work has logged the entries `es` and come to the
result `r` in the world `v`. -/
structure Execution (A : World → World → Prop) (plan : Plan) (nesting : Nat) (d : Dispatched) (es : List LogEntry)
    (v : World) (r : Except Failure Value) : Prop where
  work : Step.Tells A (d.before.begun plan d.node) (perform plan nesting d.node (d.before.begun plan d.node)) es v r
  concludes : d.Concludes plan es v r

section

variable {d : Dispatched} {nesting : Nat} {es : List LogEntry} {v : World} {r : Except Failure Value}

/-- A dispatch is an execution, unless nodes of that kind cannot be executed. -/
theorem Dispatched.Made.execution (hkind : plan.kinds.contains d.node.kind = true)
    (h : d.Made A (dispatchWith plan (perform plan nesting))) : ∃ es v r, Execution A plan nesting d es v r := by
  have hgrows : (perform plan nesting d.node).Grows := perform_grows plan nesting d.node
  unfold Dispatched.Made at h
  rw [dispatchWith_apply hkind] at h
  have hbegun : (d.before.begun plan d.node).log = d.before.log ++ [startEntry d.node d.before.clock] := rfl
  obtain ⟨fs, htold, hrest⟩ := h.since hbegun ((Work.Grows.attempt hgrows).bind (conclude_grows plan _ _ _) _)
  obtain ⟨f, -, hfails⟩ | ⟨es, v, r, last, hwork, hend, rfl⟩ :=
    hrest.bind_cases (Work.Grows.attempt hgrows _) (conclude_grows plan _ _ _)
  · obtain ⟨_, ⟨⟩, -⟩ := hfails.attempt_cases
  obtain ⟨r, ⟨⟩, hwork⟩ := hwork.attempt_cases
  refine ⟨es, v, r, hwork, ?_⟩
  cases r with
  | error f =>
      obtain ⟨hlast, hafter, hresult⟩ := Step.Tells.of_fail hend
      have hentry : last = [failureEntry d.node f v.clock] := (List.append_cancel_left hlast).symm
      rw [hentry] at htold
      exact .failed htold hafter hresult
  | ok output =>
      obtain ⟨hlast, hafter, hresult⟩ := Step.Tells.of_done hend
      have hentry : last = [completeEntry d.node _ _ v.clock] := (List.append_cancel_left hlast).symm
      rw [hentry] at htold
      exact .completed htold hafter hresult

/-- A node of a kind that cannot be executed is not begun. -/
theorem Dispatched.Made.of_not_contains (hkind : plan.kinds.contains d.node.kind = false)
    (h : d.Made A (dispatchWith plan (perform plan nesting))) :
    d.told = [] ∧ d.result = .error (.own (.noExecutor d.node.kind d.node.id)) := by
  unfold Dispatched.Made dispatchWith at h
  simp only [hkind] at h
  obtain ⟨hlog, -, hresult⟩ := Step.Tells.of_fail h
  exact ⟨List.self_eq_append_right.mp hlog, hresult⟩

theorem Dispatched.Made.contains_kind {e : NodeError} (h : d.Made A (dispatchWith plan (perform plan nesting)))
    (hresult : d.result = .error (.node e)) : plan.kinds.contains d.node.kind = true := by
  by_contra hkind
  rw [Bool.not_eq_true] at hkind
  cases hresult.symm.trans (h.of_not_contains hkind).2

/-- The work of a node that is no loop logs nothing but remarks, stores nothing, and
fails with a problem of its own. -/
theorem worker_murmurs {n : Node} (hkind : n.kind ≠ .loop) (w : World) :
    (perform plan nesting n w).Keeps Murmur (fun _ _ => True) (fun _ f => ∃ p, f = .own p) w := by
  by_cases hstate : n.kind = .state
  · have hmurmur : ∀ {u : World}, Remarked n.id w u → Murmur w u := by
      intro u h
      obtain ⟨es, hlog, hes⟩ := h.log
      exact ⟨h.outputs, es, hlog, fun e he => (hes e he).2.2⟩
    rw [perform_eq, hstate]
    obtain ⟨u, -, -, hdone, h, -⟩ | ⟨u, f, hfail, h⟩ := state_revises plan n w
    · simp only [hdone]
      exact ⟨hmurmur h, trivial⟩
    · simp only [hfail]
      exact ⟨hmurmur h, _, rfl⟩
  · refine (perform_asides plan nesting False.elim hstate hkind w).relax fun u v h => ?_
    obtain ⟨es, hlog, hes⟩ := h.log
    exact ⟨h.outputs, es, hlog, fun e he => (hes e he).1⟩

/-- The work of a loop is one in dispatches of the nodes of its body; without room
for them it fails at once. -/
theorem loop_work {n : Node} (hkind : n.kind = .loop) {w : World}
    (h : Step.Tells A w (perform plan nesting n w) es v r) :
    (nesting = 0 ∧ r = .error (.own .tooDeep) ∧ es = []) ∨ ∃ inside, nesting = inside + 1 ∧
      ∃ ds, Drives A (dispatchWith plan (perform plan inside)) w ds es v r := by
  rw [perform_eq, hkind] at h
  cases nesting with
  | zero =>
      obtain ⟨hlog, -, rfl⟩ := Step.Tells.of_fail h
      exact .inl ⟨rfl, rfl, List.self_eq_append_right.mp hlog⟩
  | succ inside =>
      have hgrows : ∀ n, (dispatchWith plan (perform plan inside) n).Grows := fun n w =>
        (dispatchWith_keeps plan (perform_grows plan inside) n w).weaken (fun _ _ _ => trivial) fun _ _ _ => trivial
      exact .inr ⟨inside, rfl, (loop_driven hgrows n).drives h⟩

/-- The work of a node logs no failure, unless it fails as a node inside it did. -/
theorem work_unfailing (hinside : ∀ inside, nesting = inside + 1 → Discreet A (dispatchWith plan (perform plan inside)))
    {n : Node} {w : World} (h : Step.Tells A w (perform plan nesting n w) es v r) (hr : ∀ e, r ≠ .error (.node e)) :
    Unfailing es := by
  by_cases hkind : n.kind = .loop
  · obtain ⟨-, -, rfl⟩ | ⟨inside, hnesting, ds, hdrives⟩ := loop_work hkind h
    · exact List.forall_mem_nil _
    · exact hdrives.unfailing (hinside inside hnesting) hr
  · exact unfailing_of_remarks (h.forall_mem (fun _ _ _ hmurmur hlog => hmurmur.remarks hlog) (worker_murmurs hkind w))

theorem dispatch_discreet (nesting : Nat) : Discreet A (dispatchWith plan (perform plan nesting)) := by
  induction nesting using Nat.strong_induction_on with
  | h nesting ih =>
    intro d hmade hresult
    cases hkind : plan.kinds.contains d.node.kind with
    | false =>
        rw [(hmade.of_not_contains hkind).1]
        exact List.forall_mem_nil _
    | true =>
        obtain ⟨es, v, r, hwork, hconcludes⟩ := hmade.execution hkind
        cases hconcludes with
        | failed _ _ hfails => exact absurd hfails (hresult _)
        | completed htold =>
            have hes : Unfailing es := work_unfailing (fun inside h => ih inside (by omega)) hwork (by simp)
            have hbegins : Unfailing [startEntry d.node d.before.clock] := by simp [Unfailing, startEntry]
            have hends : ∀ output elapsed, Unfailing [completeEntry d.node output elapsed v.clock] := by
              simp [Unfailing, completeEntry]
            rw [htold]
            exact hbegins.append (hes.append (hends _ _))

/-! ## Culprits -/

/-- In the dispatch a node fails on its own account, inside these loops: the dispatched
node itself, inside none; or a node that fails in one of the dispatches of a loop,
inside that loop and those that are around the node there. -/
inductive FailsInside (A : World → World → Prop) (plan : Plan) :
    Nat → Dispatched → List Dispatched → Node → Problem → Prop
  | itself {nesting d es v p} (hexecution : Execution A plan nesting d es v (.error (.own p))) :
      FailsInside A plan nesting d [] d.node p
  | within {nesting d inner ds es v r loops n p} (hkind : d.node.kind = .loop)
      (hexecution : Execution A plan (nesting + 1) d es v r)
      (hdrives : Drives A (dispatchWith plan (perform plan nesting)) (d.before.begun plan d.node) ds es v r)
      (hmem : inner ∈ ds) (hinner : FailsInside A plan nesting inner loops n p) :
      FailsInside A plan (nesting + 1) d (d :: loops) n p

/-- The execution of a loop breaks off.  It has begun, has made remarks and had nodes of
its body dispatched, and then has logged a failure.  There is neither an entry of its
own about a completion nor an output of its own. -/
def BreaksOff (A : World → World → Prop) (plan : Plan) (d : Dispatched) : Prop :=
  ∃ nesting ds es v f,
    Drives A (dispatchWith plan (perform plan nesting)) (d.before.begun plan d.node) ds es v
      (.error f : Except Failure Value) ∧
    d.told = startEntry d.node d.before.clock :: (es ++ [failureEntry d.node f v.clock]) ∧
    d.after = v.failed plan d.node f

theorem failuresIn_execution {n : Node} {f : Failure} {t t' : Nat} (es : List LogEntry) :
    failuresIn (startEntry n t :: (es ++ [failureEntry n f t'])) = failuresIn es ++ [failureEntry n f t'] := by
  have hstart : failuresIn [startEntry n t] = [] := by simp [failuresIn, startEntry]
  have hend : failuresIn [failureEntry n f t'] = [failureEntry n f t'] := by simp [failuresIn, failureEntry_phase]
  rw [← List.singleton_append, failuresIn_append, failuresIn_append, hstart, hend, List.nil_append]

/-- Whatever loops are around it, it is the failure of the node that leaves them, and
all of them say so, from the inside out. -/
theorem FailsInside.leaves {loops : List Dispatched} {n : Node} {p : Problem}
    (h : FailsInside A plan nesting d loops n p) :
    d.result = .error (.node ⟨n.id, n.kind, p⟩) ∧
    failuresIn d.told = failureEntry n (.own p) d.after.clock ::
      loops.reverse.map (fun l => failureEntry l.node (.node ⟨n.id, n.kind, p⟩) d.after.clock) ∧
    ∀ l ∈ loops, BreaksOff A plan l := by
  induction h with
  | @itself nesting d es v p hexecution =>
      obtain ⟨hwork, ⟨⟩⟩ := hexecution
      next htold hafter hresult =>
        have hes : Unfailing es := work_unfailing (fun inside _ => dispatch_discreet inside) hwork (by simp)
        refine ⟨hresult, ?_, List.forall_mem_nil _⟩
        rw [htold, failuresIn_execution, hes.failuresIn_eq, hafter]
        rfl
  | @within nesting d inner ds es v r loops n p hkind hexecution hdrives hmem hinner ih =>
      obtain ⟨hresult, hfailures, hloops⟩ := ih
      obtain ⟨rfl, rfl, before, rfl, hbefore⟩ := hdrives.of_failed (dispatch_discreet nesting) hmem hresult
      obtain ⟨-, ⟨⟩⟩ := hexecution
      next htold hafter hleaves =>
        refine ⟨hleaves, ?_, List.forall_mem_cons.mpr ⟨⟨nesting, ds, _, _, _, hdrives, htold, hafter⟩, hloops⟩⟩
        rw [htold, failuresIn_execution, failuresIn_append, hbefore.failuresIn_eq, hfailures, hafter]
        simp [World.failed, World.addEntry]

/-- A dispatch that fails does so because of a node in it that fails on its own account. -/
theorem exists_failsInside (nesting : Nat) : ∀ d : Dispatched, plan.kinds.contains d.node.kind = true →
    d.Made A (dispatchWith plan (perform plan nesting)) → ∀ f, d.result = .error f →
      ∃ loops n p, FailsInside A plan nesting d loops n p := by
  induction nesting using Nat.strong_induction_on with
  | h nesting ih =>
    intro d hkind hmade f hf
    obtain ⟨es, v, r, hexecution⟩ := hmade.execution hkind
    cases hexecution.concludes with
    | completed _ _ hresult => cases hresult.symm.trans hf
    | @failed f' htold hafter hresult =>
        cases f' with
        | own p => exact ⟨[], d.node, p, .itself hexecution⟩
        | node e =>
            by_cases hloop : d.node.kind = .loop
            · obtain ⟨-, ⟨⟩, -⟩ | ⟨inside, rfl, ds, hdrives⟩ := loop_work hloop hexecution.work
              obtain ⟨inner, hmem, hinner⟩ := hdrives.exists_failed
              have hmade := hdrives.made inner hmem
              have hinnerKind : plan.kinds.contains inner.node.kind = true := hmade.contains_kind hinner
              obtain ⟨loops, n, p, hfails⟩ := ih inside (by omega) inner hinnerKind hmade _ hinner
              exact ⟨d :: loops, n, p, .within hloop hexecution hdrives hmem hfails⟩
            · obtain ⟨p, ⟨⟩⟩ := hexecution.work.failure (worker_murmurs hloop _)

/-- A failure inside loops keeps its identity.  The dispatch of a node that can be
executed comes to an end, and where some node fails in it on its own account, the
dispatch fails with the error of that node: with its id, its kind and its problem.  It
logs the failure of that node and then that of every loop around it, from the inside
out, each with the id of the node, and no other failure.  None of these loops is
completed.  A loop whose body cannot be walked fails on its own account itself.
Where no node fails the dispatch returns. -/
theorem failures_keep_identity (hA : ∀ v, ∃ u, A v u) (nesting : Nat) (n : Node) (w : World)
    (hkind : plan.kinds.contains n.kind = true) :
    (∃ d : Dispatched, d.node = n ∧ d.before = w ∧ d.Made A (dispatchWith plan (perform plan nesting))) ∧
    ∀ d : Dispatched, d.node = n → d.before = w → d.Made A (dispatchWith plan (perform plan nesting)) →
      (∀ loops culprit p, FailsInside A plan nesting d loops culprit p →
        d.result = .error (.node ⟨culprit.id, culprit.kind, p⟩) ∧
        failuresIn d.told = failureEntry culprit (.own p) d.after.clock ::
          loops.reverse.map (fun l => failureEntry l.node (.node ⟨culprit.id, culprit.kind, p⟩) d.after.clock) ∧
        (∀ e ∈ (failuresIn d.told).tail, e.payload.field? "failed_node" = some culprit.id.value) ∧
        ∀ l ∈ loops, BreaksOff A plan l) ∧
      (∀ es v p, Execution A plan nesting d es v (.error (.own (.loop p))) →
        FailsInside A plan nesting d [] n (.loop p)) ∧
      ((∃ loops culprit p, FailsInside A plan nesting d loops culprit p) ∨
        ∃ output, d.result = .ok output ∧ failuresIn d.told = []) := by
  have hgrows : (dispatchWith plan (perform plan nesting) n).Grows := fun w =>
    (dispatchWith_keeps plan (perform_grows plan nesting) n w).weaken (fun _ _ _ => trivial) fun _ _ _ => trivial
  obtain ⟨es, v, r, htells⟩ := Step.exists_tells hA _ w (hgrows w)
  refine ⟨⟨⟨n, w, v, es, r⟩, rfl, rfl, htells⟩, fun d hnode _ hmade => ⟨fun loops culprit p hfails => ?_, ?_, ?_⟩⟩
  · obtain ⟨hresult, hfailures, hloops⟩ := hfails.leaves
    refine ⟨hresult, hfailures, fun e he => ?_, hloops⟩
    rw [hfailures, List.tail_cons] at he
    obtain ⟨l, -, rfl⟩ := List.mem_map.mp he
    rfl
  · intro es v p hexecution
    exact hnode ▸ .itself hexecution
  · cases hresult : d.result with
    | error f => exact .inl (exists_failsInside nesting d (hnode ▸ hkind) hmade f hresult)
    | ok output =>
        have htold : Unfailing d.told := (dispatch_discreet nesting).of_ok hmade hresult
        exact .inr ⟨output, rfl, htold.failuresIn_eq⟩

end

/-- A loop around a loop around a node to which nothing has been uploaded. -/
def hollow : Graph where
  nodes := [bareNode "o" .loop [], bareNode "i" .loop [], bareNode "u" .upload []]
  edges :=
    [wire "o" "i" (.str "o-loop-start") .null, wire "i" "u" (.str "i-loop-start") .null,
      wire "u" "i" .null (.str "i-loop-end"), wire "i" "o" .null (.str "o-loop-end")]
  keys_nodup := by decide
  ends_mem := by decide

/-- One dispatch of the outer loop. -/
def hollowRun : Step Value :=
  dispatchWith (barePlan hollow 2) (perform (barePlan hollow 2) 2) (bareNode "o" .loop []) World.empty

/-- Does the computation fail at once, as the given node did?  And are these the nodes
that tell of a failure? -/
def failsAtOnce (culprit : String) (tellers : List String) : Step Value → Bool
  | .fail v (.node e) => e.id.value.text = culprit && (failuresIn v.log).map (fun e => e.node.text) = tellers
  | _ => false

/-- The dispatch of the outer loop fails as the node inside the inner one does.  That
node says so first, then the inner loop and the outer one. -/
theorem hollow_keeps_identity : ∃ (d : Dispatched) (loops : List Dispatched) (culprit : Node) (p : Problem),
    d.Made Eq (dispatchWith (barePlan hollow 2) (perform (barePlan hollow 2) 2)) ∧
    FailsInside Eq (barePlan hollow 2) 2 d loops culprit p ∧
    d.result = .error (.node ⟨culprit.id, culprit.kind, p⟩) ∧ culprit.id.value.text = "u" ∧ loops.length = 2 ∧
    (failuresIn d.told).map (fun e => e.node.text) = ["u", "i", "o"] := by
  have hruns : failsAtOnce "u" ["u", "i", "o"] hollowRun = true := by decide +kernel
  have hkind : (barePlan hollow 2).kinds.contains (bareNode "o" .loop []).kind = true := rfl
  obtain ⟨-, hfails⟩ := failures_keep_identity (A := Eq) (fun v => ⟨v, rfl⟩) 2 (bareNode "o" .loop []) World.empty hkind
  cases hrun : hollowRun with
  | done | call | tools => simp [hrun, failsAtOnce] at hruns
  | fail v f =>
      cases f with
      | own p => simp [hrun, failsAtOnce] at hruns
      | node e =>
          rw [hrun] at hruns
          obtain ⟨hculprit, htellers⟩ : e.id.value.text = "u" ∧
              (failuresIn v.log).map (fun e => e.node.text) = ["u", "i", "o"] := by
            simpa [failsAtOnce] using hruns
          have hmade : Dispatched.Made Eq (dispatchWith (barePlan hollow 2) (perform (barePlan hollow 2) 2))
              ⟨bareNode "o" .loop [], World.empty, v, v.log, .error (.node e)⟩ := by
            have hstep : dispatchWith (barePlan hollow 2) (perform (barePlan hollow 2) 2) (bareNode "o" .loop [])
              World.empty = .fail v (.node e) := hrun
            unfold Dispatched.Made
            dsimp only
            rw [hstep]
            exact .fail rfl
          obtain ⟨hkeeps, -, ⟨loops, culprit, p, hinside⟩ | ⟨output, ⟨⟩, -⟩⟩ := hfails _ rfl rfl hmade
          obtain ⟨hresult, hfailures, -, -⟩ := hkeeps loops culprit p hinside
          have hloops : loops.length = 2 := by
            have hlength := congrArg List.length htellers
            rw [List.length_map, hfailures] at hlength
            simpa using hlength
          obtain rfl : e = ⟨culprit.id, culprit.kind, p⟩ := Failure.node.inj (Except.error.inj hresult)
          exact ⟨_, loops, culprit, p, hmade, hinside, hresult, hculprit, hloops, htellers⟩

end Workflow.Execute
