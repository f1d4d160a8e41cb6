import Workflow.Proofs.Bindings
import Workflow.Proofs.Passes
import Workflow.Proofs.Recovery

/-!
# Workflow.Proofs.Repetition

How often a loop passes through its body.

Every course of a loop consists of `Turn`s, each of them one pass through the
body, with nothing but remarks between them.  What the loop comes to is decided by
its turns alone (`Outcome`): it exits after the first one at whose end the exit
condition holds, reports that it has made as many turns as it may, or fails with
the first turn that fails (`loop_turns`).

The number of turns a loop may make and the condition are read from its settings
once, when it begins.  A number below zero stands for no turns at all.
-/

namespace Workflow.Execute

open Run

variable {A : World → World → Prop} {plan : Plan} {dispatch : Node → Work Value} {n : Node} {e : Value}
  {s : LoopSettings} {pass : Work Unit} {holds : World → Bool} {w u v : World} {d : Key → ℤ}

/-! ## Turns -/

/-- One pass of a loop: it takes one world to another, begins so many executions,
and comes to a result. -/
structure Turn where
  before : World
  after : World
  begun : Key → ℤ
  result : Except Failure Unit

/-- The loop may go on after the turn: it has succeeded, and the condition does
not hold. -/
structure Turn.GoesOn (holds : World → Bool) (t : Turn) : Prop where
  result : t.result = .ok ()
  holds : holds t.after = false

/-- Passes in turn, from one world to another.  Between them there are only
remarks, so that all executions are begun by the passes. -/
inductive Turns (A : World → World → Prop) (pass : Work Unit) : World → List Turn → (Key → ℤ) → World → Prop
  | nil {w v : World} : Whisper w v → Turns A pass w [] 0 v
  | cons {w v : World} {t : Turn} {ts : List Turn} {d : Key → ℤ} : Whisper w t.before → Step.Course A t.before (pass t.before) t.begun t.after t.result →
      Turns A pass t.after ts d v → Turns A pass w (t :: ts) (t.begun + d) v

theorem Turns.of_whisper {ts : List Turn} (h : Whisper w u) (hturns : Turns A pass u ts d v) :
    Turns A pass w ts d v := by
  cases hturns with
  | nil hwhisper => exact .nil (Whisper.trans _ _ _ h hwhisper)
  | cons hwhisper hpass hrest => exact .cons (Whisper.trans _ _ _ h hwhisper) hpass hrest

/-- What a loop that has made `done` turns before comes to by further turns. -/
inductive Outcome (holds : World → Bool) (s : LoopSettings) (done : Nat) :
    List Turn → Except Failure Value → Prop
  /-- After the last turn, and no earlier, the condition holds. -/
  | exits {ts : List Turn} {t : Turn} : (∀ u ∈ ts, u.GoesOn holds) → t.result = .ok () → holds t.after = true →
      done + ts.length + 1 ≤ s.limit.toNat →
      Outcome holds s done (ts ++ [t]) (.ok (loopOutput s.exitHandle (done + ts.length + 1 : Nat)))
  /-- All turns have been made. -/
  | usedUp {ts : List Turn} : (∀ u ∈ ts, u.GoesOn holds) → done + ts.length = s.limit.toNat →
      Outcome holds s done ts (.ok (loopOutput s.limitHandle s.limit))
  /-- The last turn fails, and no earlier one. -/
  | fails {ts : List Turn} {t : Turn} {f : Failure} : (∀ u ∈ ts, u.GoesOn holds) → t.result = .error f → done + ts.length + 1 ≤ s.limit.toNat →
      Outcome holds s done (ts ++ [t]) (.error f)

/-- The condition holds after the first turn. -/
theorem Outcome.exits_now {done : Nat} {t : Turn} (hresult : t.result = .ok ()) (hholds : holds t.after = true)
    (hle : done + 1 ≤ s.limit.toNat) : Outcome holds s done [t] (.ok (loopOutput s.exitHandle (done + 1 : Nat))) :=
  @Outcome.exits holds s done [] t (List.forall_mem_nil _) hresult hholds hle

/-- The first turn fails. -/
theorem Outcome.fails_now {done : Nat} {t : Turn} {f : Failure} (hresult : t.result = .error f)
    (hle : done + 1 ≤ s.limit.toNat) : Outcome holds s done [t] (.error f) :=
  @Outcome.fails holds s done [] t f (List.forall_mem_nil _) hresult hle

/-- A turn after which the loop goes on counts as one that has been made. -/
theorem Outcome.cons {done : Nat} {t : Turn} {ts : List Turn} {r : Except Failure Value} (ht : t.GoesOn holds)
    (h : Outcome holds s (done + 1) ts r) : Outcome holds s done (t :: ts) r := by
  cases h with
  | @exits ts last hts hresult hholds hle =>
      have hcount : done + 1 + ts.length + 1 = done + (t :: ts).length + 1 := by
        rw [List.length_cons]
        omega
      rw [hcount] at hle ⊢
      exact .exits (List.forall_mem_cons.mpr ⟨ht, hts⟩) hresult hholds hle
  | usedUp hts hall =>
      refine .usedUp (List.forall_mem_cons.mpr ⟨ht, hts⟩) ?_
      rw [List.length_cons]
      omega
  | @fails ts last f hts hresult hle =>
      refine @Outcome.fails holds s done (t :: ts) last f (List.forall_mem_cons.mpr ⟨ht, hts⟩) hresult ?_
      rw [List.length_cons]
      omega

/-! ## Exit conditions -/

/-- Whether the loop is to exit is told by `holds`, at the cost of remarks. -/
structure Decides (plan : Plan) (n : Node) (e : Value) (holds : World → Bool) : Prop where
  asked : ∀ w, ∃ u, Whisper w u ∧ shouldExit plan n e w = .done u (holds w)
  whisper : ∀ {w u}, Whisper w u → holds u = holds w

/-- Does the exit condition hold in the given world?  One without a value does not. -/
def exitHolds (plan : Plan) (e : Value) (w : World) : Bool :=
  match w.context plan.graph none with
  | .ok context => (Expr.value? e context).any Value.truthy
  | .error _ => false

theorem exitHolds_of_context {context : Entries} (h : w.context plan.graph none = .ok context) :
    exitHolds plan e w = (Expr.value? e context).any Value.truthy := by
  rw [exitHolds, h]

/-- Where labels can be keys, expressions have a context. -/
theorem exists_context (hlabels : ∀ x ∈ plan.graph.nodes, x.label.key?.isSome = true) (w : World) (copy : Option MapId) :
    ∃ context, w.context plan.graph copy = .ok context := by
  have hlabelled : ∀ x ∈ plan.graph.nodes, (Entries.get? (w.lookEntries w.outputs) x.id.key).isSome →
      x.label.key?.isSome := fun x hx _ => hlabels x hx
  obtain ⟨context, hcontext, -⟩ := evalContext_names hlabelled (w.lookEntries w.state) copy
  exact ⟨context, hcontext⟩

/-- Text and what is false can be asked for as an exit condition. -/
theorem decides_exitHolds (hlabels : ∀ x ∈ plan.graph.nodes, x.label.key?.isSome = true)
    (htext : e.isTextOrFalse = true) : Decides plan n e (exitHolds plan e) where
  asked w := by
    obtain ⟨context, hcontext⟩ := exists_context hlabels w none
    rw [exitHolds_of_context hcontext]
    cases hvalue : Expr.value? e context with
    | none => exact shouldExit_recovers htext hcontext hvalue
    | some x =>
        have htrue : e.truthy = true := by
          by_contra hfalse
          rw [Bool.not_eq_true] at hfalse
          rw [Expr.value?, Expr.evaluateAny_false hfalse] at hvalue
          cases hvalue
        have hx : Expr.evaluateAny e context = .ok x := by
          cases h : Expr.evaluateAny e context <;> simp_all [Expr.value?]
        refine ⟨w, .refl w, ?_⟩
        rw [shouldExit_asked htrue hcontext, hx]
        rfl
  whisper h := by
    unfold exitHolds World.context World.lookEntries
    rw [h.outputs, h.state, h.writes]

/-- Without a condition the loop does not exit. -/
theorem decides_never (hfalse : e.truthy = false) : Decides plan n e fun _ => false where
  asked w := by
    refine ⟨w, .refl w, ?_⟩
    unfold shouldExit
    simp only [hfalse, Bool.not_false, ↓reduceIte]
    rfl
  whisper _ := rfl

/-! ## Passes in turn -/

/-- Where there are only remarks in between a course may begin later as well. -/
theorem course_of_whisper {α : Type} {x : Step α} {r : Except Failure α} (h : Whisper w u)
    (hcourse : Step.Course A w x d v r) : Step.Course A u x d v r := by
  have hback : u.begunTo w = 0 := by
    rw [World.begunTo_swap, World.begunTo_of_whisper h, neg_zero]
  simpa only [hback, zero_add] using hcourse.after u

/-- A turn has a remark before it and another one after it. -/
theorem passes_apply (plan : Plan) (n : Node) (s : LoopSettings) (pass : Work Unit) (left done : Nat) (w : World) :
    ∃ (u : World) (ended : World → World), Whisper w u ∧ (∀ x, Whisper x (ended x)) ∧
      passes plan n s pass (left + 1) done w =
        (pass u).bind fun _ x => afterPass plan n s pass left done (ended x) := by
  refine ⟨?u, ?ended, ?before, ?after, ?same⟩
  case same =>
    rw [passes_succ]
    rfl
  case before => exact Whisper.note w _ _ _ _ _ rfl
  case after => exact fun x => Whisper.note x _ _ _ _ _ rfl

/-- After a turn the condition is asked for: the loop exits, or goes on. -/
theorem afterPass_apply (hdecides : Decides plan n s.exitCondition holds) (pass : Work Unit) (left done : Nat)
    (w : World) : ∃ u, Whisper w u ∧ afterPass plan n s pass left done w =
      if holds w then .done u (loopOutput s.exitHandle (done + 1 : Nat)) else passes plan n s pass left (done + 1) u := by
  obtain ⟨x, hx, hasked⟩ := hdecides.asked w
  rw [afterPass, Work.bind_apply, hasked]
  cases holds w with
  | true => exact ⟨_, Whisper.trans _ _ _ hx (Whisper.note x _ _ _ _ _ rfl), rfl⟩
  | false => exact ⟨x, hx, rfl⟩

/-- Every course of the passes that are left consists of turns, which decide what
the loop comes to. -/
theorem passes_turns (hdecides : Decides plan n s.exitCondition holds) (left : Nat) :
    ∀ {done : Nat} {w : World} {d : Key → ℤ} {r : Except Failure Value}, done + left = s.limit.toNat →
      Step.Course A w (passes plan n s pass left done w) d v r →
      ∃ ts, Turns A pass w ts d v ∧ Outcome holds s done ts r := by
  induction left with
  | zero =>
      intro done w d r hleft h
      obtain ⟨rfl, rfl, rfl⟩ := Step.Course.of_done h
      have hwhisper := @Whisper.note w plan.sink n.id.value n.kind.name .info "Maximum iterations reached"
        (.record [("reason", .str "max_iterations"), ("iterations", .int s.limit)]) rfl
      refine ⟨[], ?_, .usedUp (List.forall_mem_nil _) hleft⟩
      rw [World.begunTo_of_whisper hwhisper]
      exact .nil hwhisper
  | succ left ih =>
      intro done w d r hleft h
      obtain ⟨begins, ended, hbegins, hended, hsame⟩ := passes_apply plan n s pass left done w
      rw [hsame] at h
      obtain ⟨f, rfl, hfails⟩ | ⟨d₁, u, ⟨⟩, d₂, hpass, hrest, rfl⟩ := h.bind_cases
      · let t : Turn := ⟨begins, v, d, .error f⟩
        refine ⟨[t], ?_, .fails_now rfl (by omega)⟩
        exact add_zero d ▸ .cons hbegins (course_of_whisper hbegins hfails) (.nil (.refl v))
      · let t : Turn := ⟨begins, u, d₁, .ok ()⟩
        have hturn : Step.Course A begins (pass begins) d₁ u (.ok ()) := course_of_whisper hbegins hpass
        obtain ⟨x, hx, hasked⟩ := afterPass_apply hdecides pass left done (ended u)
        have hux : Whisper u x := Whisper.trans _ _ _ (hended u) hx
        rw [hasked, hdecides.whisper (hended u)] at hrest
        cases hholds : holds u with
        | true =>
            rw [hholds, if_pos rfl] at hrest
            obtain ⟨rfl, rfl, rfl⟩ := Step.Course.of_done hrest
            refine ⟨[t], ?_, .exits_now rfl hholds (by omega)⟩
            rw [World.begunTo_of_whisper hux]
            exact .cons hbegins hturn (.nil hux)
        | false =>
            rw [hholds, if_neg Bool.false_ne_true] at hrest
            obtain ⟨ts, hturns, houtcome⟩ := ih (by omega) (course_of_whisper hux hrest)
            exact ⟨t :: ts, .cons hbegins hturn (hturns.of_whisper hux), houtcome.cons ⟨rfl, hholds⟩⟩

/-! ## Settings -/

/-- The fields of a payload set a loop to this: to as many turns as a number says,
or to ten; to the expression of its exit condition, if it has one; and to the
handles that are named, or to those that loops have anyway. -/
structure SetTo (settings : Entries) (s : LoopSettings) : Prop where
  limit : match Entries.field settings "maxIterations" with
    | .null => s.limit = 10
    | v => Expr.toInt v = .ok (.int s.limit)
  exitCondition : ((Entries.field settings "exitCondition").truthy = false ∧ s.exitCondition = .null) ∨
    ∃ i condition, Entries.field settings "exitCondition" = .dict i condition ∧
      s.exitCondition = Entries.field condition "expression"
  exitHandle : s.exitHandle = (Entries.field settings "exitHandleId").orElse (.str "exit")
  limitHandle : s.limitHandle = (Entries.field settings "maxReachedHandleId").orElse (.str "max-reached")

namespace SetTo

variable {settings : Entries}

theorem expression (h : SetTo settings s) :
    ((Entries.field settings "exitCondition").orElse (.record [])).read "expression" = .ok s.exitCondition := by
  obtain ⟨hfalse, hnull⟩ | ⟨j, condition, hdict, hexpression⟩ := h.exitCondition
  · rw [Value.orElse, hfalse, hnull]
    rfl
  · rw [hdict, hexpression, Value.orElse]
    cases htrue : (Value.dict j condition).truthy with
    | true => rfl
    | false =>
        -- a mapping that is false is empty
        obtain rfl : condition = [] := by simpa [Value.truthy] using htrue
        rfl

theorem loopSettings_eq {i : Option MapId} (hpayload : n.payload = .dict i settings) (h : SetTo settings s) :
    loopSettings n = .ok s := by
  have hread : ∀ name, n.setting name = .ok (Entries.field settings name) := fun name => by
    rw [Node.setting, hpayload, Value.read_dict]
  have hrest : ∀ x : Except Fault Value, x = .ok (.int s.limit) → (do
      let limit ← x
      let condition := (← n.setting "exitCondition").orElse (.record [])
      let expression ← condition.read "expression"
      let exitHandle := (← n.setting "exitHandleId").orElse (.str "exit")
      let limitHandle := (← n.setting "maxReachedHandleId").orElse (.str "max-reached")
      return LoopSettings.mk ((limit.asInt?).getD 0) expression exitHandle limitHandle) = .ok s := by
    rintro _ rfl
    simp only [hread, bind, Except.bind, h.expression, ← h.exitHandle, ← h.limitHandle]
    rfl
  have hlimit := h.limit
  unfold loopSettings
  rw [hread]
  cases hmax : Entries.field settings "maxIterations" <;> rw [hmax] at hlimit
  case null => exact hrest _ (show Except.ok (Value.int 10) = .ok (.int s.limit) by rw [hlimit])
  all_goals exact hrest _ hlimit

end SetTo

/-! ## Loops -/

/-- A loop whose body is connected passes through it in turn, and comes to what
its turns decide. -/
theorem loop_eq_passes {edge : Edge NodeId} {startHandle : Value} (hsettings : loopSettings (w.node n) = .ok s)
    (hstart : (w.node n).loopStartHandle = .ok startHandle)
    (hedge : plan.graph.edgeAt? n.id.key startHandle = some edge) :
    loop plan dispatch n w =
      passes plan (w.node n) s (walkBody plan.graph dispatch (w.node n) edge.target) s.limit.toNat 0 w := by
  have hedge : plan.graph.edgeAt? (w.node n).id.key startHandle = some edge := hedge
  rw [loop_current, hsettings, Work.lift_ok, hstart, Work.lift_ok, hedge]

/-- A loop passes through its body as often as it should.  It exits after the
first turn at whose end its condition holds, where one that has no value does not;
without such a turn it makes all the turns it is set to, unless one fails.  Then
there are no further ones, and the loop fails with it. -/
theorem loop_turns (hA : ∀ v, ∃ u, A v u) (hlabels : ∀ x ∈ plan.graph.nodes, x.label.key?.isSome = true)
    (dispatch : Node → Work Value) {i : Option MapId} {settings : Entries} {edge : Edge NodeId} {startHandle : Value}
    (hpayload : (w.node n).payload = .dict i settings) (hset : SetTo settings s)
    (htext : s.exitCondition.isTextOrFalse = true) (hstart : (w.node n).loopStartHandle = .ok startHandle)
    (hedge : plan.graph.edgeAt? n.id.key startHandle = some edge) :
    (∃ d v r, Step.Course A w (loop plan dispatch n w) d v r) ∧
      ∀ d v r, Step.Course A w (loop plan dispatch n w) d v r →
        ∃ ts, Turns A (walkBody plan.graph dispatch (w.node n) edge.target) w ts d v ∧
          Outcome (exitHolds plan s.exitCondition) s 0 ts r := by
  refine ⟨Step.exists_course hA _ w, fun d v r h => ?_⟩
  rw [loop_eq_passes (hset.loopSettings_eq hpayload) hstart hedge] at h
  exact passes_turns (decides_exitHolds hlabels htext) _ (Nat.zero_add _) h

/-- A loop that passes three times at most, until something has been put under a name. -/
def patient : Node :=
  bareNode "l" .loop [("maxIterations", .str " 3"), ("exitCondition", .record [("expression", .str "state.k")])]

/-- The body of the loop puts something there. -/
def patientGraph : Graph where
  nodes := [patient, bareNode "c" .state [("stateUpdates", .list [.record [("key", .str "k"), ("value", .int 1)]])]]
  edges := [wire "l" "c" (.str "l-loop-start") .null, wire "c" "l" .null (.str "l-loop-end")]
  keys_nodup := by decide
  ends_mem := by decide

/-- The loop makes turns until the condition holds, and no more than three. -/
theorem patient_turns :
    (∃ d v r, Step.Course Eq World.empty
      (loop (barePlan patientGraph 1) (Execute.dispatch (barePlan patientGraph 1)) patient World.empty) d v r) ∧
    ∀ d v r, Step.Course Eq World.empty
      (loop (barePlan patientGraph 1) (Execute.dispatch (barePlan patientGraph 1)) patient World.empty) d v r →
      ∃ ts, Turns Eq (walkBody patientGraph (Execute.dispatch (barePlan patientGraph 1)) (World.empty.node patient)
          (.ofString "c")) World.empty ts d v ∧
        Outcome (exitHolds (barePlan patientGraph 1) (.str "state.k"))
          ⟨3, .str "state.k", .str "exit", .str "max-reached"⟩ 0 ts r := by
  have hlabels : ∀ x ∈ (barePlan patientGraph 1).graph.nodes, x.label.key?.isSome = true := by decide
  have hedge : (barePlan patientGraph 1).graph.edgeAt? patient.id.key (.str "l-loop-start") =
      some (wire "l" "c" (.str "l-loop-start") .null) := rfl
  refine loop_turns (n := patient) (s := ⟨3, .str "state.k", .str "exit", .str "max-reached"⟩) (w := World.empty)
    (fun v => ⟨v, rfl⟩) hlabels _ rfl ?set rfl rfl hedge
  case set => exact ⟨rfl, .inr ⟨_, _, rfl, rfl⟩, rfl, rfl⟩

end Workflow.Execute
