import Workflow.Proofs.Settling
import Mathlib

/-!
# Workflow.Proofs.Recovery

What becomes of expressions that cannot be evaluated.

Four places of a document hold expressions: the conditions of a condition node,
the updates of a state node, the bindings of any node, and the exit condition of
a loop.  Each of them gets over an expression that cannot be evaluated: the next
condition is tried, the one update or binding is left out, the loop goes on
(`Recovers`).  That goes for text of any kind and for everything false.  Any other
value is not even tried: a fault comes out of all four places (`Escapes`).

A condition node with texts for expressions, or none, therefore always selects a
handle (`condition_selects`), and bindings with such expressions are resolved to
the end (`resolveFrom_binds`).
-/

namespace Workflow

/-- Is the value text, or else false? -/
def Value.isTextOrFalse : Value → Bool
  | .str _ => true
  | v => !v.truthy

theorem Value.isTextOrFalse_cases {v : Value} (h : v.isTextOrFalse = true) :
    (∃ s, v = .str s) ∨ v.truthy = false := by
  cases v with
  | str s => exact .inl ⟨s, rfl⟩
  | _ => exact .inr (by simpa [isTextOrFalse] using h)

theorem Value.truthy_of_not_text {v : Value} (h : v.isTextOrFalse = false) : v.truthy = true := by
  cases v with
  | str s => cases h
  | _ => simpa [isTextOrFalse] using h

/-- The fault of asking a value other than text for an expression. -/
def Value.noText (v : Value) : Fault := .noAttribute v.typeName "strip"

namespace Expr

variable {e : Value}

/-- The value of an expression, if it has one. -/
def value? (e : Value) (context : Entries) : Option Value :=
  match evaluateAny e context with
  | .ok v => some v
  | .error _ => none

theorem evaluateAny_false (h : e.truthy = false) (context : Entries) :
    evaluateAny e context = .error (.error .empty) := by
  cases e with
  | str s =>
    obtain rfl : s = "" := by simpa [Value.truthy] using h
    rfl
  | _ => simp [evaluateAny, h]

/-- Text, or what is false, can only fail with an error of the evaluation. -/
theorem evaluateAny_error (htext : e.isTextOrFalse = true) {context : Entries} (h : value? e context = none) :
    ∃ err, evaluateAny e context = .error (.error err) := by
  obtain ⟨s, rfl⟩ | hfalse := Value.isTextOrFalse_cases htext
  · cases hs : evaluate s context with
    | ok v => simp [value?, evaluateAny, hs] at h
    | error err => exact ⟨err, by simp [evaluateAny, hs]⟩
  · exact ⟨.empty, evaluateAny_false hfalse context⟩

/-- Nothing else is tried. -/
theorem evaluateAny_fault (htext : e.isTextOrFalse = false) (context : Entries) :
    evaluateAny e context = .error (.fault e.noText) := by
  have htrue := Value.truthy_of_not_text htext
  cases e with
  | str s => cases htext
  | _ => simp [evaluateAny, htrue, Value.noText]

end Expr

namespace Execute

open Run

variable {plan : Plan} {n : Node} {context : Entries} {e : Value} {w : World} {i : Option MapId} {es : Entries}

/-! ## Conditions -/

/-- The value of a condition, if its expression has one. -/
def conditionValue? (context : Entries) (condition : Value) : Option Value :=
  match conditionText condition with
  | .ok s => (Expr.evaluate s context).toOption
  | .error _ => none

theorem conditionText_ok (h : (Entries.field es "expression").isTextOrFalse = true) :
    ∃ s, conditionText (.dict i es) = .ok s := by
  obtain ⟨s, hs⟩ | hfalse := Value.isTextOrFalse_cases h
  · cases htrue : (Value.str s).truthy <;>
      simp [conditionText, Value.read_dict, Value.orElse, hs, htrue, bind, Except.bind, pure, Except.pure]
  · simp [conditionText, Value.read_dict, Value.orElse, hfalse, bind, Except.bind, pure, Except.pure]

theorem conditionText_fault (h : (Entries.field es "expression").isTextOrFalse = false) :
    conditionText (.dict i es) = .error (Entries.field es "expression").noText := by
  have htrue := Value.truthy_of_not_text h
  cases he : Entries.field es "expression" with
  | str s => simp [he, Value.isTextOrFalse] at h
  | _ =>
    rw [he] at htrue
    simp [conditionText, Value.read_dict, Value.orElse, he, htrue, bind, Except.bind, throw, throwThe,
      MonadExceptOf.throw, Value.noText]

/-- A condition without a value is passed over. -/
theorem selectFrom_passes (plan : Plan) (n : Node) {condition : Value} {s : String} (htext : conditionText condition = .ok s)
    (hnone : conditionValue? context condition = none) (index : Nat) (rest : List Value) (w : World) :
    ∃ v, Whisper w v ∧
      selectFrom plan n context index (condition :: rest) w = selectFrom plan n context (index + 1) rest v := by
  by_cases hempty : s.isEmpty = true
  · refine ⟨?_, ?whisper, ?passes⟩
    case passes =>
      rw [selectFrom, htext, Work.lift_ok, if_pos hempty]
      rfl
    case whisper => exact Whisper.records w _
  · cases hs : Expr.evaluate s context with
    | ok v => simp [conditionValue?, htext, hs, Except.toOption] at hnone
    | error err =>
      refine ⟨?_, ?whisper, ?passes⟩
      case passes =>
        rw [selectFrom, htext, Work.lift_ok, if_neg hempty, hs]
        rfl
      case whisper => exact Whisper.note w _ _ _ _ _ rfl

/-- What a condition node selects: the handle of the first condition that
holds, or else the default handle. -/
def selected (n : Node) (settings : Entries) (context : Entries) : List Value → Value
  | [] => (Entries.field settings "defaultOutputHandleId").orElse (.str (n.id.text ++ "-output-default"))
  | condition :: rest => match conditionValue? context condition with
    | some v => if v.truthy then (condition.field? "outputHandleId").getD .null else selected n settings context rest
    | none => selected n settings context rest

/-- The value is a mapping with an expression that is text or false. -/
def Askable (condition : Value) : Prop :=
  ∃ i es, condition = .dict i es ∧ (Entries.field es "expression").isTextOrFalse = true

/-- Conditions that can be asked for select a handle, and nothing is changed. -/
theorem selectFrom_selects (plan : Plan) (context : Entries) {settings : Entries} (hpayload : n.payload = .dict i settings) {conditions : List Value}
    (hall : ∀ condition ∈ conditions, Askable condition) (index : Nat) (w : World) :
    ∃ v, Whisper w v ∧ selectFrom plan n context index conditions w =
      .done v (selecting (selected n settings context conditions)) := by
  induction conditions generalizing index w with
  | nil =>
    refine ⟨?_, ?whisper, ?done⟩
    case done =>
      rw [selectFrom, Node.setting, hpayload, Value.read_dict, Work.lift_ok]
      rfl
    case whisper => exact Whisper.note w _ _ _ _ _ rfl
  | cons condition rest ih =>
    have hrest := ih fun c hc => hall c (List.mem_cons_of_mem _ hc)
    obtain ⟨j, es, rfl, htext⟩ := hall condition List.mem_cons_self
    obtain ⟨s, hs⟩ := conditionText_ok (i := j) htext
    cases hvalue : conditionValue? context (.dict j es) with
    | none =>
      obtain ⟨v, hwhisper, hpass⟩ := selectFrom_passes plan n hs hvalue index rest w
      obtain ⟨u, hwhisper', hdone⟩ := hrest (index + 1) v
      refine ⟨u, Whisper.trans _ _ _ hwhisper hwhisper', ?_⟩
      rw [hpass, hdone, selected, hvalue]
    | some x =>
      have hx : Expr.evaluate s context = .ok x := by
        cases hs' : Expr.evaluate s context <;> simp_all [conditionValue?, Except.toOption]
      have hempty : ¬ s.isEmpty = true := by
        intro h
        obtain rfl : s = "" := by simpa using h
        cases hx
      cases htrue : x.truthy with
      | false =>
        obtain ⟨v, hwhisper, hdone⟩ := hrest (index + 1) w
        refine ⟨v, hwhisper, ?_⟩
        rw [selectFrom, hs, Work.lift_ok, if_neg hempty, hx]
        simp only [htrue, Bool.false_eq_true, ↓reduceIte]
        rw [hdone, selected, hvalue]
        simp only [htrue, Bool.false_eq_true, ↓reduceIte]
      | true =>
        refine ⟨?_, ?whisper, ?done⟩
        case done =>
          rw [selectFrom, hs, Work.lift_ok, if_neg hempty, hx]
          simp only [htrue, ↓reduceIte, Value.read_dict, Work.lift_ok]
          rw [selected, hvalue]
          simp only [htrue, ↓reduceIte]
          rfl
        case whisper => exact Whisper.note w _ _ _ _ _ rfl

/-- In the given world the node has such settings and conditions, and its
expressions see such a context. -/
structure Asks (plan : Plan) (n : Node) (w : World) (settings context : Entries) (conditions : List Value) : Prop where
  payload : ∃ i, (w.node n).payload = .dict i settings
  context : w.context plan.graph none = .ok context
  conditions : (Entries.field settings "conditions").itemsOrNone = .ok conditions

/-- A condition node goes through its conditions from the first one on. -/
theorem condition_eq {settings : Entries} {conditions : List Value} (h : Asks plan n w settings context conditions) :
    condition plan n w = selectFrom plan (w.node n) context 0 conditions w := by
  obtain ⟨i, hpayload⟩ := h.payload
  have hcondition : condition plan n w = (do
      let context ← Work.lift (w.context plan.graph none)
      let conditions ← Work.lift do (← (w.node n).setting "conditions").itemsOrNone
      selectFrom plan (w.node n) context 0 conditions : Work Value) w := rfl
  have hitems : (do (← (w.node n).setting "conditions").itemsOrNone) = Except.ok conditions := by
    rw [Node.setting, hpayload, Value.read_dict]
    exact h.conditions
  rw [hcondition, h.context, Work.lift_ok, hitems, Work.lift_ok]

/-- A condition node whose conditions can be asked for selects a handle. -/
theorem condition_selects {settings : Entries} {conditions : List Value} (h : Asks plan n w settings context conditions)
    (hall : ∀ condition ∈ conditions, Askable condition) :
    ∃ v, Whisper w v ∧
      condition plan n w = .done v (selecting (selected (w.node n) settings context conditions)) := by
  obtain ⟨i, hpayload⟩ := h.payload
  obtain ⟨v, hwhisper, hdone⟩ := selectFrom_selects plan context hpayload hall 0 w
  exact ⟨v, hwhisper, (condition_eq h).trans hdone⟩

/-! ## Updates -/

/-- An update that is skipped changes nothing but the log. -/
theorem applyUpdates_skips {update key : Value} {err : Expr.EvalError}
    (hread : readUpdate context update = .ok (.skip key e err)) (round index : Nat) (rest : List Value) (w : World) :
    ∃ v, Whisper w v ∧ applyUpdates plan n context round index (update :: rest) w =
      applyUpdates plan n context round (index + 1) rest v := by
  refine ⟨?_, ?whisper, ?skips⟩
  case skips =>
    rw [applyUpdates, hread, Work.lift_ok]
    rfl
  case whisper => exact Whisper.note w _ _ _ _ _ rfl

/-! ## Bindings -/

/-- A binding is carried out where its expression has a value, and left out else. -/
def bindOne (origin : Origin) (st : BindingState) (binding : String × Value) : BindingState :=
  match Expr.value? binding.2 st.context with
  | some v => st.put origin (segmentsOf binding.1) v
  | none => st

/-- Bindings with texts for expressions, or what is false, are resolved to the
end; what they give is what those give that have a value. -/
theorem resolveFrom_binds (origin : Origin) {bindings : List (String × Value)}
    (htext : ∀ binding ∈ bindings, binding.2.isTextOrFalse = true) (st : BindingState) (outcomes : List BindingOutcome) :
    let r := resolveFrom origin st outcomes (bindings.map fun (target, e) => (.str target, e))
    r.failure = none ∧ r.inputs = (bindings.foldl (bindOne origin) st).inputs := by
  induction bindings generalizing st outcomes with
  | nil => exact ⟨rfl, rfl⟩
  | cons binding rest ih =>
    have hrest := ih fun b hb => htext b (List.mem_cons_of_mem _ hb)
    rw [List.map_cons, List.foldl_cons, resolveFrom]
    cases hvalue : Expr.value? binding.2 st.context with
    | none =>
      obtain ⟨err, herr⟩ := Expr.evaluateAny_error (htext binding List.mem_cons_self) hvalue
      rw [herr, bindOne, hvalue]
      exact hrest st _
    | some v =>
      have hv : Expr.evaluateAny binding.2 st.context = .ok v := by
        cases h : Expr.evaluateAny binding.2 st.context <;> simp_all [Expr.value?]
      rw [hv, bindOne, hvalue]
      exact hrest _ _

/-! ## Exit conditions -/

/-- What a loop does after a pass: it ends, or it goes on. -/
def afterPass (plan : Plan) (n : Node) (s : LoopSettings) (pass : Work Unit) (left done : Nat) : Work Value := do
  if ← shouldExit plan n s.exitCondition then
    Work.note plan n .info "Exit condition met"
      (.record [("reason", .str "exit_condition"), ("iterations", .int (done + 1 : Nat))])
    return loopOutput s.exitHandle (done + 1 : Nat)
  else passes plan n s pass left (done + 1)

theorem passes_succ (plan : Plan) (n : Node) (s : LoopSettings) (pass : Work Unit) (left done : Nat) :
    passes plan n s pass (left + 1) done = (do
      let progress := Value.record [("iteration", .int (done + 1 : Nat)), ("maxIterations", .int s.limit)]
      Work.note plan n .info s!"Iteration {done + 1}/{s.limit}" progress
      pass
      Work.note plan n .info s!"Iteration {done + 1} done" progress
      afterPass plan n s pass left done) := by
  rw [passes]
  rfl

/-- What an exit condition that is asked for comes to. -/
theorem shouldExit_asked (htrue : e.truthy = true) (hcontext : w.context plan.graph none = .ok context) :
    shouldExit plan n e w = match Expr.evaluateAny e context with
      | .ok v => .done w v.truthy
      | .error (.fault f) => .fail w (.own (.fault f))
      | .error (.error err) =>
        .done (w.note plan.sink n.id.value n.kind.name .warning "Exit condition could not be evaluated"
          (.record [("expression", e), ("error", .str err.message)])) false := by
  have hasked : shouldExit plan n e w = (do
      let context ← Work.lift (w.context plan.graph none)
      match Expr.evaluateAny e context with
      | .ok v => return v.truthy
      | .error (.fault f) => Work.lift (.error f)
      | .error (.error err) =>
        Work.note plan n .warning "Exit condition could not be evaluated"
          (.record [("expression", e), ("error", .str err.message)])
        return false : Work Bool) w := by
    unfold shouldExit
    simp only [htrue, Bool.not_true, Bool.false_eq_true, ↓reduceIte]
    rfl
  rw [hasked, hcontext, Work.lift_ok]
  rcases Expr.evaluateAny e context with (err | f) | v <;> rfl

theorem shouldExit_recovers (htext : e.isTextOrFalse = true) (hcontext : w.context plan.graph none = .ok context)
    (hnone : Expr.value? e context = none) : ∃ v, Whisper w v ∧ shouldExit plan n e w = .done v false := by
  cases htrue : e.truthy with
  | false =>
    refine ⟨w, .refl w, ?_⟩
    unfold shouldExit
    simp only [htrue, Bool.not_false, ↓reduceIte]
    rfl
  | true =>
    obtain ⟨err, herr⟩ := Expr.evaluateAny_error htext hnone
    rw [shouldExit_asked htrue hcontext, herr]
    exact ⟨_, Whisper.note w _ _ _ _ _ rfl, rfl⟩

/-! ## All four places -/

/-- Each of the four places gets over the expression where it cannot be
evaluated: it goes on as it would without it, and all that it does meanwhile is
to log that. -/
structure Recovers (e : Value) : Prop where
  condition : ∀ plan n context index i es rest w, Entries.field es "expression" = e →
    conditionValue? context (.dict i es) = none → ∃ v, Whisper w v ∧
      selectFrom plan n context index (.dict i es :: rest) w = selectFrom plan n context (index + 1) rest v
  update : ∀ plan n context round index i es rest w, (Entries.field es "key").truthy = true →
    Entries.field es "binding" = e → e.truthy = true → Expr.value? e context = none → ∃ v, Whisper w v ∧
      applyUpdates plan n context round index (.dict i es :: rest) w =
        applyUpdates plan n context round (index + 1) rest v
  binding : ∀ origin st outcomes target rest, Expr.value? e st.context = none → ∃ err,
    resolveFrom origin st outcomes ((target, e) :: rest) =
      resolveFrom origin st (outcomes ++ [⟨target, e, some err⟩]) rest
  exit : ∀ plan n s pass left done context w, s.exitCondition = e → World.context w plan.graph none = .ok context →
    Expr.value? e context = none → ∃ v, Whisper w v ∧
      afterPass plan n s pass left done w = passes plan n s pass left (done + 1) v

/-- At each of the four places a fault comes out. -/
structure Escapes (e : Value) : Prop where
  condition : ∀ plan n context index i es rest w, Entries.field es "expression" = e →
    selectFrom plan n context index (.dict i es :: rest) w = .fail w (.own (.fault e.noText))
  update : ∀ plan n context round index i es rest w, (Entries.field es "key").truthy = true →
    Entries.field es "binding" = e →
    applyUpdates plan n context round index (.dict i es :: rest) w = .fail w (.own (.fault e.noText))
  binding : ∀ origin st outcomes target rest,
    resolveFrom origin st outcomes ((target, e) :: rest) = ⟨st.inputs, outcomes, st.writes, some e.noText⟩
  exit : ∀ plan n s pass left done context w, s.exitCondition = e → World.context w plan.graph none = .ok context →
    afterPass plan n s pass left done w = .fail w (.own (.fault e.noText))

theorem recovers_of_text (htext : e.isTextOrFalse = true) : Recovers e where
  condition plan n context index i es rest w he hnone := by
    subst he
    obtain ⟨s, hs⟩ := conditionText_ok (i := i) htext
    exact selectFrom_passes plan n hs hnone index rest w
  update plan n context round index i es rest w hkey hbinding htrue hnone := by
    obtain ⟨err, herr⟩ := Expr.evaluateAny_error htext hnone
    have hread : readUpdate context (.dict i es) = .ok (.skip (Entries.field es "key") e err) := by
      simp [readUpdate, Value.read_dict, hkey, hbinding, htrue, herr, bind, Except.bind, pure, Except.pure]
    exact applyUpdates_skips hread round index rest w
  binding origin st outcomes target rest hnone := by
    obtain ⟨err, herr⟩ := Expr.evaluateAny_error htext hnone
    exact ⟨err, by rw [resolveFrom, herr]⟩
  exit plan n s pass left done context w he hcontext hnone := by
    subst he
    obtain ⟨v, hwhisper, hexit⟩ := shouldExit_recovers (n := n) htext hcontext hnone
    refine ⟨v, hwhisper, ?_⟩
    rw [afterPass, Work.bind_apply, hexit]
    rfl

theorem escapes_of_not_text (htext : e.isTextOrFalse = false) : Escapes e where
  condition plan n context index i es rest w he := by
    subst he
    rw [selectFrom, conditionText_fault htext]
    rfl
  update plan n context round index i es rest w hkey hbinding := by
    have hread : readUpdate context (.dict i es) = .error e.noText := by
      simp [readUpdate, Value.read_dict, hkey, hbinding, Value.truthy_of_not_text htext,
        Expr.evaluateAny_fault htext, bind, Except.bind, throw, throwThe, MonadExceptOf.throw]
    rw [applyUpdates, hread]
    rfl
  binding origin st outcomes target rest := by
    rw [resolveFrom, Expr.evaluateAny_fault htext]
  exit plan n s pass left done context w he hcontext := by
    subst he
    rw [afterPass, Work.bind_apply, shouldExit_asked (Value.truthy_of_not_text htext) hcontext,
      Expr.evaluateAny_fault htext]
    rfl

/-- An expression that is text, or false, is got over wherever it stands; from
any other expression a fault comes out wherever it stands.  So a condition node
without such others never fails, and bindings without them are all resolved but
for those that have no value. -/
theorem expressions_recovered (e : Value) :
    (if e.isTextOrFalse then Recovers e else Escapes e) ∧
    (∀ plan n w settings context conditions, Asks plan n w settings context conditions →
      (∀ condition ∈ conditions, Askable condition) →
      ∃ v, Whisper w v ∧ Execute.condition plan n w =
        .done v (selecting (selected (w.node n) settings context conditions))) ∧
    ∀ origin st outcomes (bindings : List (String × Value)), (∀ binding ∈ bindings, binding.2.isTextOrFalse = true) →
      let r := resolveFrom origin st outcomes (bindings.map fun (target, e) => (.str target, e))
      r.failure = none ∧ r.inputs = (bindings.foldl (bindOne origin) st).inputs := by
  refine ⟨?_, fun plan n w settings context conditions => condition_selects,
    fun origin st outcomes bindings h => resolveFrom_binds origin h st outcomes⟩
  cases htext : e.isTextOrFalse with
  | false => exact escapes_of_not_text htext
  | true => exact recovers_of_text htext

/-- A plan for a graph without nodes. -/
def emptyPlan : Plan := ⟨.empty, .record [], .silent, NodeKind.all, false, fun _ => .ok (), 0, 0⟩

/-- A condition node with one condition, about a name that is unknown. -/
def brokenCondition : Node :=
  ⟨.ofString "c", .condition, .str "c", .record [("conditions", .list [.record [("expression", .str "x")]])], .null⟩

/-- Where the only condition cannot be evaluated the default handle is selected. -/
theorem brokenCondition_selects : ∃ v, Whisper World.empty v ∧
    Execute.condition emptyPlan brokenCondition World.empty = .done v (selecting (.str "c-output-default")) := by
  obtain ⟨v, hwhisper, hdone⟩ := (expressions_recovered (.str "x")).2.1 emptyPlan brokenCondition World.empty _ _ _
    ⟨⟨_, rfl⟩, rfl, rfl⟩ (by
      intro condition hmem
      obtain rfl := List.mem_singleton.mp hmem
      exact ⟨_, _, rfl, rfl⟩)
  have hunknown : ∀ i, conditionValue? [(.str "state", .dict none [])] (.dict i [(.str "expression", .str "x")]) = none := by
    intro i
    have hs : conditionText (.dict i [(.str "expression", .str "x")]) = .ok "x" := rfl
    rw [conditionValue?, hs]
    cbv
  refine ⟨v, hwhisper, hdone.trans ?_⟩
  change Step.done v (selecting (selected _ _ [(.str "state", .dict none [])] [.dict _ [(.str "expression", .str "x")]])) = _
  rw [selected, hunknown]
  rfl

/-- A number in the place of a condition's expression is not got over. -/
theorem number_not_recovered : ¬ Recovers (.int 5) := by
  intro h
  obtain ⟨v, -, hpass⟩ := h.condition emptyPlan { brokenCondition with payload := .record [] } [] 0 none
    [(.str "expression", .int 5)] [] World.empty rfl rfl
  cases hpass

end Execute
end Workflow
