import Workflow.Proofs.Repetition

/-!
# Workflow.Proofs.Selection

Which handle a condition node selects, and what it logs on the way.

The node goes through its conditions in order.  One that does not hold adds at most a
warning (`selectFrom_passes_over`), so do any number of them (`selectFrom_tried`), and the
first one that holds ends the search: what stands behind it is not looked at
(`first_match_selected`).
-/

namespace Workflow.Execute

open Run

variable {plan : Plan} {n : Node} {context : Entries} {condition : Value} {w : World}

/-! ## Conditions -/

/-- The expression of a condition, without blanks at its ends. -/
def expressionOf (condition : Value) : String :=
  match (condition.field? "expression").getD .null with
  | .str s => Text.strip s
  | _ => ""

/-- The condition has an expression, which has a value, which is true. -/
def Holds (context : Entries) (condition : Value) : Prop :=
  expressionOf condition ≠ "" ∧ ∃ v, Expr.evaluate (expressionOf condition) context = .ok v ∧ v.truthy = true

/-- Why the expression of the condition has no value, if it has an expression. -/
def failure? (context : Entries) (condition : Value) : Option Expr.EvalError :=
  if expressionOf condition = "" then none
  else match Expr.evaluate (expressionOf condition) context with
    | .error e => some e
    | .ok _ => none

/-- The handle that a condition gives. -/
def handleOf (condition : Value) : Value := (condition.field? "outputHandleId").getD .null

theorem conditionText_of_askable (h : Askable condition) : conditionText condition = .ok (expressionOf condition) := by
  obtain ⟨i, es, rfl, htext⟩ := h
  have hexpression : expressionOf (.dict i es) = match Entries.field es "expression" with
      | .str s => Text.strip s
      | _ => "" := rfl
  rw [hexpression]
  cases he : Entries.field es "expression" with
  | str s =>
    cases htrue : (Value.str s).truthy with
    | true =>
      simp [conditionText, Value.read_dict, Value.orElse, he, htrue, bind, Except.bind, pure, Except.pure]
    | false =>
      obtain rfl : s = "" := by simpa [Value.truthy] using htrue
      simp [conditionText, Value.read_dict, Value.orElse, he, htrue, bind, Except.bind, pure, Except.pure]
  | _ =>
    have hfalse : (Entries.field es "expression").truthy = false := by
      rw [he] at htext ⊢
      simpa [Value.isTextOrFalse] using htext
    rw [he] at hfalse
    have hempty : Text.strip "" = "" := rfl
    simp [conditionText, Value.read_dict, Value.orElse, he, hfalse, hempty, bind, Except.bind, pure, Except.pure]

/-! ## Entries of the log -/

/-- Entries have been added to the log, and records besides. -/
def Logs (w : World) (entries : List LogEntry) (v : World) : Prop :=
  ∃ records, v = { w with log := w.log ++ entries, records }

theorem Logs.trans {u v : World} {es es' : List LogEntry} (h : Logs w es u) (h' : Logs u es' v) :
    Logs w (es ++ es') v := by
  obtain ⟨_, rfl⟩ := h
  obtain ⟨records, rfl⟩ := h'
  exact ⟨records, by rw [List.append_assoc]⟩

theorem Logs.clock {v : World} {es : List LogEntry} (h : Logs w es v) : v.clock = w.clock := by
  obtain ⟨_, rfl⟩ := h
  rfl

/-- The warning about a condition whose expression has no value. -/
def warning (n : Node) (clock index : Nat) (condition : Value) (e : Expr.EvalError) : LogEntry :=
  ⟨n.id.value, n.kind.name, .warning, s!"Condition {index + 1} could not be evaluated",
    .record [("expression", .str (expressionOf condition)), ("error", .str e.message)], clock⟩

/-- The warnings about conditions, `index` being that of the first. -/
def warnings (n : Node) (context : Entries) (clock index : Nat) (conditions : List Value) : List LogEntry :=
  (conditions.zipIdx index).filterMap fun (condition, i) =>
    (failure? context condition).map (warning n clock i condition)

/-- The entry about the condition that holds. -/
def matchEntry (n : Node) (clock index : Nat) (condition : Value) : LogEntry :=
  ⟨n.id.value, n.kind.name, .info, s!"Condition {index + 1} matched",
    .record [("conditionIndex", .int index), ("conditionLabel", (condition.field? "label").getD .null),
      ("selectedHandleId", handleOf condition)], clock⟩

/-- The entry where no condition holds. -/
def defaultEntry (n : Node) (clock : Nat) (handle : Value) : LogEntry :=
  ⟨n.id.value, n.kind.name, .info, "No condition matched", selecting handle, clock⟩

/-! ## The search -/

/-- The nodes have one name and are of one kind. -/
def Namesake (m n : Node) : Prop := m.id = n.id ∧ m.kind = n.kind

/-- A condition that does not hold is passed over, with a warning if its expression has no value. -/
theorem selectFrom_passes_over (plan : Plan) (n : Node) (hask : Askable condition) (hnot : ¬ Holds context condition)
    (index : Nat) (w : World) :
    ∃ v, Logs w (warnings n context w.clock index [condition]) v ∧ ∀ m, Namesake m n → ∀ rest,
      selectFrom plan m context index (condition :: rest) w = selectFrom plan m context (index + 1) rest v := by
  have htext := conditionText_of_askable hask
  by_cases hempty : expressionOf condition = ""
  · have hnone : warnings n context w.clock index [condition] = [] := by simp [warnings, failure?, hempty]
    refine ⟨w.record .control .warning s!"{n.id.text}: condition {index + 1} has an empty expression", ?_, ?_⟩
    · rw [hnone]
      exact ⟨_, by rw [List.append_nil]; rfl⟩
    · rintro ⟨id, kind, label, payload, bindings⟩ ⟨rfl, rfl⟩ rest
      rw [selectFrom, htext, Work.lift_ok, if_pos (by simpa using hempty)]
      rfl
  · have hasked : ¬ (expressionOf condition).isEmpty = true := by simpa using hempty
    cases hvalue : Expr.evaluate (expressionOf condition) context with
    | error e =>
      have hone : warnings n context w.clock index [condition] = [warning n w.clock index condition e] := by
        simp [warnings, failure?, hempty, hvalue]
      refine ⟨w.addEntry plan.sink (warning n w.clock index condition e), ?_, ?_⟩
      · rw [hone]
        exact ⟨_, rfl⟩
      · rintro ⟨id, kind, label, payload, bindings⟩ ⟨rfl, rfl⟩ rest
        rw [selectFrom, htext, Work.lift_ok, if_neg hasked, hvalue]
        rfl
    | ok v =>
      have hfalse : v.truthy = false := by
        rw [Bool.eq_false_iff]
        exact fun htrue => hnot ⟨hempty, v, hvalue, htrue⟩
      have hnone : warnings n context w.clock index [condition] = [] := by
        simp [warnings, failure?, hempty, hvalue]
      refine ⟨w, ?_, fun m _ rest => ?_⟩
      · rw [hnone]
        exact ⟨w.records, by rw [List.append_nil]⟩
      · rw [selectFrom, htext, Work.lift_ok, if_neg hasked, hvalue]
        simp only [hfalse, Bool.false_eq_true, ↓reduceIte]

/-- Any number of conditions that do not hold are passed over, whatever stands behind them. -/
theorem selectFrom_tried (plan : Plan) (n : Node) {tried : List Value} (hask : ∀ c ∈ tried, Askable c)
    (hnot : ∀ c ∈ tried, ¬ Holds context c) (index : Nat) (w : World) :
    ∃ v, Logs w (warnings n context w.clock index tried) v ∧ ∀ m, Namesake m n → ∀ rest,
      selectFrom plan m context index (tried ++ rest) w = selectFrom plan m context (index + tried.length) rest v := by
  induction tried generalizing index w with
  | nil => exact ⟨w, ⟨w.records, by simp [warnings]⟩, fun m _ rest => rfl⟩
  | cons c tried ih =>
    obtain ⟨hc, htried⟩ := List.forall_mem_cons.mp hask
    obtain ⟨hnotc, hnottried⟩ := List.forall_mem_cons.mp hnot
    obtain ⟨u, hlogs, hpass⟩ := selectFrom_passes_over plan n hc hnotc index w
    obtain ⟨v, hlogs', hpass'⟩ := ih htried hnottried (index + 1) u
    refine ⟨v, ?_, fun m hm rest => ?_⟩
    · have hsplit : warnings n context w.clock index (c :: tried) =
          warnings n context w.clock index [c] ++ warnings n context u.clock (index + 1) tried := by
        rw [hlogs.clock, warnings, warnings, warnings, ← List.filterMap_append]
        rfl
      rw [hsplit]
      exact hlogs.trans hlogs'
    · rw [List.cons_append, hpass m hm, hpass' m hm, List.length_cons, Nat.add_assoc, Nat.add_comm 1]

/-- A condition that holds ends the search, whatever stands behind it. -/
theorem selectFrom_holds (plan : Plan) (n : Node) (hask : Askable condition) (hholds : Holds context condition)
    (index : Nat) (w : World) :
    ∃ v, Logs w [matchEntry n w.clock index condition] v ∧ ∀ m, Namesake m n → ∀ rest,
      selectFrom plan m context index (condition :: rest) w = .done v (selecting (handleOf condition)) := by
  obtain ⟨hempty, x, hvalue, htrue⟩ := hholds
  have hasked : ¬ (expressionOf condition).isEmpty = true := by simpa using hempty
  have htext := conditionText_of_askable hask
  obtain ⟨i, es, rfl, -⟩ := hask
  refine ⟨w.addEntry plan.sink (matchEntry n w.clock index (.dict i es)), ⟨_, rfl⟩, ?_⟩
  rintro ⟨id, kind, label, payload, bindings⟩ ⟨rfl, rfl⟩ rest
  rw [selectFrom, htext, Work.lift_ok, if_neg hasked, hvalue]
  simp only [htrue, ↓reduceIte, Value.read_dict, Work.lift_ok]
  rfl

/-! ## Condition nodes -/

/-- How a condition node ends: in the given world, with the given handle selected.  Either a
condition holds and none before it does; then any node of that name and kind with these first
conditions ends in the same way, whatever follows.  Or no condition holds. -/
inductive Selection (plan : Plan) (n : Node) (w : World) (settings context : Entries) :
    List Value → World → Value → Prop
  | first {tried rest : List Value} {condition : Value} {v : World} (hnone : ∀ c ∈ tried, ¬ Holds context c)
      (hholds : Holds context condition)
      (hlogs : Logs w (warnings n context w.clock 0 tried ++ [matchEntry n w.clock tried.length condition]) v)
      (hlater : ∀ m settings' later, Namesake m n → Asks plan m w settings' context (tried ++ condition :: later) →
        Execute.condition plan m w = .done v (selecting (handleOf condition))) :
      Selection plan n w settings context (tried ++ condition :: rest) v (handleOf condition)
  | default {conditions : List Value} {v : World} {handle : Value} (hnone : ∀ c ∈ conditions, ¬ Holds context c)
      (hhandle : handle =
        (Entries.field settings "defaultOutputHandleId").orElse (.str (n.id.text ++ "-output-default")))
      (hlogs : Logs w (warnings n context w.clock 0 conditions ++ [defaultEntry n w.clock handle]) v) :
      Selection plan n w settings context conditions v handle

theorem evaluate_state {state : Value} (h : context.field? "state" = some state) :
    Expr.evaluate "state" context = .ok state := by
  have hstrip : (Text.strip "state").isEmpty = false := by decide +kernel
  have hstatement : Expr.statement? (Expr.normalize "state") = .ok (some (.expression (.name "state"))) := by cbv
  have hname : Expr.eval ⟨context, Expr.normalize "state"⟩ (.name "state") ⟨0, []⟩ = .ok (state, ⟨0, []⟩) := by
    rw [Expr.eval, Expr.lookupName, h]
    rfl
  rw [Expr.evaluate, hstrip, Expr.evalSource, hstatement]
  simp [hname, Except.map]

/-- A condition with the given expression and handle. -/
def asking (expression handle : String) (i : Option MapId := none) : Value :=
  .dict i [(.str "expression", .str expression), (.str "outputHandleId", .str handle)]

/-- A node whose first and last conditions are about unknown names. -/
def threeConditions : Node :=
  ⟨.ofString "c", .condition, .str "c",
    .record [("conditions", .list [asking "x" "a", asking " state" "b", asking "y" "c"])], .null⟩

/-- A world with a state that is not empty. -/
def statefulWorld : World := { World.empty with state := [(.str "k", .int 1)] }

/-- What expressions see of that world where no node has an output. -/
def stateContext : Entries := [(.str "state", .dict none [(.str "k", .int 1)])]

end Workflow.Execute
