import Workflow.Proofs.Operands

/-!
# Workflow.Proofs.Conditions

What a text that is a formula evaluates to.

A formula is read part by part, as it is written (`Written.readable`).  A text that is a
formula is one statement, the formula's expression, and its value is the operand that the
formula comes to (`evaluate_formula`).
-/

namespace Workflow.Expr

open Parse

/-! ## Formulas as they are written -/

theorem Sign.token_ne_named (s : Sign) : s.token ≠ .op ":=" := by
  cases s <;> simp [Sign.token]

theorem Written.starts {b : Binding} {f : Formula} {signs : List Sign} (h : Written b f signs)
    (hnames : ∀ x ∈ f.names, x ∉ keywords) : ∃ s more, signs = s :: more ∧ Starts s.token := by
  induction h with
  | name x => exact ⟨_, _, rfl, .operand (.name (hnames x List.mem_cons_self))⟩
  | bracketed => exact ⟨_, _, rfl, .operand .opening⟩
  | negation => exact ⟨_, _, rfl, .negation⟩
  | single _ ih | conjoined _ ih => exact ih hnames
  | conjunction _ _ ih _ | disjunction _ _ ih _ =>
      obtain ⟨s, more, rfl, hstarts⟩ := ih fun x hx => hnames x (List.mem_append_left _ hx)
      exact ⟨s, _, rfl, hstarts⟩

section

variable {context : Entries} {values : String → Value}

/-- The tokens are read into what means the operand of a formula, as one operand or as
several that a word joins. -/
def Readable (context : Entries) (values : String → Value) : Binding → Formula → List Token → Prop
  | .single, f, ts => ∃ e, Operand context ts e (f.operand values)
  | .conjunction, f, ts =>
    ∃ es vs, Row (Operand context) "and" ts es vs ∧ f.operand values = settled (!·.truthy) vs
  | .disjunction, f, ts =>
    ∃ es vs, Row (Conjoined context) "or" ts es vs ∧ f.operand values = settled Value.truthy vs

/-- A formula is read as it is written. -/
theorem Written.readable {b : Binding} {f : Formula} {signs : List Sign} (h : Written b f signs)
    (hnames : ∀ x ∈ f.names, x ∉ keywords ∧ Entries.field? context x = some (values x)) :
    Readable context values b f (signs.map Sign.token) := by
  induction h with
  | name x =>
      obtain ⟨hfree, hvalue⟩ := hnames x List.mem_cons_self
      exact ⟨_, .name hfree hvalue⟩
  | @bracketed f signs h ih =>
      obtain ⟨es, vs, hrow, hvalue⟩ := ih hnames
      obtain ⟨s, more, rfl, hstarts⟩ := h.starts fun x hx => (hnames x hx).1
      have hnamed : Token.op ":=" ∉ more.map Sign.token := by simp [Sign.token_ne_named]
      have hoperand := hrow.disjoined.bracketed hstarts hnamed
      rw [← hvalue] at hoperand
      exact ⟨_, by simpa [Sign.token] using hoperand⟩
  | negation _ ih =>
      obtain ⟨e, hoperand⟩ := ih hnames
      exact ⟨_, hoperand.not⟩
  | single _ ih =>
      obtain ⟨e, hoperand⟩ := ih hnames
      exact ⟨_, _, .single hoperand, rfl⟩
  | conjoined _ ih =>
      obtain ⟨es, vs, hrow, hvalue⟩ := ih hnames
      exact ⟨_, _, .single hrow.conjoined, hvalue⟩
  | conjunction _ _ ihf ihg =>
      obtain ⟨es, vs, hrow, hvalue⟩ := ihf fun x hx => hnames x (List.mem_append_left _ hx)
      obtain ⟨es', vs', hrow', hvalue'⟩ := ihg fun x hx => hnames x (List.mem_append_right _ hx)
      refine ⟨es ++ es', vs ++ vs', ?_, ?_⟩
      · rw [List.map_append, List.map_cons]
        exact hrow.append hrow'
      · rw [Formula.operand, hvalue, hvalue', settled_append hrow.ne_nil.2 hrow'.ne_nil.2]
        cases (settled (!·.truthy) vs).truthy <;> rfl
  | disjunction _ _ ihf ihg =>
      obtain ⟨es, vs, hrow, hvalue⟩ := ihf fun x hx => hnames x (List.mem_append_left _ hx)
      obtain ⟨es', vs', hrow', hvalue'⟩ := ihg fun x hx => hnames x (List.mem_append_right _ hx)
      refine ⟨es ++ es', vs ++ vs', ?_, ?_⟩
      · rw [List.map_append, List.map_cons]
        exact hrow.append hrow'
      · rw [Formula.operand, hvalue, hvalue', settled_append hrow.ne_nil.2 hrow'.ne_nil.2]

end

/-! ## Statements -/

section

variable {t : Token} {ts rest : List Token} {e : Expr} {fuel : Nat}

theorem expressions_reads (hstarts : Starts t) (hexpression : expression fuel (t :: ts) = .ok (e, .newline :: rest)) :
    expressions (fuel + 2) (t :: ts) = .ok (e, .newline :: rest) := by
  have hspread : spread (fuel + 1) (t :: ts) = .ok (e, .newline :: rest) := by
    rw [spread, Parse.bind_ok (tryOp_other (hstarts.ne_op (by decide)) ts), if_neg Bool.false_ne_true]
    exact hexpression
  rw [expressions, Parse.bind_ok hspread]
  rfl

/-- A formula is a statement of its own. -/
theorem simpleStatement_reads (hstarts : Starts t) (hexpressions : expressions fuel (t :: ts) = .ok (e, .newline :: rest)) :
    simpleStatement fuel (t :: ts) = .ok (.expression e, .newline :: rest) := by
  have hpeek : peek (t :: ts) = .ok (t, t :: ts) := rfl
  rw [simpleStatement, Parse.bind_ok hpeek]
  split
  case h_13 =>
    rw [Parse.bind_ok hexpressions]
    rfl
  all_goals exact absurd rfl (hstarts.ne_word (by decide) (by decide))

theorem statement_reads (hstarts : Starts t) (hstatement : simpleStatement fuel (t :: ts) = .ok (.expression e, .newline :: rest)) :
    statement (fuel + 2) (t :: ts) = .ok ([.expression e], rest) := by
  have hget : (get : Parse (List Token)) (t :: ts) = .ok (t :: ts, t :: ts) := rfl
  have hsimple : simpleStatements (fuel + 1) (t :: ts) = .ok ([.expression e], rest) := by
    rw [simpleStatements, Parse.bind_ok hstatement]
    rfl
  rw [statement, Parse.bind_ok hget]
  refine (congrFun (?_ : _ = simpleStatements (fuel + 1)) _).trans hsimple
  -- every statement of another kind begins with a word or a sign that begins no formula
  split
  case h_12 => rfl
  case h_11 heq => exact absurd (List.cons.inj heq).1 (hstarts.ne_op (by decide))
  all_goals rename_i heq; exact absurd (List.cons.inj heq).1 (hstarts.ne_word (by decide) (by decide))

/-- Tokens that are a formula are a single statement. -/
theorem statements_reads (hstarts : Starts t) (hexpression : expression fuel (t :: ts) = .ok (e, [.newline, .stop])) :
    statements (fuel + 5) (t :: ts) = .ok ([.expression e], [.stop]) := by
  have hpeek : peek (t :: ts) = .ok (t, t :: ts) := rfl
  have hstatement := statement_reads hstarts (simpleStatement_reads hstarts (expressions_reads hstarts hexpression))
  have hstop : statements (fuel + 4) [.stop] = .ok ([], [.stop]) := by
    rw [statements]
    rfl
  have hrest : (do
      let first ← statement (fuel + 4)
      let rest ← statements (fuel + 4)
      return first ++ rest : Parse (List Statement)) (t :: ts) = .ok ([.expression e], [.stop]) := by
    rw [Parse.bind_ok hstatement, Parse.bind_ok hstop]
    rfl
  rw [statements, Parse.bind_ok hpeek]
  refine (congrFun ?_ (t :: ts)).trans hrest
  cases hstarts with
  | negation => rfl
  | operand hbegins => cases hbegins <;> rfl

end

/-! ## Texts -/

section

variable {context : Entries} {values : String → Value}

/-- The statement of a text that is a formula means the operand that the formula comes to. -/
theorem statement?_formula {f : Formula} {signs : List Sign} {cs : List Char} (hwritten : Written .disjunction f signs)
    (hspaced : Spaced signs cs) (hnames : ∀ x ∈ f.names, IsName x)
    (hvalues : ∀ x ∈ f.names, Entries.field? context x = some (values x)) :
    ∃ e, statement? (normalize (String.ofList cs)) = .ok (some (.expression e)) ∧ Means context e (f.operand values) := by
  obtain ⟨es, vs, hrow, hvalue⟩ := hwritten.readable fun x hx => ⟨(hnames x hx).free, hvalues x hx⟩
  obtain ⟨s, more, rfl, hstarts⟩ := hwritten.starts fun x hx => (hnames x hx).free
  have hlength := (delimited_normalize hwritten hspaced hnames).1.length_le fun x hx => hnames x (hwritten.names hx)
  have htokens := tokens_normalize hwritten hspaced hnames
  generalize normalize (String.ofList cs) = source at hlength htokens ⊢
  have hmeans := hrow.disjoined.means
  rw [← hvalue] at hmeans
  refine ⟨_, ?_, hmeans⟩
  rw [List.length_cons, String.length_toList] at hlength
  obtain ⟨fuel, hfuel⟩ := Nat.exists_eq_add_of_le' (by omega : 6 ≤ 64 * (source.length + 4))
  have hdisjunction : disjunction fuel (s.token :: (more.map Sign.token ++ [.newline, .stop])) = _ :=
    hrow.disjoined.reads [.stop] (by rw [List.length_map, List.length_cons]; omega) .newline
  have hstatements := statements_reads hstarts (expression_reads hstarts (.newline (b := .disjunction)) hdisjunction)
  rw [statement?, htokens]
  change ((statements (64 * (source.length + 4))) _ >>= fun r => _) = _
  rw [hfuel, List.map_cons, List.cons_append, hstatements]
  rfl

/-- A text that is a formula over names of the context evaluates to the operand that the
formula comes to, which is true where the formula holds. -/
theorem evaluate_formula {f : Formula} {signs : List Sign} {cs : List Char} (hwritten : Written .disjunction f signs)
    (hspaced : Spaced signs cs) (hnames : ∀ x ∈ f.names, IsName x)
    (hvalues : ∀ x ∈ f.names, Entries.field? context x = some (values x)) :
    evaluate (String.ofList cs) context = .ok (f.operand values) ∧
      (f.operand values).truthy = f.holds fun x => (values x).truthy := by
  refine ⟨?_, f.truthy_operand values⟩
  obtain ⟨e, hstatement, hmeans⟩ := statement?_formula hwritten hspaced hnames hvalues
  have hstrip := hspaced.strip_ne hwritten.ne_nil fun x hx => hnames x (hwritten.names hx)
  have hsource : evalSource ⟨context, normalize (String.ofList cs)⟩ = .ok (f.operand values) := by
    rw [evalSource, hstatement]
    change (eval _ e ⟨0, []⟩).map (·.1) = _
    rw [hmeans]
    rfl
  rw [evaluate, hstrip, hsource]
  rfl

end

/-- Where a conjunction holds, its negation gives way to what stands behind `||`. -/
theorem evaluate_negated_conjunction :
    evaluate "!(a&&b) ||  c" [(.str "a", .int 3), (.str "b", .bool true), (.str "c", .str "spare")] = .ok (.str "spare") ∧
      (Value.str "spare").truthy = (Formula.or (.not (.and (.name "a") (.name "b"))) (.name "c")).holds fun _ => true := by
  let f : Formula := .or (.not (.and (.name "a") (.name "b"))) (.name "c")
  let values : String → Value := fun x => if x = "a" then .int 3 else if x = "b" then .bool true else .str "spare"
  have hwritten : Written .disjunction f _ :=
    .disjunction (.conjoined (.single (.negation (.bracketed (.conjoined (.conjunction (.single (.name "a"))
      (.single (.name "b")))))))) (.conjoined (.single (.name "c")))
  have hspaced : Spaced _ _ := .sign .negation (.sign .opening (.sign (.name "a") (.sign .conjunction (.sign (.name "b")
    (.sign .closing (.space (.sign .disjunction (.space (.space (.sign (.name "c") .nil))))))))))
  have hname : ∀ x ∈ f.names, IsName x := by
    intro x hx
    have hx : x = "a" ∨ x = "b" ∨ x = "c" := by simpa [f, Formula.names] using hx
    rcases hx with rfl | rfl | rfl <;> exact ⟨⟨_, [], rfl, by decide⟩, List.all_eq_true.mp rfl, by decide⟩
  have hvalues : ∀ x ∈ f.names, Entries.field? [(.str "a", .int 3), (.str "b", .bool true), (.str "c", .str "spare")] x =
      some (values x) := by
    intro x hx
    have hx : x = "a" ∨ x = "b" ∨ x = "c" := by simpa [f, Formula.names] using hx
    rcases hx with rfl | rfl | rfl <;> rfl
  exact evaluate_formula hwritten hspaced hname hvalues

end Workflow.Expr
