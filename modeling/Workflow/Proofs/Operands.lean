import Workflow.Proofs.Spelling

/-!
# Workflow.Proofs.Operands

What is made of the tokens of a formula.

The grammar is read by descent.  A part of a formula is read by the level that it is
bound to, up to a token that may follow it there (`Ends`), into an expression that has
the part's operand as its value (`Reading`).  Operands that one word joins are read into
one list (`Row`), of which evaluation takes the first one that settles the value
(`settled`).
-/

namespace Workflow.Expr

open Parse

/-! ## Single tokens -/

section

variable {α β : Type} {t : Token} {ts ts' : List Token} {w : String}

/-- A reader goes on where the one before it ended. -/
theorem Parse.bind_ok {p : Parse α} {next : α → Parse β} {a : α} (h : p ts = .ok (a, ts')) : (p >>= next) ts = next a ts' := by
  change (p ts >>= fun r => next r.1 r.2) = _
  rw [h]
  rfl

theorem tryWord_same (w : String) (ts : List Token) : tryWord w (.name w :: ts) = .ok (true, ts) := by
  have hword : atWord w (.name w :: ts) = .ok (true, .name w :: ts) := by
    change Except.ok (w == w, _) = _
    rw [beq_self_eq_true]
  rw [tryWord, Parse.bind_ok hword]
  rfl

theorem atWord_other (h : t ≠ .name w) (ts : List Token) : atWord w (t :: ts) = .ok (false, t :: ts) := by
  cases t with
  | name s =>
      have hs : s ≠ w := fun heq => h (by rw [heq])
      change Except.ok (s == w, _) = _
      rw [beq_false_of_ne hs]
  | _ => rfl

theorem tryWord_other (h : t ≠ .name w) (ts : List Token) : tryWord w (t :: ts) = .ok (false, t :: ts) := by
  rw [tryWord, Parse.bind_ok (atWord_other h ts)]
  rfl

theorem atOp_other (h : t ≠ .op w) (ts : List Token) : atOp w (t :: ts) = .ok (false, t :: ts) := by
  cases t with
  | op s =>
      have hs : s ≠ w := fun heq => h (by rw [heq])
      change Except.ok (s == w, _) = _
      rw [beq_false_of_ne hs]
  | _ => rfl

theorem tryOp_other (h : t ≠ .op w) (ts : List Token) : tryOp w (t :: ts) = .ok (false, t :: ts) := by
  rw [tryOp, Parse.bind_ok (atOp_other h ts)]
  rfl

end

/-! ## Where parts begin and end -/

/-- The tokens with which an operand without operators begins. -/
inductive Begins : Token → Prop
  | name {x : String} (hx : x ∉ keywords) : Begins (.name x)
  | opening : Begins (.op "(")

/-- The tokens with which a formula begins. -/
inductive Starts : Token → Prop
  | operand {t : Token} (h : Begins t) : Starts t
  | negation : Starts (.name "not")

/-- The tokens at which a part of a formula ends, by how closely it is bound. -/
inductive Ends : Binding → Token → Prop
  | newline {b : Binding} : Ends b .newline
  | closing {b : Binding} : Ends b (.op ")")
  | disjunction {b : Binding} (hb : b ≠ .disjunction) : Ends b (.name "or")
  | conjunction : Ends .single (.name "and")

theorem Begins.ne_word {t : Token} (h : Begins t) {w : String} (hw : w ∈ keywords) : t ≠ .name w := by
  rintro rfl
  cases h with
  | name hx => exact hx hw

theorem Begins.ne_op {t : Token} (h : Begins t) {w : String} (hw : w ≠ "(") : t ≠ .op w := by
  rintro rfl
  cases h with
  | opening => exact hw rfl

theorem Starts.ne_word {t : Token} (h : Starts t) {w : String} (hw : w ∈ keywords) (hnot : w ≠ "not") : t ≠ .name w := by
  rintro rfl
  cases h with
  | operand h => exact h.ne_word hw rfl
  | negation => exact hnot rfl

theorem Starts.ne_op {t : Token} (h : Starts t) {w : String} (hw : w ≠ "(") : t ≠ .op w := by
  rintro rfl
  cases h with
  | operand h => exact h.ne_op hw rfl

theorem Ends.ne_word {b : Binding} {t : Token} (h : Ends b t) {w : String} (hor : w ≠ "or") (hand : w ≠ "and") :
    t ≠ .name w := by
  rintro rfl
  cases h with
  | disjunction => exact hor rfl
  | conjunction => exact hand rfl

theorem Ends.ne_op {b : Binding} {t : Token} (h : Ends b t) {w : String} (hw : w ≠ ")") : t ≠ .op w := by
  rintro rfl
  cases h with
  | closing => exact hw rfl

/-- What may follow a part may follow one that is bound more closely. -/
theorem Ends.single {b : Binding} {t : Token} (h : Ends b t) : Ends .single t := by
  cases h with
  | newline => exact .newline
  | closing => exact .closing
  | disjunction => exact .disjunction (by simp)
  | conjunction => exact .conjunction

/-! ## The levels below the boolean operators -/

section

variable {b : Binding} {t t' : Token} {ts rest : List Token} {e : Expr}

theorem trailers_ends (h : Ends b t') (fuel : Nat) (e : Expr) : trailers (fuel + 1) e (t' :: rest) = .ok (e, t' :: rest) := by
  rw [trailers]
  cases h <;> rfl

theorem comparisonRest_ends (h : Ends b t') (fuel : Nat) : comparisonRest (fuel + 1) (t' :: rest) = .ok ([], t' :: rest) := by
  rw [comparisonRest]
  cases h <;> rfl

/-- No operator of two operands ends a part. -/
theorem operatorOf?_ends (h : Ends b t') {level : List (String × BinaryOp)} (hlevel : level.lookup ")" = none) :
    operatorOf? level (t' :: rest) = .ok (none, t' :: rest) := by
  cases h with
  | closing =>
      change Except.ok (level.lookup ")", _) = _
      rw [hlevel]
  | _ => rfl

theorem factor_reads {fuel : Nat} (hbegins : Begins t) (hatom : atom (fuel + 1) (t :: ts) = .ok (e, t' :: rest))
    (hends : Ends b t') : factor (fuel + 3) (t :: ts) = .ok (e, t' :: rest) := by
  have hawaited : awaited (fuel + 2) (t :: ts) = .ok (e, t' :: rest) := by
    rw [awaited, Parse.bind_ok (tryWord_other (hbegins.ne_word (by decide)) ts), if_neg Bool.false_ne_true,
      Parse.bind_ok hatom, trailers_ends hends]
  rw [factor, Parse.bind_ok (tryOp_other (hbegins.ne_op (by decide)) ts), if_neg Bool.false_ne_true,
    Parse.bind_ok (tryOp_other (hbegins.ne_op (by decide)) ts), if_neg Bool.false_ne_true,
    Parse.bind_ok (tryOp_other (hbegins.ne_op (by decide)) ts), if_neg Bool.false_ne_true,
    Parse.bind_ok hawaited, Parse.bind_ok (tryOp_other (hends.ne_op (by decide)) rest)]
  rfl

/-- What a factor is read into, the levels of binary operators read it into. -/
theorem binary_reads {levels : List (List (String × BinaryOp))} (hlevels : ∀ level ∈ levels, level.lookup ")" = none)
    (hends : Ends b t') {m : Nat} (hfactor : ∀ fuel, m ≤ fuel → factor fuel ts = .ok (e, t' :: rest)) :
    ∀ fuel, m + levels.length + 1 ≤ fuel → binary fuel levels ts = .ok (e, t' :: rest) := by
  induction levels with
  | nil =>
      intro fuel hfuel
      obtain ⟨fuel, rfl⟩ := Nat.exists_eq_add_of_le' (by omega : 1 ≤ fuel)
      rw [binary]
      exact hfactor fuel (by simpa using hfuel)
  | cons level tighter ih =>
      -- a level reads what the tighter ones do, and then finds no operator of its own
      intro fuel hfuel
      rw [List.length_cons] at hfuel
      obtain ⟨fuel, rfl⟩ := Nat.exists_eq_add_of_le' (by omega : 2 ≤ fuel)
      have hfirst := ih (fun l hl => hlevels l (List.mem_cons_of_mem _ hl)) (fuel + 1) (by omega)
      rw [binary, Parse.bind_ok hfirst, binaryRest,
        Parse.bind_ok (operatorOf?_ends hends (hlevels level List.mem_cons_self))]
      rfl

/-- What an atom is read into, all levels below the boolean operators read it into. -/
theorem inversion_reads (hbegins : Begins t) (hends : Ends b t') {m : Nat}
    (hatom : ∀ fuel, m ≤ fuel → atom fuel (t :: ts) = .ok (e, t' :: rest)) {fuel : Nat} (hfuel : m + 11 ≤ fuel) :
    inversion fuel (t :: ts) = .ok (e, t' :: rest) := by
  have hfactor : ∀ fuel, m + 3 ≤ fuel → factor fuel (t :: ts) = .ok (e, t' :: rest) := by
    intro fuel hfuel
    obtain ⟨fuel, rfl⟩ := Nat.exists_eq_add_of_le' (by omega : 3 ≤ fuel)
    exact factor_reads hbegins (hatom (fuel + 1) (by omega)) hends
  have hlength : binaryLevels.length = 6 := rfl
  obtain ⟨fuel, rfl⟩ := Nat.exists_eq_add_of_le' (by omega : 2 ≤ fuel)
  have hlevels : ∀ level ∈ binaryLevels, level.lookup ")" = none := by decide
  have hbinary := binary_reads hlevels hends hfactor (fuel + 1) (by omega)
  rw [inversion, Parse.bind_ok (tryWord_other (hbegins.ne_word (by decide)) ts), if_neg Bool.false_ne_true,
    Parse.bind_ok hbinary, Parse.bind_ok (comparisonRest_ends hends fuel)]
  rfl

theorem atom_name {x : String} (hx : x ∉ keywords) (fuel : Nat) (ts : List Token) :
    atom (fuel + 1) (.name x :: ts) = .ok (.name x, ts) := by
  have hname : expectName (.name x :: ts) = .ok (x, ts) := by
    change (if keywords.contains x then _ else _ : Parse String) _ = _
    rw [if_neg (by simpa using hx)]
    rfl
  have hpeek : peek (.name x :: ts) = .ok (.name x, .name x :: ts) := rfl
  have hnone : x ≠ "None" := fun heq => hx (by rw [heq]; decide)
  have htrue : x ≠ "True" := fun heq => hx (by rw [heq]; decide)
  have hfalse : x ≠ "False" := fun heq => hx (by rw [heq]; decide)
  rw [atom, Parse.bind_ok hpeek]
  -- the constants come before the names in the match, and all of them are keywords
  simp only
  rw [Parse.bind_ok hname]
  rfl

/-- A formula is read as an expression. -/
theorem expression_reads (hstarts : Starts t) (hends : Ends b t') {fuel : Nat}
    (hdisjunction : disjunction fuel (t :: ts) = .ok (e, t' :: rest)) :
    expression (fuel + 1) (t :: ts) = .ok (e, t' :: rest) := by
  rw [expression, Parse.bind_ok (tryWord_other (hstarts.ne_word (by decide) (by decide)) ts), if_neg Bool.false_ne_true,
    Parse.bind_ok hdisjunction, Parse.bind_ok (tryWord_other (hends.ne_word (by decide) (by decide)) rest)]
  rfl

/-- A formula between brackets is read as an operand. -/
theorem parenthesis_reads (hstarts : Starts t) (hnamed : ∀ more, ts ≠ .op ":=" :: more) {fuel : Nat}
    (hdisjunction : disjunction fuel (t :: ts) = .ok (e, .op ")" :: rest)) (hstarred : ∀ e', e ≠ .starred e') :
    parenthesis (fuel + 4) (t :: ts) = .ok (e, rest) := by
  have hitem : item (fuel + 3) (t :: ts) = .ok (e, .op ")" :: rest) := by
    have hexpression := expression_reads hstarts (.closing (b := .disjunction)) hdisjunction
    have hget : (get : Parse (List Token)) (t :: ts) = .ok (t :: ts, t :: ts) := rfl
    rw [item, Parse.bind_ok (tryOp_other (hstarts.ne_op (by decide)) ts), if_neg Bool.false_ne_true, namedExpression,
      Parse.bind_ok hget]
    refine (congrFun (?_ : _ = expression (fuel + 1)) _).trans hexpression
    split
    next heq => exact absurd (List.cons.inj heq).2 (hnamed _)
    next => rfl
  have hclosing : expectOp ")" (.op ")" :: rest) = .ok ((), rest) := rfl
  rw [parenthesis, Parse.bind_ok (tryOp_other (hstarts.ne_op (by decide)) ts), if_neg Bool.false_ne_true,
    Parse.bind_ok (atWord_other (hstarts.ne_word (by decide) (by decide)) ts), if_neg Bool.false_ne_true,
    Parse.bind_ok hitem, Parse.bind_ok (atWord_other (by simp) rest), Parse.bind_ok (atWord_other (by simp) rest),
    Bool.or_self, if_neg Bool.false_ne_true, Parse.bind_ok (atOp_other (by simp) rest), if_neg Bool.false_ne_true]
  refine (congrFun (?_ : _ = (do expectOp ")"; return e : Parse Expr)) _).trans (by rw [Parse.bind_ok hclosing]; rfl)
  cases e with
  | starred e' => exact absurd rfl (hstarred e')
  | _ => rfl

end

/-! ## Readings -/

/-- An expression that has a value in a context, whatever the source says, and is
evaluated without steps. -/
def Means (context : Entries) (e : Expr) (v : Value) : Prop :=
  ∀ source, eval ⟨context, source⟩ e ⟨0, []⟩ = .ok (v, ⟨0, []⟩)

/-- A part of a formula is read into an expression that means a value.  How long the
reader may take goes with the number of tokens; `slack` is for the levels above them. -/
structure Reading (reader : Nat → Parse Expr) (b : Binding) (slack : Nat) (context : Entries) (ts : List Token)
    (e : Expr) (v : Value) : Prop where
  reads : ∀ {fuel t} (rest : List Token), 32 * ts.length + slack ≤ fuel → Ends b t → reader fuel (ts ++ t :: rest) = .ok (e, t :: rest)
  means : Means context e v

/-- An operand without operators. -/
abbrev Operand (context : Entries) := Reading inversion .single 0 context

/-- Operands joined by `and`. -/
abbrev Conjoined (context : Entries) := Reading conjunction .conjunction 4 context

/-- Conjunctions joined by `or`. -/
abbrev Disjoined (context : Entries) := Reading disjunction .disjunction 8 context

section

variable {context : Entries} {ts : List Token} {e : Expr} {v : Value}

/-- What means a value is not refused. -/
theorem Means.not_starred (h : Means context e v) (e' : Expr) : e ≠ .starred e' := by
  rintro rfl
  have hfails := h ""
  rw [eval] at hfails
  cases hfails

/-- An evaluation goes on with what an expression means. -/
theorem Means.bind {α : Type} (h : Means context e v) (source : String) (next : Value → Eval α) :
    (eval ⟨context, source⟩ e >>= next) ⟨0, []⟩ = next v ⟨0, []⟩ := by
  change (eval ⟨context, source⟩ e ⟨0, []⟩ >>= fun r => next r.1 r.2) = _
  rw [h source]
  rfl

theorem Operand.name {x : String} (hx : x ∉ keywords) (hv : Entries.field? context x = some v) :
    Operand context [.name x] (.name x) v where
  reads {fuel t} rest hfuel hends := by
    refine inversion_reads (m := 1) (.name hx) hends (fun fuel hfuel => ?_) (by simp at hfuel; omega)
    obtain ⟨fuel, rfl⟩ := Nat.exists_eq_add_of_le' hfuel
    exact atom_name hx fuel _
  means source := by
    change lookupName ⟨context, source⟩ x ⟨0, []⟩ = _
    simp only [lookupName, hv]
    rfl

theorem Operand.not (h : Operand context ts e v) :
    Operand context (.name "not" :: ts) (.unary .not e) (.bool !v.truthy) where
  reads {fuel t} rest hfuel hends := by
    rw [List.length_cons] at hfuel
    obtain ⟨fuel, rfl⟩ := Nat.exists_eq_add_of_le' (by omega : 1 ≤ fuel)
    rw [List.cons_append, inversion, Parse.bind_ok (tryWord_same "not" _), if_pos rfl, Parse.bind_ok (h.reads rest (by omega) hends)]
    rfl
  means source := by
    rw [eval, h.means.bind]
    rfl

/-- A part between brackets is an operand. -/
theorem Disjoined.bracketed {t : Token} (h : Disjoined context (t :: ts) e v) (hstarts : Starts t)
    (hnamed : .op ":=" ∉ ts) : Operand context (.op "(" :: (t :: ts ++ [.op ")"])) e v where
  reads {fuel t'} rest hfuel hends := by
    have hshape : .op "(" :: (t :: ts ++ [.op ")"]) ++ t' :: rest = .op "(" :: t :: (ts ++ .op ")" :: t' :: rest) := by simp
    have hlength : (.op "(" :: (t :: ts ++ [.op ")"])).length = ts.length + 3 := by simp
    rw [hlength] at hfuel
    rw [hshape]
    refine inversion_reads (m := 32 * (ts.length + 1) + 13) .opening hends (fun fuel hfuel => ?_) (by omega)
    obtain ⟨fuel, rfl⟩ := Nat.exists_eq_add_of_le' (by omega : 5 ≤ fuel)
    have hinner : disjunction fuel (t :: (ts ++ .op ")" :: t' :: rest)) = .ok (e, .op ")" :: t' :: rest) :=
      h.reads (t' :: rest) (by rw [List.length_cons]; omega) .closing
    have hnamed' : ∀ more, ts ++ .op ")" :: t' :: rest ≠ .op ":=" :: more := by
      intro more heq
      cases ts with
      | nil => simp at heq
      | cons t ts => exact hnamed (by rw [(List.cons.inj heq).1]; exact List.mem_cons_self)
    have hatom : atom (fuel + 5) (.op "(" :: t :: (ts ++ .op ")" :: t' :: rest)) =
        parenthesis (fuel + 4) (t :: (ts ++ .op ")" :: t' :: rest)) := by
      rw [atom]
      rfl
    rw [hatom]
    exact parenthesis_reads hstarts hnamed' hinner h.means.not_starred
  means := h.means

end

/-! ## Operands that one word joins -/

/-- The first value that settles the matter, or else the last one. -/
def settled (settles : Value → Bool) : List Value → Value
  | [] => .bool false
  | v :: vs => if vs.isEmpty || settles v then v else settled settles vs

theorem settled_append {settles : Value → Bool} {vs ws : List Value} (hvs : vs ≠ []) (hws : ws ≠ []) :
    settled settles (vs ++ ws) =
      if settles (settled settles vs) then settled settles vs else settled settles ws := by
  induction vs with
  | nil => exact absurd rfl hvs
  | cons v vs ih =>
      cases hv : settles v with
      | true => simp [settled, hv]
      | false =>
          cases vs with
          | nil => simp [settled, hv, hws]
          | cons v' vs =>
              have ih := ih (by simp)
              rw [List.cons_append, settled, settled, hv]
              simpa using ih

/-- Parts that a word joins, each with the expression that it is read into and the
value which that means. -/
inductive Row (part : List Token → Expr → Value → Prop) (word : String) : List Token → List Expr → List Value → Prop
  | single {ts e v} (h : part ts e v) : Row part word ts [e] [v]
  | cons {ts e v ts' es vs} (h : part ts e v) (hs : Row part word ts' es vs) :
      Row part word (ts ++ .name word :: ts') (e :: es) (v :: vs)

section

variable {part : List Token → Expr → Value → Prop} {word : String} {ts ts' : List Token} {es es' : List Expr} {vs vs' : List Value}

theorem Row.ne_nil (h : Row part word ts es vs) : es ≠ [] ∧ vs ≠ [] := by
  cases h <;> exact ⟨by simp, by simp⟩

theorem Row.append (h : Row part word ts es vs) (h' : Row part word ts' es' vs') :
    Row part word (ts ++ .name word :: ts') (es ++ es') (vs ++ vs') := by
  induction h with
  | single h => exact .cons h h'
  | cons h _ ih =>
      rw [List.append_assoc, List.cons_append]
      exact .cons h ih

end

/-- A reader of the further parts that a word joins. -/
structure Joins (word : String) (inner outer : Binding) (reader : Nat → Parse Expr) (further : Nat → Parse (List Expr)) :
    Prop where
  word_ends : Ends inner (.name word)
  inner_ends : ∀ {t}, Ends outer t → Ends inner t
  goes_on : ∀ fuel ts, further (fuel + 1) (.name word :: ts) =
    (do let e ← reader fuel; let es ← further fuel; return e :: es : Parse (List Expr)) ts
  stops : ∀ {t}, Ends outer t → ∀ fuel ts, further (fuel + 1) (t :: ts) = .ok ([], t :: ts)

theorem conjunctionRest_joins : Joins "and" .single .conjunction inversion conjunctionRest where
  word_ends := .conjunction
  inner_ends := Ends.single
  goes_on fuel ts := by
    rw [conjunctionRest, Parse.bind_ok (tryWord_same "and" ts)]
    rfl
  stops {t} h fuel ts := by
    have ht : t ≠ .name "and" := by cases h <;> simp
    rw [conjunctionRest, Parse.bind_ok (tryWord_other ht ts)]
    rfl

theorem disjunctionRest_joins : Joins "or" .conjunction .disjunction conjunction disjunctionRest where
  word_ends := .disjunction (by simp)
  inner_ends {t} h := by
    cases h with
    | newline => exact .newline
    | closing => exact .closing
    | disjunction hb => exact absurd rfl hb
  goes_on fuel ts := by
    rw [disjunctionRest, Parse.bind_ok (tryWord_same "or" ts)]
    rfl
  stops {t} h fuel ts := by
    have ht : t ≠ .name "or" := by
      rintro rfl
      cases h with
      | disjunction hb => exact hb rfl
    rw [disjunctionRest, Parse.bind_ok (tryWord_other ht ts)]
    rfl

/-- The parts that a word joins are read one after the other. -/
theorem Joins.reads {word : String} {inner outer : Binding} {reader : Nat → Parse Expr} {further : Nat → Parse (List Expr)}
    {slack : Nat} {context : Entries} {ts : List Token} {es : List Expr} {vs : List Value}
    (hjoins : Joins word inner outer reader further) (h : Row (Reading reader inner slack context) word ts es vs) :
    ∀ {fuel : Nat} {t : Token} (rest : List Token), 32 * ts.length + slack + 1 ≤ fuel → Ends outer t →
      ∃ e es' mid, es = e :: es' ∧ reader fuel (ts ++ t :: rest) = .ok (e, mid) ∧ further fuel mid = .ok (es', t :: rest) := by
  induction h with
  | single h =>
      intro fuel t rest hfuel hends
      have hreader := h.reads rest (by omega : _ ≤ fuel) (hjoins.inner_ends hends)
      obtain ⟨fuel, rfl⟩ := Nat.exists_eq_add_of_le' (by omega : 1 ≤ fuel)
      exact ⟨_, [], _, rfl, hreader, hjoins.stops hends fuel rest⟩
  | @cons ts e v ts' es vs h _ ih =>
      -- each further part costs one level of the fuel, and there is the joining word to pay for it
      intro fuel t rest hfuel hends
      rw [List.length_append, List.length_cons] at hfuel
      have hreader := h.reads (ts' ++ t :: rest) (by omega : _ ≤ fuel) hjoins.word_ends
      obtain ⟨fuel, rfl⟩ := Nat.exists_eq_add_of_le' (by omega : 1 ≤ fuel)
      obtain ⟨e', es', mid, rfl, hnext, hfurther⟩ := ih rest (by omega : _ ≤ fuel) hends
      refine ⟨e, e' :: es', .name word :: (ts' ++ t :: rest), rfl, by simpa using hreader, ?_⟩
      rw [hjoins.goes_on, Parse.bind_ok hnext, Parse.bind_ok hfurther]
      rfl

/-- The expression of parts that a word joins; a part that stands alone is itself. -/
def joined (make : List Expr → Expr) : List Expr → Expr
  | [e] => e
  | es => make es

section

variable {context : Entries} {word : String} {ts : List Token} {es : List Expr} {vs : List Value}
  {part : List Token → Expr → Value → Prop}

/-- Where operands are evaluated one by one up to the first that settles the matter, that
is what the parts of a row come to. -/
theorem Row.evaluates (h : Row part word ts es vs) (hpart : ∀ {ts e v}, part ts e v → Means context e v) {source : String}
    {settles : Value → Bool} {operands : List Expr → Eval Value} (hoperands : ∀ e es, operands (e :: es) = (do
      let v ← eval ⟨context, source⟩ e
      if es.isEmpty || settles v then return v else operands es)) :
    operands es ⟨0, []⟩ = .ok (settled settles vs, ⟨0, []⟩) := by
  induction h with
  | @single ts e v h =>
      rw [hoperands, (hpart h).bind]
      rfl
  | @cons ts e v ts' es vs h hs ih =>
      rw [hoperands, (hpart h).bind, settled, List.isEmpty_eq_false_iff.mpr hs.ne_nil.1,
        List.isEmpty_eq_false_iff.mpr hs.ne_nil.2]
      cases hv : settles v with
      | true => rfl
      | false => exact ih

/-- What joined parts mean is the value that settles the matter among theirs. -/
theorem Row.means_joined (h : Row part word ts es vs) (hpart : ∀ {ts e v}, part ts e v → Means context e v)
    {settles : Value → Bool} {make : List Expr → Expr} (hmake : Means context (make es) (settled settles vs)) :
    Means context (joined make es) (settled settles vs) := by
  cases h with
  | single h => exact hpart h
  | cons _ hs =>
      cases hs <;> exact hmake

/-- Operands joined by `and` are read as their conjunction. -/
theorem Row.conjoined (h : Row (Operand context) "and" ts es vs) :
    Conjoined context ts (joined .every es) (settled (!·.truthy) vs) where
  reads {fuel t} rest hfuel hends := by
    obtain ⟨fuel, rfl⟩ := Nat.exists_eq_add_of_le' (by omega : 1 ≤ fuel)
    obtain ⟨e, es', mid, rfl, hreader, hfurther⟩ := conjunctionRest_joins.reads h rest (by omega : _ ≤ fuel) hends
    rw [conjunction, Parse.bind_ok hreader, Parse.bind_ok hfurther]
    cases es' <;> rfl
  means := h.means_joined Reading.means fun _ => h.evaluates Reading.means fun e es => by rw [evalEvery]

/-- Conjunctions joined by `or` are read as their disjunction. -/
theorem Row.disjoined (h : Row (Conjoined context) "or" ts es vs) :
    Disjoined context ts (joined .some es) (settled Value.truthy vs) where
  reads {fuel t} rest hfuel hends := by
    obtain ⟨fuel, rfl⟩ := Nat.exists_eq_add_of_le' (by omega : 1 ≤ fuel)
    obtain ⟨e, es', mid, rfl, hreader, hfurther⟩ := disjunctionRest_joins.reads h rest (by omega : _ ≤ fuel) hends
    rw [disjunction, Parse.bind_ok hreader, Parse.bind_ok hfurther]
    cases es' <;> rfl
  means := h.means_joined Reading.means fun _ => h.evaluates Reading.means fun e es => by rw [evalSome]

end

end Workflow.Expr
