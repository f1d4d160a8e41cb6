import Workflow.Proofs.Spelling

/-!
# Workflow.Proofs.Division

Literals and operators of an expression, and what becomes of them when operators
turn into words.

1. `Divided` says how a text is divided from the left: at each place stands a
   literal, an operator, or else a single character at which neither begins.  Every
   text has exactly one division, which is `segments` (`divided_iff`).
2. With words for its operators a text has the same literals and no operators
   (`Divided.spelled`), since whether an open quote is ever closed hangs on no operator
   (`closes_spelled`).  Blanks at the ends change nothing about that.
3. So `normalize` keeps the literals, leaves no operator, and changes nothing when it
   is applied again (`operators_rewritten`).
-/

namespace Workflow.Expr

/-! ## Literals and operators -/

/-- What may stand between two quotes: a backslash takes the character behind it along,
which cannot be a line feed. -/
inductive Quoted (quote : Char) : List Char → Prop
  | nil : Quoted quote []
  | escaped {c : Char} {cs : List Char} (hc : c ≠ '\n') (h : Quoted quote cs) : Quoted quote ('\\' :: c :: cs)
  | plain {c : Char} {cs : List Char} (hquote : c ≠ quote) (hslash : c ≠ '\\') (h : Quoted quote cs) :
      Quoted quote (c :: cs)

/-- Is the character a quote? -/
def IsQuote (c : Char) : Prop := c = '"' ∨ c = '\''

/-- A literal: a text between two quotes of one kind. -/
inductive IsLiteral : List Char → Prop
  | intro {quote : Char} {body : List Char} (hquote : IsQuote quote) (h : Quoted quote body) :
      IsLiteral (quote :: (body ++ [quote]))

/-- The operator in C spelling. -/
def BoolOperator.sign : BoolOperator → List Char
  | .conjunction => ['&', '&']
  | .disjunction => ['|', '|']
  | .negation => ['!']

/-- Can the operator stand before the text?  A negation cannot stand before an equals sign. -/
def BoolOperator.Before (op : BoolOperator) (cs : List Char) : Prop := op = .negation → cs.head? ≠ some '='

/-- A literal or an operator begins the text. -/
inductive BeginsSegment : List Char → Prop
  | literal {text : List Char} (cs : List Char) (h : IsLiteral text) : BeginsSegment (text ++ cs)
  | operator (op : BoolOperator) {cs : List Char} (h : op.Before cs) : BeginsSegment (op.sign ++ cs)

/-- The divisions of a text into literals, operators and other characters, from the left. -/
inductive Divided : List Char → List Segment → Prop
  | nil : Divided [] []
  | literal {text cs segs} (htext : IsLiteral text) (h : Divided cs segs) :
      Divided (text ++ cs) (.literal text :: segs)
  | operator (op : BoolOperator) {cs segs} (hop : op.Before cs) (h : Divided cs segs) :
      Divided (op.sign ++ cs) (.operator op :: segs)
  | other {c cs segs} (hfree : ¬ BeginsSegment (c :: cs)) (h : Divided cs segs) : Divided (c :: cs) (.other c :: segs)

/-! ## Open quotes -/

/-- Is a quote, open before the text, ever closed in it?  The text may begin behind a
backslash that takes its first character along. -/
def closes (quote : Char) : Bool → List Char → Bool
  | _, [] => false
  | true, c :: cs => c ≠ '\n' && closes quote false cs
  | false, c :: cs => c = quote || closes quote (c = '\\') cs

section Closes

variable {quote : Char} {cs ds : List Char}

theorem Quoted.closes {body : List Char} (h : Quoted quote body) (rest : List Char) :
    closes quote false (body ++ quote :: rest) = true := by
  induction h with
  | nil => simp [Expr.closes]
  | escaped hc _ ih => simp [Expr.closes, hc, ih]
  | plain hquote hslash _ ih => simp [Expr.closes, hslash, ih]

/-- Where a quote is closed, what stands before that is the body of a literal. -/
theorem quoted_of_closes (h : closes quote false cs = true) :
    ∃ body rest, cs = body ++ quote :: rest ∧ Quoted quote body := by
  induction cs using List.twoStepInduction with
  | nil => cases h
  | singleton c =>
      obtain rfl : c = quote := by cases hslash : decide (c = '\\') <;> simpa [closes, hslash] using h
      exact ⟨[], [], rfl, .nil⟩
  | cons_cons c d cs ih ih' =>
      by_cases hquote : c = quote
      · subst hquote
        exact ⟨[], d :: cs, rfl, .nil⟩
      · by_cases hslash : c = '\\'
        · subst hslash
          obtain ⟨hline, hrest⟩ : d ≠ '\n' ∧ closes quote false cs = true := by simpa [closes, hquote] using h
          obtain ⟨body, rest, rfl, hbody⟩ := ih hrest
          exact ⟨'\\' :: d :: body, rest, rfl, .escaped hline hbody⟩
        · have hrest : closes quote false (d :: cs) = true := by
            rw [closes, decide_eq_false hquote, decide_eq_false hslash] at h
            exact h
          obtain ⟨body, rest, hsplit, hbody⟩ := ih' d hrest
          exact ⟨c :: body, rest, by rw [hsplit]; rfl, .plain hquote hslash hbody⟩

/-- What a quote comes to behind a common beginning hangs on what it comes to in the rest. -/
theorem closes_append (h : ∀ escaped, closes quote escaped cs = closes quote escaped ds) (word : List Char)
    (escaped : Bool) : closes quote escaped (word ++ cs) = closes quote escaped (word ++ ds) := by
  induction word generalizing escaped with
  | nil => exact h escaped
  | cons c word ih => cases escaped <;> simp [closes, ih]

/-- A sign and its word are alike to an open quote. -/
theorem closes_operator (hquote : IsQuote quote) (op : BoolOperator) (escaped : Bool) (cs : List Char) :
    closes quote escaped (op.word ++ cs) = closes quote escaped (op.sign ++ cs) := by
  obtain rfl | rfl := hquote <;> cases op <;> cases escaped <;> simp [closes, BoolOperator.word, BoolOperator.sign]

theorem IsQuote.ne_of_isSpace {c : Char} (hquote : IsQuote quote) (hc : Text.isSpace c = true) : c ≠ quote := by
  rintro rfl
  obtain rfl | rfl := hquote <;> exact absurd hc (by decide)

/-- Blanks close no quote. -/
theorem closes_blanks (hquote : IsQuote quote) {blanks : List Char} (hblanks : ∀ c ∈ blanks, Text.isSpace c = true)
    (escaped : Bool) : closes quote escaped blanks = false := by
  induction blanks generalizing escaped with
  | nil => cases escaped <;> rfl
  | cons c blanks ih =>
      have hrest := ih fun d hd => hblanks d (List.mem_cons_of_mem _ hd)
      have hne := hquote.ne_of_isSpace (hblanks c List.mem_cons_self)
      cases escaped <;> simp [closes, hrest, hne]

end Closes

/-! ## Where literals and operators begin -/

theorem IsQuote.ne_slash {quote : Char} (hquote : IsQuote quote) : quote ≠ '\\' := by
  obtain rfl | rfl := hquote <;> decide

/-- What begins at a character, in terms of the text behind it. -/
theorem begins_cons_iff {c : Char} {cs : List Char} :
    BeginsSegment (c :: cs) ↔ (IsQuote c ∧ closes c false cs = true) ∨ (c = '&' ∧ cs.head? = some '&') ∨
      (c = '|' ∧ cs.head? = some '|') ∨ (c = '!' ∧ cs.head? ≠ some '=') := by
  constructor
  · intro h
    generalize htext : c :: cs = text at h
    cases h with
    | literal rest h =>
        obtain ⟨hquote, hbody⟩ := h
        rw [List.cons_append, List.append_assoc, List.cons.injEq] at htext
        obtain ⟨rfl, rfl⟩ := htext
        exact .inl ⟨hquote, hbody.closes rest⟩
    | operator op h =>
        cases op <;> obtain ⟨rfl, rfl⟩ := List.cons.inj htext
        · exact .inr (.inl ⟨rfl, rfl⟩)
        · exact .inr (.inr (.inl ⟨rfl, rfl⟩))
        · exact .inr (.inr (.inr ⟨rfl, h rfl⟩))
  · have hhead : ∀ {d : Char}, cs.head? = some d → ∃ rest, cs = d :: rest := by
      intro d hd
      cases cs with
      | nil => cases hd
      | cons d' rest => exact ⟨rest, by rw [Option.some.inj hd]⟩
    rintro (⟨hquote, hcloses⟩ | ⟨rfl, hand⟩ | ⟨rfl, hor⟩ | ⟨rfl, hnot⟩)
    · obtain ⟨body, rest, rfl, hbody⟩ := quoted_of_closes hcloses
      have hbegins := BeginsSegment.literal rest (.intro hquote hbody)
      rwa [List.cons_append, List.append_assoc, List.singleton_append] at hbegins
    · obtain ⟨rest, rfl⟩ := hhead hand
      exact @BeginsSegment.operator .conjunction rest nofun
    · obtain ⟨rest, rfl⟩ := hhead hor
      exact @BeginsSegment.operator .disjunction rest nofun
    · exact @BeginsSegment.operator .negation cs fun _ => hnot

/-- The characters at which something may begin. -/
def isMark (c : Char) : Bool := c = '"' || c = '\'' || c = '&' || c = '|' || c = '!'

theorem not_begins_of_not_mark {c : Char} (hc : isMark c = false) (cs : List Char) : ¬ BeginsSegment (c :: cs) := by
  rw [begins_cons_iff]
  rintro (⟨rfl | rfl, -⟩ | ⟨rfl, -⟩ | ⟨rfl, -⟩ | ⟨rfl, -⟩) <;> cases hc

theorem BoolOperator.word_plain (op : BoolOperator) : ∀ c ∈ op.word, isMark c = false := by
  have hall : op.word.all (fun c => !isMark c) = true := by cases op <;> decide
  simpa using hall

theorem isMark_of_isSpace {c : Char} (hc : Text.isSpace c = true) : isMark c = false := by
  rw [Bool.eq_false_iff]
  intro hmark
  obtain (((rfl | rfl) | rfl) | rfl) | rfl : (((c = '"' ∨ c = '\'') ∨ c = '&') ∨ c = '|') ∨ c = '!' := by
    simpa [isMark] using hmark
  all_goals exact absurd hc (by decide)

/-- To a character before them the second text looks like the first. -/
structure Alike (cs ds : List Char) : Prop where
  closes : ∀ quote, IsQuote quote → ∀ escaped, closes quote escaped ds = closes quote escaped cs
  head_sign : ∀ c, c = '&' ∨ c = '|' → ds.head? = some c → cs.head? = some c
  head_equals : cs.head? = some '=' → ds.head? = some '='

theorem Alike.not_begins {c : Char} {cs ds : List Char} (h : Alike cs ds) (hfree : ¬ BeginsSegment (c :: cs)) :
    ¬ BeginsSegment (c :: ds) := by
  rw [begins_cons_iff] at hfree ⊢
  rintro (⟨hquote, hcloses⟩ | ⟨rfl, hand⟩ | ⟨rfl, hor⟩ | ⟨rfl, hnot⟩)
  · exact hfree (.inl ⟨hquote, (h.closes c hquote false) ▸ hcloses⟩)
  · exact hfree (.inr (.inl ⟨rfl, h.head_sign '&' (.inl rfl) hand⟩))
  · exact hfree (.inr (.inr (.inl ⟨rfl, h.head_sign '|' (.inr rfl) hor⟩)))
  · exact hfree (.inr (.inr (.inr ⟨rfl, fun hequals => hnot (h.head_equals hequals)⟩)))

/-! ## One division for every text -/

theorem literalLength?_quoted {quote : Char} {body : List Char} (h : Quoted quote body) (hslash : quote ≠ '\\')
    (rest : List Char) : literalLength? quote (body ++ quote :: rest) = some (body.length + 1) := by
  induction h with
  | nil => cases rest <;> simp [literalLength?]
  | @escaped c body hc _ ih =>
      simp [literalLength?, hslash.symm, hc, ih]
  | @plain c body hquote hslash' _ ih =>
      cases body <;> simp_all [literalLength?]

theorem closes_of_literalLength? {quote : Char} {cs : List Char} {n : Nat}
    (h : literalLength? quote cs = some n) : closes quote false cs = true := by
  fun_induction literalLength? quote cs generalizing n with
  | case1 => cases h
  | case2 => simp [closes]
  | case3 => cases h
  | case4 => simp [closes]
  | case5 => cases h
  | case6 d rest hline _ ih =>
      obtain ⟨m, hm, -⟩ := Option.map_eq_some_iff.mp h
      simp [closes, ih hm, hline]
  | case7 c d rest hquote hslash' ih =>
      obtain ⟨m, hm, -⟩ := Option.map_eq_some_iff.mp h
      rw [closes, decide_eq_false hslash', ih hm, Bool.or_true]

theorem segments_literal {text : List Char} (h : IsLiteral text) (cs : List Char) :
    segments (text ++ cs) = .literal text :: segments cs := by
  obtain @⟨quote, body, hquote, hbody⟩ := h
  have hat : literalAt? quote (body ++ quote :: cs) = some (body.length + 1) := by
    rw [literalAt?, if_pos (by simpa [IsQuote] using hquote)]
    exact literalLength?_quoted hbody hquote.ne_slash cs
  have htake : (body ++ quote :: cs).take (body.length + 1) = body ++ [quote] := by
    rw [List.take_length_add_append]
    rfl
  have hdrop : (body ++ quote :: cs).drop (body.length + 1) = cs := by
    rw [List.drop_length_add_append]
    rfl
  rw [List.cons_append, List.append_assoc, List.singleton_append, segments.eq_def]
  simp only [hat, htake, hdrop]

theorem segments_operator {op : BoolOperator} {cs : List Char} (h : op.Before cs) :
    segments (op.sign ++ cs) = .operator op :: segments cs := by
  have hquotes : ∀ c, c = '&' ∨ c = '|' ∨ c = '!' → ∀ rest, literalAt? c rest = none := by
    rintro c (rfl | rfl | rfl) rest <;> rfl
  cases op with
  | conjunction => rw [BoolOperator.sign, List.cons_append, List.singleton_append, segments, hquotes _ (by simp)]
  | disjunction => rw [BoolOperator.sign, List.cons_append, List.singleton_append, segments, hquotes _ (by simp)]
  | negation =>
      have hequals : ∀ more, cs ≠ '=' :: more := by
        rintro more rfl
        exact h rfl rfl
      rw [BoolOperator.sign, List.singleton_append, segments] <;> simp [hquotes, hequals]

theorem segments_other {c : Char} {cs : List Char} (h : ¬ BeginsSegment (c :: cs)) :
    segments (c :: cs) = .other c :: segments cs := by
  rw [begins_cons_iff] at h
  have hat : literalAt? c cs = none := by
    rw [literalAt?]
    split
    next hquote =>
      cases hlength : literalLength? c cs with
      | none => rfl
      | some n => exact absurd (.inl ⟨by simpa [IsQuote] using hquote, closes_of_literalLength? hlength⟩) h
    next => rfl
  rw [segments.eq_def]
  simp only [hat]
  split
  next => simp at h
  next => simp at h
  next => rfl
  next hequals =>
    cases cs with
    | nil => simp at h
    | cons d rest => simp_all
  next => rfl

theorem Divided.segments_eq {cs : List Char} {segs : List Segment} (h : Divided cs segs) : segments cs = segs := by
  induction h with
  | nil => rw [segments]
  | literal htext _ ih => rw [segments_literal htext, ih]
  | operator op hop _ ih => rw [segments_operator hop, ih]
  | other hfree _ ih => rw [segments_other hfree, ih]

theorem divided_segments (cs : List Char) : Divided cs (segments cs) := by
  induction hlength : cs.length using Nat.strong_induction_on generalizing cs with
  | _ n ih =>
      have hshorter : ∀ rest, rest.length < cs.length → Divided rest (segments rest) := fun rest hrest =>
        ih rest.length (hlength ▸ hrest) rest rfl
      by_cases hbegins : BeginsSegment cs
      · cases hbegins with
        | literal rest h =>
            rw [segments_literal h]
            refine .literal h (hshorter rest ?_)
            obtain ⟨-, -⟩ := h
            simp only [List.length_append, List.length_cons]
            omega
        | operator op h =>
            rw [segments_operator h]
            refine .operator op h (hshorter _ ?_)
            cases op <;> simp only [BoolOperator.sign, List.length_append, List.length_cons] <;> omega
      · cases cs with
        | nil =>
            rw [segments]
            exact .nil
        | cons c rest =>
            rw [segments_other hbegins]
            exact .other hbegins (hshorter rest (by simp))

/-- Every text has one division. -/
theorem divided_iff {cs : List Char} {segs : List Segment} : Divided cs segs ↔ segs = segments cs := by
  constructor
  · exact fun h => h.segments_eq.symm
  · rintro rfl
    exact divided_segments cs

/-! ## Words for operators -/

/-- The segments that a segment becomes with words for operators. -/
def Segment.respelled : Segment → List Segment
  | .operator op => op.word.map .other
  | s => [s]

/-- Characters at which nothing begins stand alone. -/
theorem Divided.plain {word : List Char} (hword : ∀ c ∈ word, isMark c = false) {cs : List Char} {segs : List Segment}
    (h : Divided cs segs) : Divided (word ++ cs) (word.map .other ++ segs) := by
  induction word with
  | nil => exact h
  | cons c word ih =>
      obtain ⟨hc, hword⟩ := List.forall_mem_cons.mp hword
      exact .other (not_begins_of_not_mark hc _) (ih hword)

namespace Divided

variable {cs : List Char} {segs : List Segment}

theorem closes_spelled (h : Divided cs segs) {quote : Char} (hquote : IsQuote quote) (escaped : Bool) :
    closes quote escaped (segs.flatMap Segment.spelled) = closes quote escaped cs := by
  induction h generalizing escaped with
  | nil => rfl
  | literal _ _ ih => exact closes_append ih _ escaped
  | operator op _ _ ih =>
      rw [← closes_operator hquote op]
      exact closes_append ih _ escaped
  | other _ _ ih => exact closes_append ih [_] escaped

theorem alike_spelled (h : Divided cs segs) : Alike cs (segs.flatMap Segment.spelled) := by
  refine ⟨fun quote hquote => h.closes_spelled hquote, ?head_sign, ?head_equals⟩
  all_goals
    cases h with
    | nil => simp
    | literal htext => obtain ⟨_, _⟩ := htext; simp [Segment.spelled]
    | operator op => cases op <;> simp [Segment.spelled, BoolOperator.word, BoolOperator.sign]
    | other => simp [Segment.spelled]

/-- With words for its operators a text has the literals that it had, and no operator. -/
theorem spelled (h : Divided cs segs) : Divided (segs.flatMap Segment.spelled) (segs.flatMap Segment.respelled) := by
  induction h with
  | nil => exact .nil
  | literal htext _ ih => exact .literal htext ih
  | operator op _ _ ih => exact .plain op.word_plain ih
  | other hfree h ih => exact .other (h.alike_spelled.not_begins hfree) ih

/-- Blanks behind a text change nothing about its division. -/
theorem append_blanks {blanks : List Char} (hblanks : ∀ c ∈ blanks, Text.isSpace c = true) (h : Divided cs segs) :
    Divided (cs ++ blanks) (segs ++ blanks.map .other) := by
  have hplain : ∀ c ∈ blanks, isMark c = false := fun c hc => isMark_of_isSpace (hblanks c hc)
  have hhead : ∀ {ds : List Char} {c : Char}, Text.isSpace c = false →
      ((ds ++ blanks).head? = some c ↔ ds.head? = some c) := by
    intro ds c hc
    cases ds with
    | cons d ds => rfl
    | nil =>
        cases blanks with
        | nil => rfl
        | cons d blanks =>
            have hd := hblanks d List.mem_cons_self
            simp only [List.nil_append, List.head?_cons, Option.some.injEq, List.head?_nil, reduceCtorEq, iff_false]
            rintro rfl
            rw [hc] at hd
            cases hd
  induction h with
  | nil => simpa using Divided.plain hplain .nil
  | literal htext _ ih =>
      rw [List.append_assoc]
      exact .literal htext ih
  | operator op hop _ ih =>
      rw [List.append_assoc]
      exact .operator op (fun hnegation => (hhead (by decide)).not.mpr (hop hnegation)) ih
  | @other c cs segs hfree h ih =>
      have halike : Alike cs (cs ++ blanks) := by
        refine ⟨fun quote hquote escaped => ?_, ?_, (hhead (by decide)).mpr⟩
        · have hnever : ∀ escaped, closes quote escaped blanks = closes quote escaped [] := by
            intro escaped
            rw [closes_blanks hquote hblanks escaped]
            cases escaped <;> rfl
          have hclosed := closes_append hnever cs escaped
          rwa [List.append_nil] at hclosed
        · rintro c (rfl | rfl) <;> exact (hhead (by decide)).mp
      exact .other (halike.not_begins hfree) ih

end Divided

/-! ## Segments without operators -/

/-- The literal that a segment is. -/
def Segment.literal? : Segment → Option (List Char)
  | .literal text => some text
  | _ => none

/-- The operator that a segment is. -/
def Segment.operator? : Segment → Option BoolOperator
  | .operator op => some op
  | _ => none

theorem literals_respelled (segs : List Segment) :
    (segs.flatMap Segment.respelled).filterMap Segment.literal? = segs.filterMap Segment.literal? := by
  induction segs with
  | nil => rfl
  | cons s segs ih =>
      rw [List.flatMap_cons, List.filterMap_append, ih, List.filterMap_cons]
      cases s with
      | operator op => cases op <;> rfl
      | _ => rfl

theorem operators_respelled (segs : List Segment) :
    (segs.flatMap Segment.respelled).filterMap Segment.operator? = [] := by
  induction segs with
  | nil => rfl
  | cons s segs ih =>
      rw [List.flatMap_cons, List.filterMap_append, ih, List.append_nil]
      cases s with
      | operator op => cases op <;> rfl
      | _ => rfl

theorem literals_others (cs : List Char) : (cs.map Segment.other).filterMap Segment.literal? = [] := by
  simp [List.filterMap_map, Segment.literal?, Function.comp_def]

theorem operators_others (cs : List Char) : (cs.map Segment.other).filterMap Segment.operator? = [] := by
  simp [List.filterMap_map, Segment.operator?, Function.comp_def]

namespace Divided

variable {cs : List Char} {segs : List Segment}

/-- A text without operators is spelled as it is. -/
theorem spelled_eq (h : Divided cs segs) (hfree : segs.filterMap Segment.operator? = []) :
    segs.flatMap Segment.spelled = cs := by
  induction h with
  | nil => rfl
  | literal _ _ ih =>
      rw [List.flatMap_cons, ih hfree]
      rfl
  | operator => cases hfree
  | other _ _ ih =>
      rw [List.flatMap_cons, ih hfree]
      rfl

/-- What stands behind some of the segments is divided as they say. -/
theorem rest {before after : List Segment} (h : Divided cs (before ++ after)) : ∃ cs', Divided cs' after := by
  induction before generalizing cs with
  | nil => exact ⟨cs, h⟩
  | cons s before ih =>
      cases h with
      | literal _ h => exact ih h
      | operator _ _ h => exact ih h
      | other _ h => exact ih h

end Divided

/-- No operator stands outside of literals, and no character of one that could be read
as an operator. -/
structure OperatorFree (segs : List Segment) : Prop where
  operators : segs.filterMap Segment.operator? = []
  conjunctions : ∀ before after, segs ≠ before ++ .other '&' :: .other '&' :: after
  disjunctions : ∀ before after, segs ≠ before ++ .other '|' :: .other '|' :: after
  negations : ∀ before after, segs = before ++ .other '!' :: after → after.head? = some (.other '=')

/-- Nothing that could be read as an operator is left out by a division. -/
theorem Divided.operatorFree {cs : List Char} {segs : List Segment} (h : Divided cs segs)
    (hnone : segs.filterMap Segment.operator? = []) : OperatorFree segs := by
  have htwice : ∀ c, c = '&' ∨ c = '|' → ∀ before after, segs ≠ before ++ .other c :: .other c :: after := by
    rintro c hc before after rfl
    obtain ⟨_, hrest⟩ := h.rest
    cases hrest with
    | other hfree hrest => cases hrest with
      | other =>
          refine hfree (begins_cons_iff.mpr ?_)
          obtain rfl | rfl := hc <;> simp
  refine ⟨hnone, htwice '&' (.inl rfl), htwice '|' (.inr rfl), ?_⟩
  rintro before after rfl
  obtain ⟨_, hrest⟩ := h.rest
  cases hrest with
  | @other _ cs _ hfree hrest =>
      have hequals : cs.head? = some '=' := by
        by_contra hne
        exact hfree (begins_cons_iff.mpr (by simp [hne]))
      cases hrest with
      | nil => cases hequals
      | literal htext =>
          obtain ⟨rfl | rfl, -⟩ := htext <;> cases hequals
      | operator op => cases op <;> cases hequals
      | other =>
          obtain rfl := Option.some.inj hequals
          rfl

/-! ## Trimming -/

/-- The text without the blanks at its ends. -/
def trimmed (cs : List Char) : List Char := (cs.dropWhile Text.isSpace).rdropWhile Text.isSpace

theorem toList_strip (s : String) : (Text.strip s).toList = trimmed s.toList := by
  rw [Text.strip, String.toList_ofList]
  rfl

theorem exists_blanks (cs : List Char) :
    ∃ front back, cs = front ++ (trimmed cs ++ back) ∧ ∀ c ∈ front ++ back, Text.isSpace c = true := by
  refine ⟨cs.takeWhile Text.isSpace, (cs.dropWhile Text.isSpace).rtakeWhile Text.isSpace, ?_, fun c hc => ?_⟩
  · rw [trimmed, List.rdropWhile_append_rtakeWhile, List.takeWhile_append_dropWhile]
  · exact (List.mem_append.mp hc).elim List.mem_takeWhile_imp List.mem_rtakeWhile_imp

theorem trimmed_trimmed (cs : List Char) : trimmed (trimmed cs) = trimmed cs := by
  have hfront : (trimmed cs).dropWhile Text.isSpace = trimmed cs := by
    cases htrimmed : trimmed cs with
    | nil => rfl
    | cons c rest =>
        obtain ⟨more, hmore⟩ := List.rdropWhile_prefix Text.isSpace (cs.dropWhile Text.isSpace)
        have hhead := List.head?_dropWhile_not Text.isSpace cs
        rw [← hmore, ← trimmed, htrimmed] at hhead
        have hc : Text.isSpace c = false := hhead
        rw [List.dropWhile_cons_of_neg (by simp [hc])]
  rw [trimmed, hfront, trimmed, List.rdropWhile_idempotent]

/-- The second division is the first one without blanks at its ends. -/
def TrimmedTo (segs segs' : List Segment) : Prop :=
  ∃ front back : List Char, segs = front.map .other ++ (segs' ++ back.map .other) ∧
    ∀ c ∈ front ++ back, Text.isSpace c = true

theorem segments_trimmed (cs : List Char) : TrimmedTo (segments cs) (segments (trimmed cs)) := by
  obtain ⟨front, back, hsplit, hblanks⟩ := exists_blanks cs
  have hfront : ∀ c ∈ front, isMark c = false := fun c hc => isMark_of_isSpace (hblanks c (List.mem_append_left _ hc))
  have hback : ∀ c ∈ back, Text.isSpace c = true := fun c hc => hblanks c (List.mem_append_right _ hc)
  have hdivided := ((divided_segments (trimmed cs)).append_blanks hback).plain hfront
  rw [← hsplit] at hdivided
  exact ⟨front, back, hdivided.segments_eq, hblanks⟩

theorem TrimmedTo.literals {segs segs' : List Segment} (h : TrimmedTo segs segs') :
    segs'.filterMap Segment.literal? = segs.filterMap Segment.literal? := by
  obtain ⟨front, back, rfl, -⟩ := h
  simp only [List.filterMap_append, literals_others, List.nil_append, List.append_nil]

theorem TrimmedTo.operators {segs segs' : List Segment} (h : TrimmedTo segs segs') :
    segs'.filterMap Segment.operator? = segs.filterMap Segment.operator? := by
  obtain ⟨front, back, rfl, -⟩ := h
  simp only [List.filterMap_append, operators_others, List.nil_append, List.append_nil]

/-! ## Operators as words -/

theorem toList_normalize (e : String) :
    (normalize e).toList = trimmed ((segments e.toList).flatMap Segment.spelled) := by
  rw [normalize, toList_strip, String.toList_ofList]

/-- The division of a text becomes, with words for its operators and without blanks at
its ends, that of the normalized text.  The literals are the same, no operator is left,
doing it again changes nothing, and a text without operators is only trimmed. -/
theorem operators_rewritten (e : String) :
    ∃ before after, (∀ segs, Divided e.toList segs ↔ segs = before) ∧
      (∀ segs, Divided (normalize e).toList segs ↔ segs = after) ∧
      TrimmedTo (before.flatMap Segment.respelled) after ∧
      after.filterMap Segment.literal? = before.filterMap Segment.literal? ∧
      OperatorFree after ∧
      normalize (normalize e) = normalize e ∧
      (before.filterMap Segment.operator? = [] → normalize e = Text.strip e) := by
  have hdivided := divided_segments e.toList
  have htrimmed := segments_trimmed ((segments e.toList).flatMap Segment.spelled)
  rw [hdivided.spelled.segments_eq, ← toList_normalize] at htrimmed
  have hliterals := htrimmed.literals.trans (literals_respelled _)
  have hoperators := htrimmed.operators.trans (operators_respelled _)
  refine ⟨segments e.toList, segments (normalize e).toList, fun _ => divided_iff, fun _ => divided_iff, htrimmed,
    hliterals, (divided_segments _).operatorFree hoperators, ?_, fun hnone => ?_⟩
  · apply String.toList_injective
    rw [toList_normalize, (divided_segments _).spelled_eq hoperators, toList_normalize, trimmed_trimmed]
  · apply String.toList_injective
    rw [toList_normalize, hdivided.spelled_eq hnone, toList_strip]

end Workflow.Expr
