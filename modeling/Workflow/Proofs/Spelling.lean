import Workflow.Proofs.Formulas
import Mathlib.Data.List.Chain
import Mathlib.Data.List.DropRight

/-!
# Workflow.Proofs.Spelling

The tokens of a text that is a formula.

The operators of a formula become words with spaces around them, and everything else
stays as it is (`Spaced.delimited`).  Names and words are then told apart from what
follows them (`Delimited`): that outlasts trimming, and the reader of tokens finds one
token for each sign (`tokens_delimited`).
-/

namespace Workflow.Expr

/-! ## Rows of signs -/

/-- Is the sign a name? -/
def Sign.isName : Sign → Bool
  | .name _ => true
  | _ => false

/-- No two names stand side by side. -/
def NamesApart (signs : List Sign) : Prop := signs.IsChain fun s t => s.isName = false ∨ t.isName = false

/-- Every closing bracket closes one that is open, of which there are so many before. -/
def Closes : Nat → List Sign → Prop
  | _, [] => True
  | d, .opening :: signs => Closes (d + 1) signs
  | 0, .closing :: _ => False
  | d + 1, .closing :: signs => Closes d signs
  | d, _ :: signs => Closes d signs

namespace Written

variable {b : Binding} {f : Formula} {signs : List Sign}

theorem ne_nil (h : Written b f signs) : signs ≠ [] := by
  induction h <;> simp_all

theorem names (h : Written b f signs) {x : String} (hx : .name x ∈ signs) : x ∈ f.names := by
  induction h with
  | name y =>
      obtain rfl : x = y := by simpa using hx
      exact List.mem_singleton_self x
  | bracketed _ ih => exact ih (by simpa using hx)
  | negation _ ih => exact ih (by simpa using hx)
  | single _ ih => exact ih hx
  | conjoined _ ih => exact ih hx
  | conjunction _ _ ihf ihg | disjunction _ _ ihf ihg =>
      rw [Formula.names, List.mem_append]
      exact (List.mem_append.mp hx).imp ihf fun hx => ihg (by simpa using hx)

theorem namesApart (h : Written b f signs) : NamesApart signs := by
  unfold NamesApart
  induction h <;> simp_all [List.isChain_append, List.isChain_cons, Sign.isName]

/-- Within a formula brackets close as many as they open. -/
theorem closes (h : Written b f signs) {d : Nat} {rest : List Sign} (hrest : Closes d rest) : Closes d (signs ++ rest) := by
  induction h generalizing d rest with
  | name x => exact hrest
  | bracketed _ ih =>
      have hclosing : Closes (d + 1) (.closing :: rest) := hrest
      simpa [Closes] using ih hclosing
  | negation _ ih => exact ih hrest
  | single _ ih | conjoined _ ih => exact ih hrest
  | conjunction _ _ ihf ihg =>
      have hsecond : Closes d (.conjunction :: (_ ++ rest)) := ihg hrest
      simpa using ihf hsecond
  | disjunction _ _ ihf ihg =>
      have hsecond : Closes d (.disjunction :: (_ ++ rest)) := ihg hrest
      simpa using ihf hsecond

end Written

/-! ## Words for operators -/

/-- The word that stands for a sign. -/
def Sign.word : Sign → List Char
  | .name x => x.toList
  | .negation => ['n', 'o', 't']
  | .conjunction => ['a', 'n', 'd']
  | .disjunction => ['o', 'r']
  | .opening => ['(']
  | .closing => [')']

/-- Is the sign a bracket? -/
def Sign.isBracket : Sign → Bool
  | .opening | .closing => true
  | _ => false

/-- No word goes on here. -/
def Bounded (cs : List Char) : Prop := cs = [] ∨ ∃ rest, cs = ' ' :: rest ∨ cs = '(' :: rest ∨ cs = ')' :: rest

/-- The texts in which the words of signs can be told apart. -/
inductive Delimited : List Sign → List Char → Prop
  | nil : Delimited [] []
  | space {signs cs} (h : Delimited signs cs) : Delimited signs (' ' :: cs)
  | sign (s : Sign) {signs cs} (h : Delimited signs cs) (hend : s.isBracket = true ∨ Bounded cs) :
      Delimited (s :: signs) (s.word ++ cs)

/-- The text with words for operators. -/
def spelledOut (cs : List Char) : List Char := (segments cs).flatMap Segment.spelled

theorem spelledOut_nil : spelledOut [] = [] := by
  rw [spelledOut, segments]
  rfl

/-- The characters of names are no quotes, operators or spaces. -/
theorem ne_of_isNameChar {c d : Char} (h : isNameChar c = true) (hd : isNameChar d = false) : c ≠ d := by
  rintro rfl
  rw [h] at hd
  cases hd

theorem segments_plain {c : Char} (cs : List Char) (hquote : c ≠ '"' ∧ c ≠ '\'') (hoperator : c ≠ '&' ∧ c ≠ '|' ∧ c ≠ '!') :
    segments (c :: cs) = .other c :: segments cs := by
  obtain ⟨hand, hor, hnot⟩ := hoperator
  rw [segments] <;> simp [literalAt?, hquote, hand, hor, hnot]

theorem spelledOut_plain {c : Char} (cs : List Char) (hquote : c ≠ '"' ∧ c ≠ '\'')
    (hoperator : c ≠ '&' ∧ c ≠ '|' ∧ c ≠ '!') : spelledOut (c :: cs) = c :: spelledOut cs := by
  rw [spelledOut, segments_plain cs hquote hoperator]
  rfl

theorem spelledOut_conjunction (cs : List Char) : spelledOut ('&' :: '&' :: cs) = [' ', 'a', 'n', 'd', ' '] ++ spelledOut cs := by
  have hsegments : segments ('&' :: '&' :: cs) = .operator .conjunction :: segments cs := by
    rw [segments]
    simp [literalAt?]
  rw [spelledOut, hsegments]
  rfl

theorem spelledOut_disjunction (cs : List Char) : spelledOut ('|' :: '|' :: cs) = [' ', 'o', 'r', ' '] ++ spelledOut cs := by
  have hsegments : segments ('|' :: '|' :: cs) = .operator .disjunction :: segments cs := by
    rw [segments]
    simp [literalAt?]
  rw [spelledOut, hsegments]
  rfl

theorem spelledOut_negation {cs : List Char} (h : cs.head? ≠ some '=') :
    spelledOut ('!' :: cs) = [' ', 'n', 'o', 't', ' '] ++ spelledOut cs := by
  have hequal : ∀ more, cs ≠ '=' :: more := by
    rintro more rfl
    exact h rfl
  have hsegments : segments ('!' :: cs) = .operator .negation :: segments cs := by
    rw [segments] <;> simp [literalAt?, hequal]
  rw [spelledOut, hsegments]
  rfl

/-- A name stays as it is. -/
theorem spelledOut_name {word : List Char} (hword : ∀ c ∈ word, isNameChar c = true) (cs : List Char) :
    spelledOut (word ++ cs) = word ++ spelledOut cs := by
  induction word with
  | nil => rfl
  | cons c word ih =>
      have hc := hword c List.mem_cons_self
      rw [List.cons_append, spelledOut_plain _ ⟨ne_of_isNameChar hc rfl, ne_of_isNameChar hc rfl⟩
        ⟨ne_of_isNameChar hc rfl, ne_of_isNameChar hc rfl, ne_of_isNameChar hc rfl⟩,
        ih fun d hd => hword d (List.mem_cons_of_mem _ hd)]
      rfl

namespace Spaced

variable {signs : List Sign} {cs : List Char}

/-- A formula is never continued with an equals sign. -/
theorem head?_ne (h : Spaced signs cs) (hnames : ∀ x, .name x ∈ signs → IsName x) : cs.head? ≠ some '=' := by
  cases h with
  | nil => simp
  | space => simp
  | sign s h =>
      cases s with
      | name x =>
          obtain ⟨c, rest, hx, -⟩ := (hnames x List.mem_cons_self).starts
          have hc := (hnames x List.mem_cons_self).chars c (by rw [hx]; exact List.mem_cons_self)
          simp [Sign.chars, hx, ne_of_isNameChar hc (d := '=') rfl]
      | _ => simp [Sign.chars]

/-- With words for its operators, the text of a formula has the same signs.  Where it does
not begin with a name it may follow one. -/
theorem delimited (h : Spaced signs cs) (hapart : NamesApart signs) (hnames : ∀ x, .name x ∈ signs → IsName x) :
    Delimited signs (spelledOut cs) ∧ ((signs.head?.map Sign.isName).getD false = false → Bounded (spelledOut cs)) := by
  induction h with
  | nil =>
      rw [spelledOut_nil]
      exact ⟨.nil, fun _ => .inl rfl⟩
  | @space signs cs h ih =>
      obtain ⟨hdelimited, -⟩ := ih hapart hnames
      rw [spelledOut_plain cs (by decide) (by decide)]
      exact ⟨.space hdelimited, fun _ => .inr ⟨_, .inl rfl⟩⟩
  | @sign s signs cs h ih =>
      obtain ⟨hhead, htail⟩ := List.isChain_cons.mp hapart
      have hnames' : ∀ x, .name x ∈ signs → IsName x := fun x hx => hnames x (List.mem_cons_of_mem _ hx)
      obtain ⟨hdelimited, hbounded⟩ := ih htail hnames'
      have hspace : Bounded (' ' :: spelledOut cs) := .inr ⟨_, .inl rfl⟩
      cases s with
      | name x =>
          have hfollows : (signs.head?.map Sign.isName).getD false = false := by
            cases signs with
            | nil => rfl
            | cons t signs => simpa [Sign.isName] using hhead
          rw [Sign.chars, spelledOut_name (hnames x List.mem_cons_self).chars]
          exact ⟨.sign (.name x) hdelimited (.inr (hbounded hfollows)), by simp [Sign.isName]⟩
      | negation =>
          rw [Sign.chars, List.singleton_append, spelledOut_negation (h.head?_ne hnames')]
          exact ⟨.space (.sign .negation (.space hdelimited) (.inr hspace)), fun _ => .inr ⟨_, .inl rfl⟩⟩
      | conjunction =>
          rw [Sign.chars, List.cons_append, List.singleton_append, spelledOut_conjunction]
          exact ⟨.space (.sign .conjunction (.space hdelimited) (.inr hspace)), fun _ => .inr ⟨_, .inl rfl⟩⟩
      | disjunction =>
          rw [Sign.chars, List.cons_append, List.singleton_append, spelledOut_disjunction]
          exact ⟨.space (.sign .disjunction (.space hdelimited) (.inr hspace)), fun _ => .inr ⟨_, .inl rfl⟩⟩
      | opening =>
          rw [Sign.chars, List.singleton_append, spelledOut_plain cs (by decide) (by decide)]
          exact ⟨.sign .opening hdelimited (.inl rfl), fun _ => .inr ⟨_, .inr (.inl rfl)⟩⟩
      | closing =>
          rw [Sign.chars, List.singleton_append, spelledOut_plain cs (by decide) (by decide)]
          exact ⟨.sign .closing hdelimited (.inl rfl), fun _ => .inr ⟨_, .inr (.inr rfl)⟩⟩

end Spaced

/-! ## Trimming -/

theorem isNameChar_bounds {c : Char} (h : isNameChar c = true) : 48 ≤ c.toNat ∧ c.toNat < 128 := by
  have hcases : (c.isAlphanum = true) ∨ c = '_' := by simpa [isNameChar] using h
  rcases hcases with hc | rfl
  · unfold Char.isAlphanum Char.isAlpha Char.isUpper Char.isLower Char.isDigit at hc
    simp only [Bool.or_eq_true, Bool.and_eq_true, decide_eq_true_eq, UInt32.le_iff_toNat_le, ge_iff_le] at hc
    have hval : c.toNat = c.val.toNat := rfl
    have hZ : 'Z'.val.toNat = 90 := rfl
    have hz : 'z'.val.toNat = 122 := rfl
    have h9 : '9'.val.toNat = 57 := rfl
    have hA : 'A'.val.toNat = 65 := rfl
    have ha : 'a'.val.toNat = 97 := rfl
    have h0 : '0'.val.toNat = 48 := rfl
    omega
  · decide

theorem isSpace_of_isNameChar {c : Char} (h : isNameChar c = true) : Text.isSpace c = false := by
  obtain ⟨hlow, hhigh⟩ := isNameChar_bounds h
  simp [Text.isSpace, Text.isAscii, hhigh]
  omega

/-- No character of a word is a space, and there is one at least. -/
theorem Sign.word_not_space {s : Sign} (hname : ∀ x, s = .name x → IsName x) :
    s.word ≠ [] ∧ ∀ c ∈ s.word, Text.isSpace c = false := by
  cases s with
  | name x =>
      have hx := hname x rfl
      obtain ⟨c, cs, hstarts, -⟩ := hx.starts
      exact ⟨by simp [Sign.word, hstarts], fun c hc => isSpace_of_isNameChar (hx.chars c hc)⟩
  | _ =>
      simp only [← Bool.not_eq_true']
      exact ⟨by simp [Sign.word], List.all_eq_true.mp rfl⟩

theorem rdropWhile_append {p : Char → Bool} (word cs : List Char) :
    (word ++ cs).rdropWhile p = if cs.rdropWhile p = [] then word.rdropWhile p else word ++ cs.rdropWhile p := by
  unfold List.rdropWhile
  rw [List.reverse_append, List.dropWhile_append]
  cases cs.reverse.dropWhile p <;> simp

theorem rdropWhile_of_none {p : Char → Bool} {word : List Char} (hword : ∀ c ∈ word, p c = false) :
    word.rdropWhile p = word := by
  rw [List.rdropWhile_eq_self_iff]
  intro hne
  simp [hword _ (List.getLast_mem hne)]

theorem Bounded.rdropWhile {cs : List Char} (h : Bounded cs) (p : Char → Bool) : Bounded (cs.rdropWhile p) := by
  have hprefix := List.rdropWhile_prefix p cs
  cases hcs : cs.rdropWhile p with
  | nil => exact .inl rfl
  | cons c rest =>
      rw [hcs] at hprefix
      obtain ⟨more, rfl⟩ := hprefix
      obtain hnil | ⟨tail, htail⟩ := h
      · cases hnil
      · simp only [List.cons_append, List.cons.injEq] at htail
        refine .inr ⟨rest, ?_⟩
        obtain ⟨rfl, -⟩ | ⟨rfl, -⟩ | ⟨rfl, -⟩ := htail <;> simp

namespace Delimited

variable {signs : List Sign} {cs : List Char}

/-- Spaces before the first sign can be left out. -/
theorem trimStart (h : Delimited signs cs) (hnames : ∀ x, .name x ∈ signs → IsName x) :
    Delimited signs (cs.dropWhile Text.isSpace) := by
  induction h with
  | nil => exact .nil
  | space _ ih => exact ih hnames
  | @sign s signs cs h hend ih =>
      obtain ⟨hne, hword⟩ := s.word_not_space fun x hx => hnames x (by simp [hx])
      have hkeep : (s.word ++ cs).dropWhile Text.isSpace = s.word ++ cs := by
        obtain ⟨c, word, hc⟩ := List.exists_cons_of_ne_nil hne
        rw [hc, List.cons_append, List.dropWhile_cons_of_neg]
        simp [hword c (by simp [hc])]
      rw [hkeep]
      exact .sign s h hend

/-- Spaces behind the last sign can be left out. -/
theorem trimEnd (h : Delimited signs cs) (hnames : ∀ x, .name x ∈ signs → IsName x) :
    Delimited signs (cs.rdropWhile Text.isSpace) := by
  induction h with
  | nil => exact .nil
  | @space signs cs _ ih =>
      have hspaces := rdropWhile_append (p := Text.isSpace) [' '] cs
      rw [List.singleton_append] at hspaces
      rw [hspaces]
      have htrimmed := ih hnames
      split
      next hnone =>
        rw [hnone] at htrimmed
        exact htrimmed
      next => exact .space htrimmed
  | @sign s signs cs h hend ih =>
      obtain ⟨hne, hword⟩ := s.word_not_space fun x hx => hnames x (by simp [hx])
      have hkeep : (s.word ++ cs).rdropWhile Text.isSpace = s.word ++ cs.rdropWhile Text.isSpace := by
        rw [rdropWhile_append, rdropWhile_of_none hword]
        split
        next hnone => rw [hnone, List.append_nil]
        next => rfl
      rw [hkeep]
      exact .sign s (ih fun x hx => hnames x (List.mem_cons_of_mem _ hx)) (hend.imp_right (·.rdropWhile _))

end Delimited

/-! ## Tokens -/

/-- The token that a sign becomes. -/
def Sign.token : Sign → Token
  | .name x => .name x
  | .negation => .name "not"
  | .conjunction => .name "and"
  | .disjunction => .name "or"
  | .opening => .op "("
  | .closing => .op ")"

theorem isAscii_of_isNameChar {c : Char} (h : isNameChar c = true) : Text.isAscii c = true := by
  simp [Text.isAscii, (isNameChar_bounds h).2]

theorem not_isDigit_of_starts {c : Char} (h : (c.isAlpha || c = '_') = true) : c.isDigit = false := by
  have hcases : c.isAlpha = true ∨ c = '_' := by simpa using h
  rcases hcases with hc | rfl
  · unfold Char.isAlpha Char.isUpper Char.isLower at hc
    unfold Char.isDigit
    simp only [Bool.or_eq_true, Bool.and_eq_true, Bool.and_eq_false_iff, decide_eq_true_eq, decide_eq_false_iff_not,
      UInt32.le_iff_toNat_le, ge_iff_le] at hc ⊢
    have ha : 'a'.val.toNat = 97 := rfl
    have hA : 'A'.val.toNat = 65 := rfl
    have h9 : '9'.val.toNat = 57 := rfl
    omega
  · decide

/-- Does the reader of tokens take the character to be part of a word? -/
theorem takeWhile_word {word cs : List Char} (hword : ∀ c ∈ word, isNameChar c = true) (hend : Bounded cs) :
    (word ++ cs).takeWhile (fun c => c.isAlphanum || c = '_' || !Text.isAscii c) = word := by
  rw [List.takeWhile_append_of_pos fun c hc => by rw [Bool.or_eq_true]; exact .inl (hword c hc)]
  obtain rfl | ⟨rest, rfl | rfl | rfl⟩ := hend
  · rw [List.takeWhile_nil, List.append_nil]
  all_goals rw [List.takeWhile_cons_of_neg (by decide), List.append_nil]

/-- What is read as one word is a name. -/
theorem nameOf_word {c : Char} {word : List Char} (hstart : (c.isAlpha || c = '_') = true)
    (hword : ∀ d ∈ c :: word, isNameChar d = true) :
    (((c :: word).head?.map Text.isNameStart).getD false && (c :: word).all Text.isNameContinue) = true ∧
      Text.compatibilityForm (c :: word) = c :: word := by
  have hascii : ∀ d ∈ c :: word, Text.isAscii d = true := fun d hd => isAscii_of_isNameChar (hword d hd)
  constructor
  · rw [Bool.and_eq_true, List.all_eq_true]
    refine ⟨?_, fun d hd => ?_⟩
    · simpa [Text.isNameStart, hascii c List.mem_cons_self] using hstart
    · rw [Text.isNameContinue, if_pos (hascii d hd)]
      exact hword d hd
  · rw [Text.compatibilityForm, if_pos]
    rw [List.all_eq_true]
    exact hascii

/-- A word is read up to where it is bounded. -/
theorem lexFrom_word {c : Char} {word cs : List Char} (hstart : (c.isAlpha || c = '_') = true)
    (hword : ∀ d ∈ c :: word, isNameChar d = true) (hend : Bounded cs) (fuel : Nat) {st : LexState}
    (hfresh : st.fresh = false) :
    lexFrom (fuel + 1) st (c :: (word ++ cs)) = (do
      let more ← lexFrom fuel { st with filled := true } cs
      return .name (String.ofList (c :: word)) :: more) := by
  have hne : ∀ {d : Char}, isNameChar d = false → c ≠ d := ne_of_isNameChar (hword c List.mem_cons_self)
  have htake := takeWhile_word hword hend
  have hdrop : (c :: (word ++ cs)).drop (c :: word).length = cs := @List.drop_left _ (c :: word) cs
  obtain ⟨hname, hform⟩ := nameOf_word hstart hword
  rw [List.cons_append] at htake
  have hquote : (decide (c = '"') || decide (c = '\'')) = false := by simp [hne (d := '"') rfl, hne (d := '\'') rfl]
  have hpoint : (decide (c = '.') && ((word ++ cs).head?.map Char.isDigit).getD false) = false := by
    simp [hne (d := '.') rfl]
  have hletter : (c.isAlpha || decide (c = '_') || !Text.isAscii c) = true := by simp [hstart]
  rw [lexFrom, hfresh]
  · simp only [hquote, not_isDigit_of_starts hstart, hpoint, hletter, htake, hdrop, hname, hform, Bool.false_eq_true,
      if_false, if_true]
    obtain rfl | ⟨rest, rfl | rfl | rfl⟩ := hend <;> rfl
  all_goals exact hne rfl

theorem operator?_opening (cs : List Char) : operator? ('(' :: cs) = some ("(", cs) := by
  simp [operator?, operatorTable, List.isPrefixOf]
  rfl

theorem operator?_closing (cs : List Char) : operator? (')' :: cs) = some (")", cs) := by
  simp [operator?, operatorTable, List.isPrefixOf]
  rfl

/-- An opening bracket is read. -/
theorem lexFrom_opening (cs : List Char) (fuel : Nat) {st : LexState} (hfresh : st.fresh = false) :
    lexFrom (fuel + 1) st ('(' :: cs) = (do
      let more ← lexFrom fuel { st with brackets := "(" :: st.brackets, filled := true } cs
      return .op "(" :: more) := by
  rw [lexFrom, hfresh, operator?_opening] <;> simp [Text.isAscii]

/-- A closing bracket that closes an open one is read. -/
theorem lexFrom_closing (cs : List Char) (fuel : Nat) {st : LexState} {below : List String} (hfresh : st.fresh = false)
    (hopen : st.brackets = "(" :: below) :
    lexFrom (fuel + 1) st (')' :: cs) = (do
      let more ← lexFrom fuel { st with brackets := below, filled := true } cs
      return .op ")" :: more) := by
  rw [lexFrom, hfresh, operator?_closing] <;> simp [Text.isAscii, openingOf?, hopen]

/-- Signs with words are read as words. -/
theorem Sign.word_starts {s : Sign} (hname : ∀ x, s = .name x → IsName x) (hbracket : s.isBracket = false) :
    ∃ c word, s.word = c :: word ∧ (c.isAlpha || c = '_') = true ∧ (∀ d ∈ c :: word, isNameChar d = true) ∧
      s.token = .name (String.ofList (c :: word)) := by
  cases s with
  | name x =>
      obtain ⟨c, cs, hx, hstart⟩ := (hname x rfl).starts
      refine ⟨c, cs, hx, hstart, hx ▸ (hname x rfl).chars, ?_⟩
      rw [← hx, String.ofList_toList]
      rfl
  | opening | closing => cases hbracket
  | _ => exact ⟨_, _, rfl, by decide, List.all_eq_true.mp rfl, rfl⟩

/-- Where signs can be told apart, each of them is read as its token. -/
theorem lexFrom_delimited {signs : List Sign} {cs : List Char} (h : Delimited signs cs)
    (hnames : ∀ x, .name x ∈ signs → IsName x) : ∀ {d fuel : Nat} {filled : Bool}, Closes d signs → cs.length < fuel →
      (filled = true ∨ signs ≠ []) →
      lexFrom fuel ⟨List.replicate d "(", [], false, filled⟩ cs = .ok (signs.map Sign.token ++ [.newline, .stop]) := by
  induction h with
  | nil =>
      intro d fuel filled _ hfuel hfilled
      obtain ⟨fuel, rfl⟩ := Nat.exists_eq_succ_of_ne_zero (by omega : fuel ≠ 0)
      obtain rfl : filled = true := by simpa using hfilled
      rfl
  | space _ ih =>
      intro d fuel filled hcloses hfuel hfilled
      obtain ⟨fuel, rfl⟩ := Nat.exists_eq_succ_of_ne_zero (by omega : fuel ≠ 0)
      exact ih hnames hcloses (by simpa using hfuel) hfilled
  | @sign s signs cs h hend ih =>
      intro d fuel filled hcloses hfuel _
      obtain ⟨fuel, rfl⟩ := Nat.exists_eq_succ_of_ne_zero (by omega : fuel ≠ 0)
      have hnames' : ∀ x, .name x ∈ signs → IsName x := fun x hx => hnames x (List.mem_cons_of_mem _ hx)
      have hlen : 0 < s.word.length := List.length_pos_iff.mpr (s.word_not_space fun x hx => hnames x (by simp [hx])).1
      rw [List.length_append] at hfuel
      have hrest : ∀ d', Closes d' signs →
          lexFrom fuel ⟨List.replicate d' "(", [], false, true⟩ cs = .ok (signs.map Sign.token ++ [.newline, .stop]) :=
        fun _ hcloses' => ih hnames' hcloses' (by omega) (.inl rfl)
      cases hbracket : s.isBracket with
      | false =>
          obtain ⟨c, word, hword, hstart, hchars, htoken⟩ := s.word_starts (fun x hx => hnames x (by simp [hx])) hbracket
          have hcloses' : Closes d signs := by
            cases s <;> first | exact hcloses | cases hbracket
          rw [hword, List.cons_append, lexFrom_word hstart hchars (by simpa [hbracket] using hend) fuel rfl, hrest d hcloses',
            List.map_cons, htoken]
          rfl
      | true =>
          cases s with
          | opening =>
              have hopening := hrest (d + 1) hcloses
              rw [List.replicate_succ] at hopening
              rw [Sign.word, List.singleton_append, lexFrom_opening cs fuel rfl, hopening]
              rfl
          | closing =>
              cases d with
              | zero => exact hcloses.elim
              | succ d =>
                  have hclosing := hrest d hcloses
                  rw [Sign.word, List.singleton_append, List.replicate_succ, lexFrom_closing cs fuel rfl rfl, hclosing]
                  rfl
          | _ => cases hbracket

/-- The characters that a text with words is made of. -/
def isPlainChar (c : Char) : Bool := isNameChar c || c = '(' || c = ')'

theorem ne_of_isPlainChar {c d : Char} (h : isPlainChar c = true) (hd : isPlainChar d = false) : c ≠ d := by
  rintro rfl
  rw [h] at hd
  cases hd

theorem Sign.word_plain {s : Sign} (hname : ∀ x, s = .name x → IsName x) : ∀ c ∈ s.word, isPlainChar c = true := by
  cases s with
  | name x =>
      intro c hc
      rw [isPlainChar, (hname x rfl).chars c hc]
      rfl
  | _ => exact List.all_eq_true.mp rfl

theorem Delimited.chars {signs : List Sign} {cs : List Char} (h : Delimited signs cs)
    (hnames : ∀ x, .name x ∈ signs → IsName x) : ∀ c ∈ cs, c = ' ' ∨ isPlainChar c = true := by
  induction h with
  | nil => exact nofun
  | space _ ih =>
      intro c hc
      obtain rfl | hc := List.mem_cons.mp hc
      · exact .inl rfl
      · exact ih hnames c hc
  | @sign s signs cs _ _ ih =>
      intro c hc
      obtain hc | hc := List.mem_append.mp hc
      · exact .inr (s.word_plain (fun x hx => hnames x (by simp [hx])) c hc)
      · exact ih (fun x hx => hnames x (List.mem_cons_of_mem _ hx)) c hc

/-- The first line of a text begins where it does not begin with spaces. -/
theorem lexFrom_fresh {c : Char} (hc : isPlainChar c = true) (cs : List Char) (fuel : Nat) :
    lexFrom (fuel + 1) ⟨[], [], true, false⟩ (c :: cs) = lexFrom fuel ⟨[], [], false, false⟩ (c :: cs) := by
  have hne : ∀ {d : Char}, isPlainChar d = false → c ≠ d := ne_of_isPlainChar hc
  have hmeasure : measureIndent 0 0 (c :: cs) = (0, 0, c :: cs) := by
    rw [measureIndent] <;> simp [hne (d := ' ') rfl, hne (d := '\t') rfl, hne (d := '\x0c') rfl]
  rw [lexFrom]
  · simp only [if_true, hmeasure]
    split
    next heq => exact absurd (List.cons.inj heq).1 (hne rfl)
    next heq => exact absurd (List.cons.inj heq).1 (hne rfl)
    next heq => cases heq
    next => exact bind_pure (lexFrom fuel ⟨[], [], false, false⟩ (c :: cs))
  all_goals exact hne rfl

theorem unifyLineEnds_eq {cs : List Char} (h : ∀ c ∈ cs, c ≠ '\r') : unifyLineEnds cs = cs := by
  induction cs with
  | nil => rfl
  | cons c cs ih =>
      have hc := h c List.mem_cons_self
      have hrest := ih fun d hd => h d (List.mem_cons_of_mem _ hd)
      rw [unifyLineEnds, hrest] <;> simp [hc]

/-- The tokens of a text in which signs can be told apart. -/
theorem tokens_delimited {signs : List Sign} {cs : List Char} (h : Delimited signs cs) (hsigns : signs ≠ [])
    (hnames : ∀ x, .name x ∈ signs → IsName x) (hcloses : Closes 0 signs) (hstart : ∀ rest, cs ≠ ' ' :: rest) :
    tokens cs = .ok (signs.map Sign.token ++ [.newline, .stop]) := by
  have hchars := h.chars hnames
  have hplain : ∀ {d : Char}, d ≠ ' ' → isPlainChar d = false → ∀ c ∈ cs, c ≠ d := by
    rintro d hspace hd c hc rfl
    exact absurd ((hchars c hc).resolve_left hspace) (by simp [hd])
  have hnul : cs.contains '\x00' = false := by
    rw [Bool.eq_false_iff, Ne, List.contains_iff_mem]
    exact fun hmem => hplain (by decide) rfl _ hmem rfl
  rw [tokens, hnul, unifyLineEnds_eq (hplain (by decide) rfl)]
  cases h with
  | nil => exact absurd rfl hsigns
  | space => exact absurd rfl (hstart _)
  | @sign s signs cs h hend =>
      have hname : ∀ x, s = .name x → IsName x := fun x hx => hnames x (by simp [hx])
      obtain ⟨c, word, hword⟩ := List.exists_cons_of_ne_nil (s.word_not_space hname).1
      have hc : isPlainChar c = true := s.word_plain hname c (by simp [hword])
      have hrow : lexFrom (2 * (s.word ++ cs).length + 3) ⟨[], [], false, false⟩ (s.word ++ cs) = _ :=
        lexFrom_delimited (.sign s h hend) hnames (d := 0) hcloses (by omega) (.inr hsigns)
      rw [hword, List.cons_append] at hrow ⊢
      exact (lexFrom_fresh hc _ _).trans hrow

/-- Once its operators are words, the signs of a formula can be told apart. -/
theorem delimited_normalize {b : Binding} {f : Formula} {signs : List Sign} {cs : List Char} (hwritten : Written b f signs)
    (hspaced : Spaced signs cs) (hnames : ∀ x ∈ f.names, IsName x) :
    Delimited signs (normalize (String.ofList cs)).toList ∧ ∀ rest, (normalize (String.ofList cs)).toList ≠ ' ' :: rest := by
  have hnames' : ∀ x, .name x ∈ signs → IsName x := fun x hx => hnames x (hwritten.names hx)
  obtain ⟨hdelimited, -⟩ := hspaced.delimited hwritten.namesApart hnames'
  have hnormalize : (normalize (String.ofList cs)).toList =
      ((spelledOut cs).dropWhile Text.isSpace).rdropWhile Text.isSpace := by
    rw [normalize, Text.strip, String.toList_ofList, String.toList_ofList, String.toList_ofList]
    rfl
  rw [hnormalize]
  refine ⟨(hdelimited.trimStart hnames').trimEnd hnames', fun rest hspace => ?_⟩
  have hprefix := List.rdropWhile_prefix Text.isSpace ((spelledOut cs).dropWhile Text.isSpace)
  rw [hspace] at hprefix
  obtain ⟨more, hmore⟩ := hprefix
  have hhead := List.head?_dropWhile_not Text.isSpace (spelledOut cs)
  rw [← hmore] at hhead
  have hblank : Text.isSpace ' ' = false := hhead
  exact absurd hblank (by decide)

/-- The tokens of a text that is a formula, once its operators are words. -/
theorem tokens_normalize {b : Binding} {f : Formula} {signs : List Sign} {cs : List Char} (hwritten : Written b f signs)
    (hspaced : Spaced signs cs) (hnames : ∀ x ∈ f.names, IsName x) :
    tokens (normalize (String.ofList cs)).toList = .ok (signs.map Sign.token ++ [.newline, .stop]) := by
  have hnames' : ∀ x, .name x ∈ signs → IsName x := fun x hx => hnames x (hwritten.names hx)
  obtain ⟨hdelimited, hstart⟩ := delimited_normalize hwritten hspaced hnames
  have hcloses : Closes 0 (signs ++ []) := hwritten.closes trivial
  rw [List.append_nil] at hcloses
  exact tokens_delimited hdelimited hwritten.ne_nil hnames' hcloses hstart

/-- A text has as many characters as signs, or more. -/
theorem Delimited.length_le {signs : List Sign} {cs : List Char} (h : Delimited signs cs)
    (hnames : ∀ x, .name x ∈ signs → IsName x) : signs.length ≤ cs.length := by
  induction h with
  | nil => exact Nat.le_refl 0
  | space _ ih => exact (ih hnames).trans (Nat.le_succ _)
  | @sign s signs cs _ _ ih =>
      have hlen : 0 < s.word.length := List.length_pos_iff.mpr (s.word_not_space fun x hx => hnames x (by simp [hx])).1
      have ih := ih fun x hx => hnames x (List.mem_cons_of_mem _ hx)
      rw [List.length_append, List.length_cons]
      omega

/-- A sign is not spelled with spaces. -/
theorem Spaced.exists_not_space {signs : List Sign} {cs : List Char} (h : Spaced signs cs) (hsigns : signs ≠ [])
    (hnames : ∀ x, .name x ∈ signs → IsName x) : ∃ c ∈ cs, Text.isSpace c = false := by
  induction h with
  | nil => exact absurd rfl hsigns
  | space _ ih =>
      obtain ⟨c, hc, hspace⟩ := ih hsigns hnames
      exact ⟨c, List.mem_cons_of_mem _ hc, hspace⟩
  | @sign s signs cs _ _ =>
      have hchars : ∃ c ∈ s.chars, Text.isSpace c = false := by
        cases s with
        | name x =>
            have hx := hnames x List.mem_cons_self
            obtain ⟨c, rest, hstarts, -⟩ := hx.starts
            have hc : c ∈ x.toList := by simp [hstarts]
            exact ⟨c, hc, isSpace_of_isNameChar (hx.chars c hc)⟩
        | _ => exact ⟨_, List.mem_cons_self, by decide⟩
      obtain ⟨c, hc, hspace⟩ := hchars
      exact ⟨c, List.mem_append_left _ hc, hspace⟩

/-- A text that is a formula is not empty when it is trimmed. -/
theorem Spaced.strip_ne {signs : List Sign} {cs : List Char} (h : Spaced signs cs) (hsigns : signs ≠ [])
    (hnames : ∀ x, .name x ∈ signs → IsName x) : (Text.strip (String.ofList cs)).isEmpty = false := by
  obtain ⟨c, hc, hspace⟩ := h.exists_not_space hsigns hnames
  have hkept : c ∈ cs.dropWhile Text.isSpace := by
    rw [← List.takeWhile_append_dropWhile (p := Text.isSpace) (l := cs)] at hc
    refine (List.mem_append.mp hc).resolve_left fun hdropped => ?_
    have hspace' := List.mem_takeWhile_imp hdropped
    rw [hspace] at hspace'
    cases hspace'
  have hne : (cs.dropWhile Text.isSpace).rdropWhile Text.isSpace ≠ [] := by
    rw [Ne, List.rdropWhile_eq_nil_iff]
    intro hall
    have hspace' := hall c hkept
    rw [hspace] at hspace'
    cases hspace'
  rw [Text.strip, String.toList_ofList]
  change (String.ofList ((cs.dropWhile Text.isSpace).rdropWhile Text.isSpace)).isEmpty = false
  simpa using hne

end Workflow.Expr
