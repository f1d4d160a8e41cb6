import Workflow.Expr.Syntax
import Workflow.Number.Binary64
import Workflow.Text.Properties
import Workflow.Text.Compatibility

/-!
# Workflow.Expr.Token

The tokens of a source text.

1. Names are put into compatibility form; words with a meaning of their own
   are names here and told apart by the grammar.
2. Numbers are read at once, text literals keep their body for later.
3. Line ends count outside brackets only, and indentation gives tokens of its
   own; a line that holds nothing but a comment gives none.
-/

namespace Workflow.Expr

/-! ## Tokens -/

/-- What the letters before a text literal make of it. -/
structure LiteralForm where
  raw : Bool
  bytes : Bool
  formatted : Bool
deriving DecidableEq, Inhabited

/-- A token. -/
inductive Token where
  | name (s : String)
  | number (v : Value)
  | imaginary
  | text (form : LiteralForm) (body : List Char)
  | op (s : String)
  | newline
  | indent
  | dedent
  | stop
deriving Inhabited

/-! ## Numbers -/

/-- The digits at the front of a text, single underscores between them left
out, with the rest; nothing when an underscore has no digit behind it. -/
def digitRun (isDigit : Char → Bool) : List Char → Option (List Char × List Char)
  | [] => some ([], [])
  | c :: rest =>
    if isDigit c then (digitRun isDigit rest).map fun (ds, r) => (c :: ds, r)
    else match c, rest with
      | '_', d :: more =>
        if isDigit d then (digitRun isDigit more).map fun (ds, r) => (d :: ds, r) else none
      | '_', [] => none
      | _, _ => some ([], c :: rest)

/-- Digits, of which there must be one at the front. -/
def digits? (isDigit : Char → Bool) (cs : List Char) : Option (List Char × List Char) :=
  match cs with
  | c :: _ => if isDigit c then digitRun isDigit cs else none
  | [] => none

/-- The natural written by digits in a base. -/
def inBase (base : Nat) (ds : List Char) : Nat :=
  ds.foldl (fun n d => n * base + (Text.hexDigit? d).getD 0) 0

/-- May the text follow a number directly?  A word may, if it can join two
operands. -/
def mayFollowNumber (cs : List Char) : Bool :=
  match cs with
  | [] => true
  | c :: _ =>
    if c.isAlphanum || c = '_' || !Text.isAscii c then
      ["and", "else", "for", "if", "in", "is", "or", "not"].any fun w => w.toList.isPrefixOf cs
    else true

/-- A number in base two, eight or sixteen, behind its two-character mark. -/
def radixNumber? (base : Nat) (cs : List Char) : Option (Token × List Char) :=
  let isDigit (c : Char) : Bool := match Text.hexDigit? c with
    | some d => decide (d < base)
    | none => false
  let cs := match cs with
    | '_' :: more => more
    | cs => cs
  match digits? isDigit cs with
  | some (ds, rest) => if mayFollowNumber rest then some (.number (.int (inBase base ds)), rest) else none
  | none => none

/-- The exponent at the front of a text: its value and the rest.  Without a
digit there is none, and the letter belongs to what follows. -/
def exponentPart (cs : List Char) : Option (Option Int × List Char) :=
  match cs with
  | e :: more =>
    if e = 'e' || e = 'E' then
      let (negative, more) := match more with
        | '-' :: more => (true, more)
        | '+' :: more => (false, more)
        | more => (false, more)
      match more with
      | d :: _ =>
        if d.isDigit then (digitRun Char.isDigit more).map fun (ds, rest) =>
          (some (if negative then -(inBase 10 ds : Int) else inBase 10 ds), rest)
        else some (none, cs)
      | [] => some (none, cs)
    else some (none, cs)
  | [] => some (none, [])

/-- The longest integer literal, in digits. -/
def maxLiteralDigits : Nat := 4300

/-- The fraction at the front of a text: whether there is a point, the digits
behind it, and the rest. -/
def fractionPart (cs : List Char) : Option (Bool × List Char × List Char) :=
  match cs with
  | '.' :: d :: more =>
    if d.isDigit then (digitRun Char.isDigit (d :: more)).map fun (ds, r) => (true, ds, r)
    else some (true, [], d :: more)
  | ['.'] => some (true, [], [])
  | cs => some (false, [], cs)

/-- Is this the mark of an imaginary number? -/
def isImaginaryMark (cs : List Char) : Bool :=
  match cs with
  | c :: _ => c = 'j' || c = 'J'
  | [] => false

/-- Ends a decimal number with the given whole digits: a fraction, an exponent
and the mark of an imaginary number may follow. -/
def decimalNumber? (whole : List Char) (cs : List Char) : Option (Token × List Char) := do
  let (point, frac, cs) ← fractionPart cs
  let (exp?, cs) ← exponentPart cs
  if isImaginaryMark cs then return (.imaginary, cs.drop 1)
  else if !mayFollowNumber cs then none
  else if point || exp?.isSome then
    let x := Number.Binary64.ofDecimal false (inBase 10 (whole ++ frac)) (exp?.getD 0 - frac.length)
    return (.number (.float x), cs)
  else if 1 < whole.length && whole.head? = some '0' && whole.any (· ≠ '0') then none
  else if maxLiteralDigits < whole.length then none
  else return (.number (.int (inBase 10 whole)), cs)

/-- The number at the front of a text that starts with a digit or a point. -/
def number? (cs : List Char) : Option (Token × List Char) :=
  match cs with
  | '0' :: x :: rest =>
    if x = 'x' || x = 'X' then radixNumber? 16 rest
    else if x = 'o' || x = 'O' then radixNumber? 8 rest
    else if x = 'b' || x = 'B' then radixNumber? 2 rest
    else match digitRun Char.isDigit cs with
      | some (ds, rest) => decimalNumber? ds rest
      | none => none
  | '.' :: _ => decimalNumber? [] cs
  | _ => match digitRun Char.isDigit cs with
    | some (ds, rest) => decimalNumber? ds rest
    | none => none

/-! ## Text literals -/

/-- The form that the letters before a quote give a literal. -/
def literalForm? (letters : List Char) : Option LiteralForm :=
  match letters.map Char.toLower with
  | [] | ['u'] => some ⟨false, false, false⟩
  | ['r'] => some ⟨true, false, false⟩
  | ['b'] => some ⟨false, true, false⟩
  | ['f'] => some ⟨false, false, true⟩
  | ['b', 'r'] | ['r', 'b'] => some ⟨true, true, false⟩
  | ['f', 'r'] | ['r', 'f'] => some ⟨true, false, true⟩
  | _ => none

/-- The body of a literal on one line, and the rest behind its closing quote. -/
def shortBody? (quote : Char) : List Char → Option (List Char × List Char)
  | [] => none
  | [c] => if c = quote then some ([], []) else none
  | c :: d :: rest =>
    if c = quote then some ([], d :: rest)
    else if c = '\n' then none
    else if c = '\\' then (shortBody? quote rest).map fun (b, r) => (c :: d :: b, r)
    else (shortBody? quote (d :: rest)).map fun (b, r) => (c :: b, r)

/-- The body of a literal in threefold quotes. -/
def longBody? (quote : Char) : List Char → Option (List Char × List Char)
  | a :: b :: c :: rest =>
    if a = quote && b = quote && c = quote then some ([], rest)
    else if a = '\\' then (longBody? quote (c :: rest)).map fun (t, r) => (a :: b :: t, r)
    else (longBody? quote (b :: c :: rest)).map fun (t, r) => (a :: t, r)
  | _ => none
termination_by cs => cs.length

/-- The body of the literal at an opening quote. -/
def literalBody? (quote : Char) (rest : List Char) : Option (List Char × List Char) :=
  match rest with
  | a :: b :: more =>
    if a = quote && b = quote then longBody? quote more
    else shortBody? quote rest
  | _ => shortBody? quote rest

/-! ## Operators -/

/-- The operators, longer ones first. -/
def operatorTable : List String :=
  ["**=", "//=", ">>=", "<<=", "...", "**", "//", ">>", "<<", "<=", ">=", "==", "!=", "->", "+=",
   "-=", "*=", "/=", "%=", "&=", "|=", "^=", "@=", ":=", "+", "-", "*", "/", "%", "@", "&", "|", "^",
   "~", "<", ">", "(", ")", "[", "]", "\x7b", "\x7d", ",", ":", ";", ".", "="]

/-- The operator at the front of a text. -/
def operator? (cs : List Char) : Option (String × List Char) :=
  (operatorTable.find? fun w => w.toList.isPrefixOf cs).map fun w => (w, cs.drop w.length)

/-- The bracket that a closing bracket closes. -/
def openingOf? : String → Option String
  | ")" => some "("
  | "]" => some "["
  | "\x7d" => some "\x7b"
  | _ => none

/-! ## Lines -/

/-- The width of the blanks at the start of a line, with tab stops every eight
columns and every column, and what follows them. -/
def measureIndent (column tabColumn : Nat) : List Char → Nat × Nat × List Char
  | ' ' :: cs => measureIndent (column + 1) (tabColumn + 1) cs
  | '\t' :: cs => measureIndent ((column / 8 + 1) * 8) (tabColumn + 1) cs
  | '\x0c' :: cs => measureIndent 0 0 cs
  | cs => (column, tabColumn, cs)

/-- Closes indentations until one of the given width is on top. -/
def closeIndents (column tabColumn : Nat) : List (Nat × Nat) → Except SyntaxProblem (Nat × List (Nat × Nat))
  | [] => if column = 0 then .ok (0, []) else .error .indentation
  | (c, t) :: below =>
    if c = column then (if t = tabColumn then .ok (0, (c, t) :: below) else .error .tabs)
    else if column < c then (closeIndents column tabColumn below).map fun (n, s) => (n + 1, s)
    else .error .indentation

/-- What the indentation of a line does: the tokens it gives and the open
indentations after it. -/
def indentTokens (column tabColumn : Nat) (open_ : List (Nat × Nat)) :
    Except SyntaxProblem (List Token × List (Nat × Nat)) :=
  let (c, t) := open_.headD (0, 0)
  if column = c then (if tabColumn = t then .ok ([], open_) else .error .tabs)
  else if c < column then
    if t < tabColumn then .ok ([.indent], (column, tabColumn) :: open_) else .error .tabs
  else (closeIndents column tabColumn open_).map fun (n, s) => (List.replicate n .dedent, s)

/-- Where the reader of tokens stands. -/
structure LexState where
  /-- brackets that are open, innermost first -/
  brackets : List String
  /-- indentations that are open, innermost first -/
  indents : List (Nat × Nat)
  /-- at the start of a line -/
  fresh : Bool
  /-- the line has given a token -/
  filled : Bool

/-- Reads tokens; the fuel bounds their number. -/
def lexFrom (fuel : Nat) (st : LexState) (cs : List Char) : Except SyntaxProblem (List Token) :=
  match fuel with
  | 0 => .error .invalid
  | fuel + 1 =>
    if st.fresh then
      let (column, tabColumn, rest) := measureIndent 0 0 cs
      match rest with
      | '\n' :: rest => lexFrom fuel st rest
      | '#' :: _ => lexFrom fuel { st with fresh := false, filled := false } rest
      | [] => lexFrom fuel { st with fresh := false } []
      | _ => do
        let (ts, indents) ← indentTokens column tabColumn st.indents
        let more ← lexFrom fuel { st with indents, fresh := false, filled := false } rest
        return ts ++ more
    else
      match cs with
      | [] =>
        .ok ((if st.filled then [.newline] else []) ++ st.indents.map (fun _ => .dedent) ++ [.stop])
      | '\n' :: rest =>
        if st.brackets.isEmpty then
          if st.filled then do
            let more ← lexFrom fuel { st with fresh := true, filled := false } rest
            return .newline :: more
          else lexFrom fuel { st with fresh := true } rest
        else lexFrom fuel st rest
      | ' ' :: rest | '\t' :: rest | '\x0c' :: rest => lexFrom fuel st rest
      | '#' :: rest => lexFrom fuel st (rest.dropWhile (· ≠ '\n'))
      | '\\' :: rest => match rest with
        | '\n' :: c :: more => lexFrom fuel st (c :: more)
        | _ => .error .invalid
      | c :: rest =>
        let filled := { st with filled := true }
        let emit (found : Option (Token × List Char)) : Except SyntaxProblem (List Token) :=
          match found with
          | some (t, rest) => do
            let more ← lexFrom fuel filled rest
            return t :: more
          | none => .error .invalid
        if c = '"' || c = '\'' then
          emit ((literalBody? c rest).map fun (b, r) => (.text ⟨false, false, false⟩ b, r))
        else if c.isDigit then emit (number? cs)
        else if c = '.' && (rest.head?.map Char.isDigit).getD false then emit (number? cs)
        else if c.isAlpha || c = '_' || !Text.isAscii c then
          let word := cs.takeWhile fun c => c.isAlphanum || c = '_' || !Text.isAscii c
          let rest := cs.drop word.length
          let quote? := match rest with
            | q :: more => if q = '"' || q = '\'' then (literalForm? word).map fun f => (f, q, more) else none
            | [] => none
          match quote? with
          | some (form, q, more) => emit ((literalBody? q more).map fun (b, r) => (.text form b, r))
          | none =>
            if (word.head?.map Text.isNameStart).getD false && word.all Text.isNameContinue then
              emit (some (.name (String.ofList (Text.compatibilityForm word)), rest))
            else .error .invalid
        else
          match operator? cs with
          | some (w, rest) =>
            if w = "(" || w = "[" || w = "\x7b" then do
              let more ← lexFrom fuel { filled with brackets := w :: st.brackets } rest
              return .op w :: more
            else match openingOf? w with
              | some opening =>
                if st.brackets.head? = some opening then do
                  let more ← lexFrom fuel { filled with brackets := st.brackets.drop 1 } rest
                  return .op w :: more
                else .error .invalid
              | none => emit (some (.op w, rest))
          | none => .error .invalid

/-- Line ends of every kind as line feeds. -/
def unifyLineEnds : List Char → List Char
  | '\r' :: '\n' :: cs => '\n' :: unifyLineEnds cs
  | '\r' :: cs => '\n' :: unifyLineEnds cs
  | c :: cs => c :: unifyLineEnds cs
  | [] => []

/-- The tokens of a source text. -/
def tokens (source : List Char) : Except SyntaxProblem (List Token) :=
  if source.contains '\x00' then .error .invalid
  else lexFrom (2 * source.length + 4) ⟨[], [], true, false⟩ (unifyLineEnds source)

end Workflow.Expr
