import Workflow.Expr.Literal

/-!
# Workflow.Expr.Parse

Source text into the tree of its first statement.

The grammar is read by descent, one function per level, on the list of tokens
that are left.  Two tokens of lookahead settle every choice.  All functions
share one fuel, which `statement?` takes from the length of the text; it is
never what stops a reading, because every level above a token is counted.

A failure at a token of indentation is a problem of indentation, any other an
invalid text.
-/

namespace Workflow.Expr

/-- A reader of tokens. -/
abbrev Parse (α : Type) := StateT (List Token) (Except SyntaxProblem) α

namespace Parse

/-! ## Tokens -/

/-- A failure at the next token. -/
def fail {α : Type} : Parse α := do
  match (← get).head? with
  | some .indent | some .dedent => throw .indentation
  | _ => throw .invalid

/-- Moves past one token. -/
def advance : Parse Unit := modify (List.drop 1)

/-- The next token. -/
def peek : Parse Token := do return ((← get).head?).getD .stop

/-- Is the next token this operator? -/
def atOp (w : String) : Parse Bool := do
  match ← peek with
  | .op v => return v == w
  | _ => return false

/-- Is the next token this word? -/
def atWord (w : String) : Parse Bool := do
  match ← peek with
  | .name v => return v == w
  | _ => return false

/-- Moves past an operator if it is next. -/
def tryOp (w : String) : Parse Bool := do
  if ← atOp w then
    advance
    return true
  else return false

/-- Moves past a word if it is next. -/
def tryWord (w : String) : Parse Bool := do
  if ← atWord w then
    advance
    return true
  else return false

/-- Moves past an operator that must be next. -/
def expectOp (w : String) : Parse Unit := do
  if !(← tryOp w) then fail

/-- Moves past a word that must be next. -/
def expectWord (w : String) : Parse Unit := do
  if !(← tryWord w) then fail

/-- Moves past a line end that must be next. -/
def expectNewline : Parse Unit := do
  match ← peek with
  | .newline => advance
  | _ => fail

/-- The words that are no names. -/
def keywords : List String :=
  ["False", "None", "True", "and", "as", "assert", "async", "await", "break", "class", "continue",
   "def", "del", "elif", "else", "except", "finally", "for", "from", "global", "if", "import", "in",
   "is", "lambda", "nonlocal", "not", "or", "pass", "raise", "return", "try", "while", "with", "yield"]

/-- A name that must be next. -/
def expectName : Parse String := do
  match ← peek with
  | .name v =>
    if keywords.contains v then fail
    else
      advance
      return v
  | _ => fail

/-- Can the token start an expression? -/
def startsExpression : Token → Bool
  | .name v => !keywords.contains v || ["False", "None", "True", "not", "lambda", "await"].contains v
  | .number _ | .imaginary | .text .. => true
  | .op w => ["(", "[", "\x7b", "+", "-", "~", "..."].contains w
  | _ => false

/-- Can an item of a list start here? -/
def atItem : Parse Bool := do
  let t ← peek
  match t with
  | .op "*" => return true
  | _ => return startsExpression t

/-! ## Levels of binary operators -/

/-- The binary operators from the loosest to the tightest. -/
def binaryLevels : List (List (String × BinaryOp)) :=
  [[("|", .bitOr)], [("^", .bitXor)], [("&", .bitAnd)], [("<<", .shiftLeft), (">>", .shiftRight)],
   [("+", .add), ("-", .subtract)],
   [("*", .multiply), ("/", .divide), ("//", .floorDivide), ("%", .modulo), ("@", .matrixMultiply)]]

/-- The operator of a level that is next. -/
def operatorOf? (level : List (String × BinaryOp)) : Parse (Option BinaryOp) := do
  match ← peek with
  | .op w => return level.lookup w
  | _ => return none

/-- Moves past a comparison if one is next. -/
def tryComparison : Parse (Option Comparison) := do
  match ← get with
  | .op "==" :: rest => set rest; return some .equal
  | .op "!=" :: rest => set rest; return some .notEqual
  | .op "<" :: rest => set rest; return some .less
  | .op "<=" :: rest => set rest; return some .lessEqual
  | .op ">" :: rest => set rest; return some .greater
  | .op ">=" :: rest => set rest; return some .greaterEqual
  | .name "in" :: rest => set rest; return some .isIn
  | .name "not" :: .name "in" :: rest => set rest; return some .notIn
  | .name "is" :: .name "not" :: rest => set rest; return some .isOther
  | .name "is" :: rest => set rest; return some .isSame
  | _ => return none

/-! ## Targets -/

mutual

/-- May something be assigned to the expression? -/
def isTarget : Expr → Bool
  | .name _ | .attribute .. | .subscript .. => true
  | .starred e => isTarget e
  | .tuple es | .list es => areTargets es
  | _ => false

/-- May something be assigned to each of the expressions? -/
def areTargets : List Expr → Bool
  | [] => true
  | e :: es => isTarget e && areTargets es

end

/-- May an operation be applied to the place that the expression names? -/
def isSinglePlace : Expr → Bool
  | .name _ | .attribute .. | .subscript .. => true
  | _ => false

/-! ## Parts of formatted literals -/

/-- What a character of a replacement field's source does to the quote and the
brackets that are open, and how many characters go with it; nothing where the
source ends or is malformed.  The quote is kept with its length. -/
def fieldStep (quote : Option (Char × Nat)) (open_ : List Char) (c : Char) (rest : List Char) :
    Option (Option (Char × Nat) × List Char × Nat) :=
  let tripled := rest.take 2 == [c, c]
  let doubled := rest.head? == some '='
  match quote with
  | some (q, n) =>
    if c = '\\' then none
    else if c ≠ q then some (quote, open_, 0)
    else if n = 1 then some (none, open_, 0)
    else if tripled then some (none, open_, 2)
    else some (quote, open_, 0)
  | none =>
    if c = '\\' || c = '#' then none
    else if c = '"' || c = '\'' then
      if tripled then some (some (c, 3), open_, 2) else some (some (c, 1), open_, 0)
    else if c = '(' || c = '[' || c = '\x7b' then some (none, c :: open_, 0)
    else if open_.isEmpty && doubled && (c = '!' || c = '=' || c = '<' || c = '>') then
      some (none, open_, 1)
    else if c = ')' || c = ']' || c = '\x7d' then
      match open_ with
      | o :: below =>
        if (o = '(' && c = ')') || (o = '[' && c = ']') || (o = '\x7b' && c = '\x7d') then
          some (none, below, 0)
        else none
      | [] => none
    else some (none, open_, 0)

/-- Does the source of a replacement field end before this character? -/
def endsField (quote : Option (Char × Nat)) (open_ : List Char) (c : Char) (rest : List Char) : Bool :=
  quote.isNone && open_.isEmpty &&
    (c = ':' || c = '\x7d' || ((c = '!' || c = '=') && rest.head? != some '='))

/-- The source of a replacement field, up to the character that ends it, and
the rest. -/
def fieldSource (quote : Option (Char × Nat)) (open_ : List Char) :
    List Char → Option (List Char × List Char)
  | [] => none
  | c :: rest =>
    if endsField quote open_ c rest then some ([], c :: rest)
    else match fieldStep quote open_ c rest with
      | none => none
      | some (quote, open_, n) =>
        (fieldSource quote open_ (rest.drop n)).map fun (s, r) => (c :: rest.take n ++ s, r)
termination_by cs => cs.length
decreasing_by simp only [List.length_drop, List.length_cons]; omega

/-- The literal text at the front of a formatted literal, with doubled braces
made single at the outermost level, and the rest, which starts with a brace
or is empty. -/
def literalRun (outer : Bool) : List Char → Option (List Char × List Char)
  | [] => some ([], [])
  | c :: rest =>
    if c = '\x7b' || c = '\x7d' then
      if outer then
        match rest with
        | d :: more =>
          if d = c then (literalRun outer more).map fun (s, r) => (c :: s, r)
          else if c = '\x7d' then none
          else some ([], c :: rest)
        | [] => if c = '\x7d' then none else some ([], c :: rest)
      else some ([], c :: rest)
    else (literalRun outer rest).map fun (s, r) => (c :: s, r)

/-- Blanks at the front of a text. -/
def blanks (cs : List Char) : List Char × List Char := (cs.takeWhile Char.isWhitespace, cs.dropWhile Char.isWhitespace)

/-- Moves past a conversion `!r`, `!s` or `!a`; the flag says that there was one. -/
def conversion? : List Char → Option (Bool × List Char)
  | '!' :: c :: rest => if c = 'r' || c = 's' || c = 'a' then some (true, rest) else none
  | ['!'] => none
  | cs => some (false, cs)

/-- A constant text as a part, if it is not empty. -/
def textPart (cs : List Char) : List Expr :=
  if cs.isEmpty then [] else [.constant (.str (String.ofList cs))]

/-- Joins constant parts that stand side by side. -/
def mergeParts : List Expr → List Expr
  | .constant (.str a) :: rest => match mergeParts rest with
    | .constant (.str b) :: more => .constant (.str (a ++ b)) :: more
    | more => .constant (.str a) :: more
  | e :: rest => e :: mergeParts rest
  | [] => []

/-! ## Grammar -/

mutual

/-- `yes if test else no`, or a function. -/
def expression (fuel : Nat) : Parse Expr :=
  match fuel with
  | 0 => fail
  | fuel + 1 => do
    if ← tryWord "lambda" then
      parameters fuel false ":" false
      expectOp ":"
      let _ ← expression fuel
      return .unavailable "Lambda"
    else
      let yes ← disjunction fuel
      if ← tryWord "if" then
        let test ← disjunction fuel
        expectWord "else"
        let no ← expression fuel
        return .choice test yes no
      else return yes

/-- An expression, or one that names its value. -/
def namedExpression (fuel : Nat) : Parse Expr :=
  match fuel with
  | 0 => fail
  | fuel + 1 => do
    match ← get with
    | .name v :: .op ":=" :: rest =>
      if keywords.contains v then fail
      else
        set rest
        let _ ← expression fuel
        return .unavailable "NamedExpr"
    | _ => expression fuel

/-- Parameters of a function up to the closing token. -/
def parameters (fuel : Nat) (annotated : Bool) (closing : String) (defaults : Bool) : Parse Unit :=
  match fuel with
  | 0 => fail
  | fuel + 1 => do
    if ← atOp closing then return
    let mut seen := defaults
    if ← tryOp "/" then pure ()
    else if ← tryOp "**" then
      let _ ← expectName
      if annotated then annotation fuel
    else if ← tryOp "*" then
      seen := false
      if !(← atOp ",") then
        let _ ← expectName
        if annotated then annotation fuel
    else
      let _ ← expectName
      if annotated then annotation fuel
      if ← tryOp "=" then
        let _ ← expression fuel
        seen := true
      else if seen then fail
    if ← tryOp "," then parameters fuel annotated closing seen
    else if !(← atOp closing) then fail

/-- The annotation of a parameter. -/
def annotation (fuel : Nat) : Parse Unit :=
  match fuel with
  | 0 => fail
  | fuel + 1 => do
    if ← tryOp ":" then
      let _ ← expression fuel
      return
    else return

/-- Operands joined by `or`. -/
def disjunction (fuel : Nat) : Parse Expr :=
  match fuel with
  | 0 => fail
  | fuel + 1 => do
    let first ← conjunction fuel
    match ← disjunctionRest fuel with
    | [] => return first
    | rest => return .some (first :: rest)

/-- Further operands of `or`. -/
def disjunctionRest (fuel : Nat) : Parse (List Expr) :=
  match fuel with
  | 0 => fail
  | fuel + 1 => do
    if ← tryWord "or" then
      let e ← conjunction fuel
      let rest ← disjunctionRest fuel
      return e :: rest
    else return []

/-- Operands joined by `and`. -/
def conjunction (fuel : Nat) : Parse Expr :=
  match fuel with
  | 0 => fail
  | fuel + 1 => do
    let first ← inversion fuel
    match ← conjunctionRest fuel with
    | [] => return first
    | rest => return .every (first :: rest)

/-- Further operands of `and`. -/
def conjunctionRest (fuel : Nat) : Parse (List Expr) :=
  match fuel with
  | 0 => fail
  | fuel + 1 => do
    if ← tryWord "and" then
      let e ← inversion fuel
      let rest ← conjunctionRest fuel
      return e :: rest
    else return []

/-- `not` before a comparison. -/
def inversion (fuel : Nat) : Parse Expr :=
  match fuel with
  | 0 => fail
  | fuel + 1 => do
    if ← tryWord "not" then return .unary .not (← inversion fuel)
    else
      let first ← binary fuel binaryLevels
      match ← comparisonRest fuel with
      | [] => return first
      | rest => return .compare first rest

/-- The comparisons after a first operand. -/
def comparisonRest (fuel : Nat) : Parse (List (Comparison × Expr)) :=
  match fuel with
  | 0 => fail
  | fuel + 1 => do
    match ← tryComparison with
    | some op =>
      let e ← binary fuel binaryLevels
      let rest ← comparisonRest fuel
      return (op, e) :: rest
    | none => return []

/-- Binary operators of the given levels. -/
def binary (fuel : Nat) (levels : List (List (String × BinaryOp))) : Parse Expr :=
  match fuel with
  | 0 => fail
  | fuel + 1 => do
    match levels with
    | [] => factor fuel
    | level :: tighter => do
      let first ← binary fuel tighter
      binaryRest fuel level tighter first

/-- Further operands of one level, to the left. -/
def binaryRest (fuel : Nat) (level : List (String × BinaryOp))
    (tighter : List (List (String × BinaryOp))) (left : Expr) : Parse Expr :=
  match fuel with
  | 0 => fail
  | fuel + 1 => do
    match ← operatorOf? level with
    | some op =>
      advance
      let right ← binary fuel tighter
      binaryRest fuel level tighter (.binary op left right)
    | none => return left

/-- Signs and powers. -/
def factor (fuel : Nat) : Parse Expr :=
  match fuel with
  | 0 => fail
  | fuel + 1 => do
    if ← tryOp "+" then return .unary .plus (← factor fuel)
    else if ← tryOp "-" then return .unary .negate (← factor fuel)
    else if ← tryOp "~" then return .unary .invert (← factor fuel)
    else
      let base ← awaited fuel
      if ← tryOp "**" then return .binary .power base (← factor fuel)
      else return base

/-- A primary, waited for or not. -/
def awaited (fuel : Nat) : Parse Expr :=
  match fuel with
  | 0 => fail
  | fuel + 1 => do
    if ← tryWord "await" then
      let a ← atom fuel
      let _ ← trailers fuel a
      return .unavailable "Await"
    else
      let a ← atom fuel
      trailers fuel a

/-- Attributes, calls and subscripts behind a primary. -/
def trailers (fuel : Nat) (e : Expr) : Parse Expr :=
  match fuel with
  | 0 => fail
  | fuel + 1 => do
    if ← tryOp "." then
      let v ← expectName
      trailers fuel (.attribute e v)
    else if ← tryOp "(" then
      let (positional, keyword) ← callArguments fuel
      trailers fuel (.call e positional keyword)
    else if ← tryOp "[" then
      let key ← subscriptKey fuel
      expectOp "]"
      trailers fuel (.subscript e key)
    else return e

/-- The arguments of a call up to its closing bracket. -/
def callArguments (fuel : Nat) : Parse (List Expr × List (Option String × Expr)) :=
  match fuel with
  | 0 => fail
  | fuel + 1 => do
    if ← tryOp ")" then return ([], [])
    match ← get with
    | .name _ :: .op "=" :: _ => moreArguments fuel 0
    | .op "*" :: _ | .op "**" :: _ => moreArguments fuel 0
    | _ =>
      let e ← namedExpression fuel
      if (← atWord "for") || (← atWord "async") then
        let cs ← clauses fuel
        expectOp ")"
        return ([.comprehension e cs], [])
      else
        let (ps, ks) ← argumentEnd fuel 0
        return (e :: ps, ks)

/-- Arguments one by one.  After a keyword (`phase` one) no plain argument may
follow, after a mapping of keywords (two) no sequence of arguments either. -/
def moreArguments (fuel : Nat) (phase : Nat) : Parse (List Expr × List (Option String × Expr)) :=
  match fuel with
  | 0 => fail
  | fuel + 1 => do
    if ← tryOp ")" then return ([], [])
    match ← get with
    | .op "**" :: rest =>
      set rest
      let e ← expression fuel
      let (ps, ks) ← argumentEnd fuel 2
      return (ps, (none, e) :: ks)
    | .op "*" :: rest =>
      if 2 ≤ phase then fail
      else
        set rest
        let e ← expression fuel
        let (ps, ks) ← argumentEnd fuel phase
        return (.starred e :: ps, ks)
    | .name v :: .op "=" :: rest =>
      if keywords.contains v then fail
      else
        set rest
        let e ← expression fuel
        let (ps, ks) ← argumentEnd fuel (max phase 1)
        return (ps, (some v, e) :: ks)
    | _ =>
      if 1 ≤ phase then fail
      else
        let e ← namedExpression fuel
        let (ps, ks) ← argumentEnd fuel phase
        return (e :: ps, ks)

/-- What follows an argument. -/
def argumentEnd (fuel : Nat) (phase : Nat) : Parse (List Expr × List (Option String × Expr)) :=
  match fuel with
  | 0 => fail
  | fuel + 1 => do
    if ← tryOp "," then moreArguments fuel phase
    else
      expectOp ")"
      return ([], [])

/-- The key of a subscript; several keys make a tuple. -/
def subscriptKey (fuel : Nat) : Parse Expr :=
  match fuel with
  | 0 => fail
  | fuel + 1 => do
    let first ← sliceKey fuel
    if ← atOp "," then
      let rest ← moreKeys fuel
      return .tuple (first :: rest)
    else
      match first with
      | .starred _ => return .tuple [first]
      | _ => return first

/-- Further keys of a subscript. -/
def moreKeys (fuel : Nat) : Parse (List Expr) :=
  match fuel with
  | 0 => fail
  | fuel + 1 => do
    if ← tryOp "," then
      if ← atOp "]" then return []
      else
        let e ← sliceKey fuel
        let rest ← moreKeys fuel
        return e :: rest
    else return []

/-- One key: an expression or a slice. -/
def sliceKey (fuel : Nat) : Parse Expr :=
  match fuel with
  | 0 => fail
  | fuel + 1 => do
    if ← tryOp "*" then return .starred (← binary fuel binaryLevels)
    else
      let lower ← bound fuel
      if ← tryOp ":" then
        let upper ← bound fuel
        if ← tryOp ":" then
          let step ← bound fuel
          return .slice lower upper step
        else return .slice lower upper none
      else match lower with
        | some e => return e
        | none => fail

/-- A bound of a slice, if there is one. -/
def bound (fuel : Nat) : Parse (Option Expr) :=
  match fuel with
  | 0 => fail
  | fuel + 1 => do
    if startsExpression (← peek) then return some (← namedExpression fuel) else return none

/-- Names, literals and displays. -/
def atom (fuel : Nat) : Parse Expr :=
  match fuel with
  | 0 => fail
  | fuel + 1 => do
    match ← peek with
    | .name "None" => advance; return .constant .null
    | .name "True" => advance; return .constant (.bool true)
    | .name "False" => advance; return .constant (.bool false)
    | .name _ => return .name (← expectName)
    | .number v => advance; return .constant v
    | .imaginary => advance; return .unavailable "Constant"
    | .text .. => textLiterals fuel
    | .op "..." => advance; return .constant .ellipsis
    | .op "(" => advance; parenthesis fuel
    | .op "[" => advance; bracket fuel
    | .op "\x7b" => advance; brace fuel
    | _ => fail

/-- A group, a tuple or a generator, behind its opening bracket. -/
def parenthesis (fuel : Nat) : Parse Expr :=
  match fuel with
  | 0 => fail
  | fuel + 1 => do
    if ← tryOp ")" then return .tuple []
    else if ← atWord "yield" then
      let e ← yielding fuel
      expectOp ")"
      return e
    else
      let first ← item fuel
      if (← atWord "for") || (← atWord "async") then
        match first with
        | .starred _ => fail
        | _ =>
          let cs ← clauses fuel
          expectOp ")"
          return .comprehension first cs
      else if ← atOp "," then
        let rest ← moreItems fuel
        expectOp ")"
        return .tuple (first :: rest)
      else
        match first with
        | .starred _ => fail
        | _ =>
          expectOp ")"
          return first

/-- A list or a comprehension, behind its opening bracket. -/
def bracket (fuel : Nat) : Parse Expr :=
  match fuel with
  | 0 => fail
  | fuel + 1 => do
    if ← tryOp "]" then return .list []
    else
      let first ← item fuel
      if (← atWord "for") || (← atWord "async") then
        match first with
        | .starred _ => fail
        | _ =>
          let cs ← clauses fuel
          expectOp "]"
          return .comprehension first cs
      else
        let rest ← moreItems fuel
        expectOp "]"
        return .list (first :: rest)

/-- A mapping, a set or a comprehension of them, behind its opening brace. -/
def brace (fuel : Nat) : Parse Expr :=
  match fuel with
  | 0 => fail
  | fuel + 1 => do
    if ← tryOp "\x7d" then return .dict []
    else if ← atOp "**" then
      let es ← entries fuel
      return .dict es
    else
      let first ← item fuel
      if ← tryOp ":" then
        match first with
        | .starred _ | .unavailable "NamedExpr" => fail
        | _ =>
          let v ← expression fuel
          if (← atWord "for") || (← atWord "async") then
            let cs ← clauses fuel
            expectOp "\x7d"
            return .dictComprehension first v cs
          else if ← tryOp "," then
            let es ← entries fuel
            return .dict ((some first, v) :: es)
          else
            expectOp "\x7d"
            return .dict [(some first, v)]
      else if (← atWord "for") || (← atWord "async") then
        match first with
        | .starred _ => fail
        | _ =>
          let _ ← clauses fuel
          expectOp "\x7d"
          return .unavailable "SetComp"
      else
        let rest ← moreItems fuel
        expectOp "\x7d"
        return .set (first :: rest)

/-- The entries of a mapping up to its closing brace. -/
def entries (fuel : Nat) : Parse (List (Option Expr × Expr)) :=
  match fuel with
  | 0 => fail
  | fuel + 1 => do
    if ← tryOp "\x7d" then return []
    else
      let entry ← if ← tryOp "**" then do
          let e ← binary fuel binaryLevels
          pure (none, e)
        else do
          let k ← expression fuel
          expectOp ":"
          let v ← expression fuel
          pure (some k, v)
      if ← tryOp "," then
        let rest ← entries fuel
        return entry :: rest
      else
        expectOp "\x7d"
        return [entry]

/-- An item of a display: an expression or a sequence to spread. -/
def item (fuel : Nat) : Parse Expr :=
  match fuel with
  | 0 => fail
  | fuel + 1 => do
    if ← tryOp "*" then return .starred (← binary fuel binaryLevels) else namedExpression fuel

/-- Further items behind commas; a last comma may stand alone. -/
def moreItems (fuel : Nat) : Parse (List Expr) :=
  match fuel with
  | 0 => fail
  | fuel + 1 => do
    if ← tryOp "," then
      if ← atItem then
        let e ← item fuel
        let rest ← moreItems fuel
        return e :: rest
      else return []
    else return []

/-- The `for` clauses of a comprehension. -/
def clauses (fuel : Nat) : Parse (List Clause) :=
  match fuel with
  | 0 => fail
  | fuel + 1 => do
    let isAsync ← tryWord "async"
    if ← tryWord "for" then
      let target ← targetList fuel
      expectWord "in"
      let source ← disjunction fuel
      let conditions ← filters fuel
      let rest ← clauses fuel
      return .mk target source conditions :: rest
    else if isAsync then fail
    else return []

/-- The `if` conditions of a clause. -/
def filters (fuel : Nat) : Parse (List Expr) :=
  match fuel with
  | 0 => fail
  | fuel + 1 => do
    if ← tryWord "if" then
      let e ← disjunction fuel
      let rest ← filters fuel
      return e :: rest
    else return []

/-- What a loop assigns to. -/
def targetList (fuel : Nat) : Parse Expr :=
  match fuel with
  | 0 => fail
  | fuel + 1 => do
    let first ← targetItem fuel
    if ← atOp "," then
      let rest ← moreTargets fuel
      return .tuple (first :: rest)
    else return first

/-- Further targets behind commas. -/
def moreTargets (fuel : Nat) : Parse (List Expr) :=
  match fuel with
  | 0 => fail
  | fuel + 1 => do
    if ← tryOp "," then
      if ← atItem then
        let e ← targetItem fuel
        let rest ← moreTargets fuel
        return e :: rest
      else return []
    else return []

/-- One target. -/
def targetItem (fuel : Nat) : Parse Expr :=
  match fuel with
  | 0 => fail
  | fuel + 1 => do
    let starred ← tryOp "*"
    let e ← binary fuel binaryLevels
    if isTarget e then return if starred then .starred e else e else fail

/-- Expressions separated by commas; more than one make a tuple. -/
def expressions (fuel : Nat) : Parse Expr :=
  match fuel with
  | 0 => fail
  | fuel + 1 => do
    let first ← spread fuel
    if ← atOp "," then
      let rest ← moreExpressions fuel
      return .tuple (first :: rest)
    else return first

/-- Further expressions behind commas. -/
def moreExpressions (fuel : Nat) : Parse (List Expr) :=
  match fuel with
  | 0 => fail
  | fuel + 1 => do
    if ← tryOp "," then
      if ← atItem then
        let e ← spread fuel
        let rest ← moreExpressions fuel
        return e :: rest
      else return []
    else return []

/-- An expression or a sequence to spread. -/
def spread (fuel : Nat) : Parse Expr :=
  match fuel with
  | 0 => fail
  | fuel + 1 => do
    if ← tryOp "*" then return .starred (← binary fuel binaryLevels) else expression fuel

/-- `yield` and what it gives. -/
def yielding (fuel : Nat) : Parse Expr :=
  match fuel with
  | 0 => fail
  | fuel + 1 => do
    expectWord "yield"
    if ← tryWord "from" then
      let _ ← expression fuel
      return .unavailable "YieldFrom"
    else
      if ← atItem then
        let _ ← expressions fuel
      return .unavailable "Yield"

/-- Text literals side by side, as one. -/
def textLiterals (fuel : Nat) : Parse Expr :=
  match fuel with
  | 0 => fail
  | fuel + 1 => do
    let found := (← get).takeWhile fun t => match t with | .text .. => true | _ => false
    modify (List.drop found.length)
    let forms := found.filterMap fun t => match t with | .text form body => some (form, body) | _ => none
    if forms.any (·.1.bytes) then
      if forms.all (·.1.bytes) then
        let parts ← forms.mapM fun (form, body) => liftM (literalText form body)
        return .constant (.bytes (bytesOf parts.flatten))
      else throw .invalid
    else if forms.any (·.1.formatted) then
      let parts ← literalParts fuel forms
      return .joined (mergeParts parts)
    else
      let parts ← forms.mapM fun (form, body) => liftM (literalText form body)
      return .constant (.str (String.ofList parts.flatten))

/-- The parts of literals of which some are formatted. -/
def literalParts (fuel : Nat) (forms : List (LiteralForm × List Char)) : Parse (List Expr) :=
  match fuel with
  | 0 => fail
  | fuel + 1 => do
    match forms with
    | [] => return []
    | (form, body) :: rest => do
      let parts ← if form.formatted then do
          let (ps, left) ← formatParts fuel form 0 body
          if left.isEmpty then pure ps else throw .invalid
        else do
          let cs ← liftM (literalText form body)
          pure (textPart cs)
      let more ← literalParts fuel rest
      return parts ++ more

/-- The parts of a formatted literal, or of a format specification where
`depth` is positive, and what is left of its body. -/
def formatParts (fuel : Nat) (form : LiteralForm) (depth : Nat) (cs : List Char) :
    Parse (List Expr × List Char) :=
  match fuel with
  | 0 => fail
  | fuel + 1 => do
    match literalRun (depth == 0) cs with
    | none => throw .invalid
    | some (run, rest) =>
      let text ← liftM (literalText form run)
      match rest with
      | '\x7b' :: more => do
        if 2 ≤ depth then throw .invalid
        let (ps, rest) ← replacementField fuel form depth more
        let (qs, rest) ← formatParts fuel form depth rest
        return (textPart text ++ ps ++ qs, rest)
      | rest => return (textPart text, rest)

/-- A replacement field behind its opening brace. -/
def replacementField (fuel : Nat) (form : LiteralForm) (depth : Nat) (cs : List Char) :
    Parse (List Expr × List Char) :=
  match fuel with
  | 0 => fail
  | fuel + 1 => do
    match fieldSource none [] cs with
    | none => throw .invalid
    | some (source, rest) =>
      if source.all Char.isWhitespace then throw .invalid
      let value ← fieldExpression fuel source
      -- `=` shows the source of the field before its value
      let (shown, rest) : List Char × List Char := match rest with
        | '=' :: rest => let (b, rest) := blanks rest; (source ++ '=' :: b, rest)
        | rest => ([], rest)
      match conversion? rest with
      | none => throw .invalid
      | some (_, rest) =>
        match rest with
        | ':' :: rest =>
          let (spec, rest) ← formatParts fuel form (depth + 1) rest
          match rest with
          | '\x7d' :: rest =>
            return (textPart shown ++ [.formatted value (some (.joined (mergeParts spec)))], rest)
          | _ => throw .invalid
        | '\x7d' :: rest => return (textPart shown ++ [.formatted value none], rest)
        | _ => throw .invalid

/-- The expression of a replacement field, read as if in brackets. -/
def fieldExpression (fuel : Nat) (source : List Char) : Parse Expr :=
  match fuel with
  | 0 => fail
  | fuel + 1 => do
    let outside ← get
    let inside ← liftM (tokens ('(' :: source ++ [')']))
    set inside
    expectOp "("
    let e ← parenthesis fuel
    match ← get with
    | .newline :: .stop :: _ =>
      set outside
      return e
    | _ => throw .invalid

end

/-! ## Statements -/

/-- The operators that combine an operation with an assignment. -/
def assigningOperators : List String :=
  ["+=", "-=", "*=", "/=", "//=", "%=", "@=", "&=", "|=", "^=", ">>=", "<<=", "**="]

/-- The right side of an assignment. -/
def rightSide (fuel : Nat) : Parse Expr := do
  if ← atWord "yield" then yielding fuel else expressions fuel

/-- Further sides of an assignment; the last one is its value. -/
def assignmentRest (fuel : Nat) (e : Expr) : Parse Statement :=
  match fuel with
  | 0 => fail
  | fuel + 1 => do
    if !isTarget e then fail
    let v ← rightSide fuel
    if ← tryOp "=" then assignmentRest fuel v else return .assignment v

/-- Names separated by commas. -/
def nameList (fuel : Nat) : Parse Unit :=
  match fuel with
  | 0 => fail
  | fuel + 1 => do
    let _ ← expectName
    if ← tryOp "," then nameList fuel

/-- A name with dots. -/
def dottedName (fuel : Nat) : Parse Unit :=
  match fuel with
  | 0 => fail
  | fuel + 1 => do
    let _ ← expectName
    if ← tryOp "." then dottedName fuel

/-- Another name for something imported. -/
def importAlias : Parse Unit := do
  if ← tryWord "as" then
    let _ ← expectName

/-- Modules to import. -/
def importNames (fuel : Nat) : Parse Unit :=
  match fuel with
  | 0 => fail
  | fuel + 1 => do
    dottedName fuel
    importAlias
    if ← tryOp "," then importNames fuel

/-- Members to import, up to a closing bracket where there is one. -/
def importMembers (fuel : Nat) (closed : Bool) : Parse Unit :=
  match fuel with
  | 0 => fail
  | fuel + 1 => do
    let _ ← expectName
    importAlias
    if ← tryOp "," then
      if closed && (← atOp ")") then return else importMembers fuel closed

/-- The leading dots of an import from a module. -/
def leadingDots (fuel : Nat) (seen : Bool) : Parse Bool :=
  match fuel with
  | 0 => fail
  | fuel + 1 => do
    if (← tryOp ".") || (← tryOp "...") then leadingDots fuel true else return seen

/-- `from module import members`, behind its first word. -/
def importFrom (fuel : Nat) : Parse Unit := do
  let dots ← leadingDots fuel false
  if dots && (← atWord "import") then pure () else dottedName fuel
  expectWord "import"
  if ← tryOp "*" then return
  else if ← tryOp "(" then
    importMembers fuel true
    expectOp ")"
  else importMembers fuel false

/-- A statement that fits on a line. -/
def simpleStatement (fuel : Nat) : Parse Statement := do
  match ← peek with
  | .name "pass" => advance; return .unavailable "Pass"
  | .name "break" => advance; return .unavailable "Break"
  | .name "continue" => advance; return .unavailable "Continue"
  | .name "return" =>
    advance
    if ← atItem then
      let _ ← expressions fuel
    return .unavailable "Return"
  | .name "raise" =>
    advance
    if startsExpression (← peek) then
      let _ ← expression fuel
      if ← tryWord "from" then
        let _ ← expression fuel
    return .unavailable "Raise"
  | .name "global" => advance; nameList fuel; return .unavailable "Global"
  | .name "nonlocal" => advance; nameList fuel; return .unavailable "Nonlocal"
  | .name "del" =>
    advance
    let e ← expressions fuel
    match e with
    | .starred _ => fail
    | e => if isTarget e then return .unavailable "Delete" else fail
  | .name "assert" =>
    advance
    let _ ← expression fuel
    if ← tryOp "," then
      let _ ← expression fuel
    return .unavailable "Assert"
  | .name "import" => advance; importNames fuel; return .importing
  | .name "from" => advance; importFrom fuel; return .importing
  | .name "yield" =>
    let e ← yielding fuel
    return .expression e
  | _ =>
    let e ← expressions fuel
    match ← peek with
    | .op "=" => advance; assignmentRest fuel e
    | .op ":" =>
      if isSinglePlace e then
        advance
        let _ ← expression fuel
        if ← tryOp "=" then
          let _ ← rightSide fuel
        return .unavailable "AnnAssign"
      else fail
    | .op w =>
      if assigningOperators.contains w then
        if isSinglePlace e then
          advance
          let v ← rightSide fuel
          return .assignment v
        else fail
      else return .expression e
    | _ => return .expression e

/-- Statements on one line, up to its end. -/
def simpleStatements (fuel : Nat) : Parse (List Statement) :=
  match fuel with
  | 0 => fail
  | fuel + 1 => do
    let s ← simpleStatement fuel
    if ← tryOp ";" then
      match ← peek with
      | .newline =>
        advance
        return [s]
      | _ =>
        let rest ← simpleStatements fuel
        return s :: rest
    else
      expectNewline
      return [s]

mutual

/-- A statement of any kind. -/
def statement (fuel : Nat) : Parse (List Statement) :=
  match fuel with
  | 0 => fail
  | fuel + 1 => do
    match ← get with
    | .name "if" :: _ =>
      advance
      let _ ← namedExpression fuel
      block fuel
      alternatives fuel
      return [.unavailable "If"]
    | .name "while" :: _ =>
      advance
      let _ ← namedExpression fuel
      block fuel
      elseBlock fuel
      return [.unavailable "While"]
    | .name "for" :: _ =>
      advance
      forBody fuel
      return [.unavailable "For"]
    | .name "with" :: _ =>
      advance
      withItems fuel
      block fuel
      return [.unavailable "With"]
    | .name "try" :: _ =>
      advance
      block fuel
      let form ← handlers fuel false
      return [.unavailable form]
    | .name "def" :: _ =>
      advance
      functionBody fuel
      return [.unavailable "FunctionDef"]
    | .name "class" :: _ =>
      advance
      classBody fuel
      return [.unavailable "ClassDef"]
    | .name "async" :: .name "def" :: rest =>
      set rest
      functionBody fuel
      return [.unavailable "AsyncFunctionDef"]
    | .name "async" :: .name "for" :: rest =>
      set rest
      forBody fuel
      return [.unavailable "AsyncFor"]
    | .name "async" :: .name "with" :: rest =>
      set rest
      withItems fuel
      block fuel
      return [.unavailable "AsyncWith"]
    | .op "@" :: rest =>
      set rest
      let _ ← namedExpression fuel
      expectNewline
      match ← peek with
      | .op "@" | .name "def" | .name "class" | .name "async" => statement fuel
      | _ => fail
    | _ => simpleStatements fuel

/-- The body of a compound statement, behind its head. -/
def block (fuel : Nat) : Parse Unit :=
  match fuel with
  | 0 => fail
  | fuel + 1 => do
    expectOp ":"
    match ← get with
    | .newline :: .indent :: rest =>
      set rest
      blockLines fuel
    | .newline :: _ => throw .indentation
    | _ =>
      let _ ← simpleStatements fuel
      return

/-- The lines of an indented body. -/
def blockLines (fuel : Nat) : Parse Unit :=
  match fuel with
  | 0 => fail
  | fuel + 1 => do
    let _ ← statement fuel
    match ← peek with
    | .dedent => advance
    | _ => blockLines fuel

/-- `elif` and `else`. -/
def alternatives (fuel : Nat) : Parse Unit :=
  match fuel with
  | 0 => fail
  | fuel + 1 => do
    if ← tryWord "elif" then
      let _ ← namedExpression fuel
      block fuel
      alternatives fuel
    else elseBlock fuel

/-- `else`, if there is one. -/
def elseBlock (fuel : Nat) : Parse Unit :=
  match fuel with
  | 0 => fail
  | fuel + 1 => do
    if ← tryWord "else" then block fuel

/-- A `for` statement behind its first word. -/
def forBody (fuel : Nat) : Parse Unit :=
  match fuel with
  | 0 => fail
  | fuel + 1 => do
    let _ ← targetList fuel
    expectWord "in"
    let _ ← expressions fuel
    block fuel
    elseBlock fuel

/-- The managers of a `with` statement. -/
def withItems (fuel : Nat) : Parse Unit :=
  match fuel with
  | 0 => fail
  | fuel + 1 => do
    let _ ← expression fuel
    if ← tryWord "as" then
      let _ ← targetItem fuel
    if ← tryOp "," then withItems fuel

/-- The handlers of a `try` statement; the answer is the form of the whole. -/
def handlers (fuel : Nat) (any : Bool) : Parse String :=
  match fuel with
  | 0 => fail
  | fuel + 1 => do
    if ← tryWord "except" then
      let grouped ← tryOp "*"
      if startsExpression (← peek) then
        let _ ← expression fuel
        if ← tryWord "as" then
          let _ ← expectName
      block fuel
      let form ← handlers fuel true
      return if grouped then "TryStar" else form
    else if ← tryWord "finally" then
      block fuel
      return "Try"
    else if any then
      if ← tryWord "else" then
        block fuel
        if ← tryWord "finally" then block fuel
      return "Try"
    else fail

/-- A function behind its first word. -/
def functionBody (fuel : Nat) : Parse Unit :=
  match fuel with
  | 0 => fail
  | fuel + 1 => do
    let _ ← expectName
    expectOp "("
    parameters fuel true ")" false
    expectOp ")"
    if ← tryOp "->" then
      let _ ← expression fuel
    block fuel

/-- A class behind its first word. -/
def classBody (fuel : Nat) : Parse Unit :=
  match fuel with
  | 0 => fail
  | fuel + 1 => do
    let _ ← expectName
    if ← tryOp "(" then
      let _ ← callArguments fuel
    block fuel

end

/-- All statements of a source text. -/
def statements (fuel : Nat) : Parse (List Statement) :=
  match fuel with
  | 0 => fail
  | fuel + 1 => do
    match ← peek with
    | .stop => return []
    | .newline =>
      advance
      statements fuel
    | _ =>
      let first ← statement fuel
      let rest ← statements fuel
      return first ++ rest

end Parse

/-- The first statement of a source text, if it has one. -/
def statement? (source : String) : Except SyntaxProblem (Option Statement) := do
  let ts ← tokens source.toList
  let (ss, _) ← (Parse.statements (64 * (source.length + 4))).run ts
  return ss.head?

end Workflow.Expr
