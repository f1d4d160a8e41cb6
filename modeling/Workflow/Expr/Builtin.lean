import Workflow.Expr.Attribute
import Workflow.Expr.Token

/-!
# Workflow.Expr.Builtin

The functions that expressions may call: sizes, extremes and quantifiers, and
the types as makers of values.
-/

namespace Workflow.Expr

/-! ## Numbers from text -/

/-- Decimal digits of any script as ASCII, and white space as blanks. -/
def plainDigits (cs : List Char) : List Char :=
  cs.map fun c => match Text.decimalValue? c with
    | some d => Char.ofNat ('0'.toNat + d)
    | none => if Text.isSpace c then ' ' else c

/-- A text without blanks at its ends. -/
def trimBlanks (cs : List Char) : List Char := trim true true (· = ' ') cs

/-- The value of a digit or letter in bases up to thirty-six. -/
def digitValue? (c : Char) : Option Nat :=
  if c.isDigit then some (c.toNat - '0'.toNat)
  else if c.isLower then some (c.toNat - 'a'.toNat + 10)
  else if c.isUpper then some (c.toNat - 'A'.toNat + 10)
  else none

/-- The digits of a number in a base, single underscores between them left out. -/
def digitsIn? (base : Nat) : List Char → Option (List Nat)
  | [] => none
  | [c] => match digitValue? c with
    | some d => if d < base then some [d] else none
    | none => none
  | c :: '_' :: rest => match digitValue? c with
    | some d => if d < base then (digitsIn? base rest).map (d :: ·) else none
    | none => none
  | c :: rest => match digitValue? c with
    | some d => if d < base then (digitsIn? base rest).map (d :: ·) else none
    | none => none

/-- A sign at the front of a text. -/
def takeSign : List Char → Bool × List Char
  | '-' :: rest => (true, rest)
  | '+' :: rest => (false, rest)
  | cs => (false, cs)

/-- The base that a mark at the front of a number gives, where the base asked
for allows it, and what is behind the mark. -/
def takeMark (base : Nat) (cs : List Char) : Nat × Bool × List Char :=
  match cs with
  | '0' :: x :: rest =>
    let marked : Option Nat := match x.toLower with
      | 'x' => some 16
      | 'o' => some 8
      | 'b' => some 2
      | _ => none
    match marked with
    | some b =>
      if base = 0 || base = b then
        (b, true, match rest with | '_' :: more => more | rest => rest)
      else (base, false, cs)
    | none => (base, false, cs)
  | cs => (base, false, cs)

/-- An integer from text in a base; base zero reads marks. -/
def intOfText (base : Nat) (quoted : String) (cs : List Char) : Except Fault Int :=
  let bad : Except Fault Int := .error (.notAnInteger base quoted)
  let (negative, cs) := takeSign (trimBlanks (plainDigits cs))
  let (b, marked, cs) := takeMark base cs
  let radix := if b = 0 then 10 else b
  match digitsIn? radix cs with
  | none => bad
  | some ds =>
    -- without a mark, base zero allows a leading zero in zero only
    if base = 0 && !marked && ds.head? = some 0 && ds.any (· ≠ 0) then bad
    else if !([2, 4, 8, 16, 32].contains radix) && decide (Value.maxDigits < ds.length) then
      .error (.tooManyDigitsIn ds.length)
    else
      let size : Nat := ds.foldl (fun n d => n * radix + d) 0
      .ok (if negative then -(size : Int) else size)

/-- Digits at the front of a text, single underscores between them left out. -/
def digitsFront (cs : List Char) : Option (List Char × List Char) :=
  digitRun Char.isDigit cs

/-- A double from text. -/
def floatOfText? (cs : List Char) : Option Float := do
  let (negative, cs) := takeSign (trimBlanks (plainDigits cs))
  match String.ofList (cs.map Char.toLower) with
  | "nan" => return Number.Binary64.nan
  | "inf" | "infinity" => return Number.Binary64.infinity negative
  | _ =>
    let (whole, cs) ← digitsFront cs
    let (frac, cs) ← match cs with
      | '.' :: '_' :: _ => none
      | '.' :: rest => digitsFront rest
      | cs => some ([], cs)
    if whole.isEmpty && frac.isEmpty then none
    else
      let (exp?, cs) ← exponentPart cs
      if cs.isEmpty then
        return Number.Binary64.ofDecimal negative (inBase 10 (whole ++ frac)) (exp?.getD 0 - frac.length)
      else none

/-! ## Makers -/

/-- `int(x)` -/
def toInt (v : Value) : Except Fault Value :=
  match v with
  | .str s => (intOfText 10 v.repr s.toList).map .int
  | .bytes b => (intOfText 10 v.repr (b.map fun u => Char.ofNat u.toNat)).map .int
  | .float x => match Number.Binary64.truncate? x with
    | some n => .ok (.int n)
    | none => .error (.integerOf (if Number.Binary64.isNaN x then "NaN" else "infinity"))
  | v => match v.asInt? with
    | some n => .ok (.int n)
    | none => .error (.integerSource v.typeName)

/-- `int(x, base)` -/
def toIntIn (v base : Value) : Except Fault Value := do
  let b ← indexArgument base
  if (b ≠ 0 && b < 2) || 36 < b then throw .baseRange
  match v with
  | .str s => return .int (← intOfText b.toNat v.repr s.toList)
  | .bytes bs => return .int (← intOfText b.toNat v.repr (bs.map fun u => Char.ofNat u.toNat))
  | _ => throw .baseNeedsText

/-- `float(x)` -/
def toFloat (v : Value) : Except Fault Value :=
  match v with
  | .str s => match floatOfText? s.toList with
    | some x => .ok (.float x)
    | none => .error (.notAFloat v.repr)
  | .bytes b => match floatOfText? (b.map fun u => Char.ofNat u.toNat) with
    | some x => .ok (.float x)
    | none => .error (.notAFloat v.repr)
  | v => match v.numeric? with
    | some n => n.toFloat.map .float
    | none => .error (.floatSource v.typeName)

/-- `str(x)` with an encoding. -/
def decodeTo (v : Value) (encoding errors : Option Value) : Except Fault Value := do
  let (c, _) ← codecArguments "str" encoding errors
  match v with
  | .bytes b => return .str (← c.decode b)
  | .str _ => throw .decodingText
  | v => throw (.decodingOther v.typeName)

/-- Puts pairs into a mapping. -/
def putPairs (es : Entries) (i : Nat) : List Value → Except Fault Entries
  | [] => .ok es
  | p :: rest => do
    match p.items? with
    | none => throw (.pairShape i)
    | some [k, v] => putPairs (es.set k (← Value.keyOf k) v) (i + 1) rest
    | some xs => throw (.pairLength i xs.length)

/-- Adds the entries of a mapping, or of a sequence of pairs. -/
def updateFrom (es : Entries) (v : Value) : Except Fault Entries :=
  match v with
  | .dict _ fs => .ok (es.merge fs)
  | v => do putPairs es 0 (← v.iterate)

/-- The entries that keywords give. -/
def keywordEntries (ks : List (String × Value)) : Entries := ks.map fun (k, v) => (.str k, v)

/-- The number of items. -/
def sizeOf (v : Value) : Except Fault Value :=
  match v.length? with
  | some n => .ok (.int n)
  | none => .error (.noLength v.typeName)

/-! ## Extremes -/

/-- The extreme of items under a key: a later item wins only if it is better. -/
def extremeOf (op : Order) (key : Value → Except Fault Value) :
    Option (Value × Value) → List Value → Except Fault (Option Value)
  | best, [] => .ok (best.map (·.1))
  | none, x :: xs => do
    let k ← key x
    extremeOf op key (some (x, k)) xs
  | some (y, ky), x :: xs => do
    let k ← key x
    if ← Value.order op k ky then extremeOf op key (some (x, k)) xs
    else extremeOf op key (some (y, ky)) xs

/-- `min` and `max` -/
def extreme (name : String) (op : Order) (key : Value → Except Fault Value) (a : Arguments) :
    Except Fault Value := do
  if a.positional.isEmpty then throw (.expectedAtLeast name 1 0)
  match a.keywords.find? fun (k, _) => k != "key" && k != "default" with
  | some (k, _) => throw (.unknownKeyword name k)
  | none => pure ()
  let default? := a.keywords.lookup "default"
  let xs ← match a.positional with
    | [v] => v.iterate
    | xs => if default?.isSome then throw (.defaultWithMany name) else pure xs
  match ← extremeOf op key none xs with
  | some v => return v
  | none => match default? with
    | some v => return v
    | none => throw (.emptySequence name)

/-! ## Calls -/

/-- Calls a function, extremes without regard to a key. -/
def callBasic (f : Builtin) (a : Arguments) : Except Fault Value := do
  match f with
  | .len => sizeOf (← a.one "len")
  | .abs => Value.absolute (← a.one "abs")
  | .any => return .bool ((← (← a.one "any").iterate).any Value.truthy)
  | .all => return .bool ((← (← a.one "all").iterate).all Value.truthy)
  | .min => extreme "min" .lt pure a
  | .max => extreme "max" .gt pure a
  | .str =>
    match ← a.named "str" ["object", "encoding", "errors"] with
    | [some v, none, none] => return .str (← v.text?)
    | [some v, encoding, errors] => decodeTo v encoding errors
    | _ => return .str ""
  | .int =>
    if 2 < a.positional.length + a.keywords.length then
      throw (.takesAtMost "int" 2 (a.positional.length + a.keywords.length))
    match a.keywords.find? fun (k, _) => k != "base" with
    | some (k, _) => throw (.unknownKeyword "int" k)
    | none => match a.positional, (a.keywords.lookup "base").or a.positional[1]? with
      | [], some _ => throw .missingText
      | [], none => return .int 0
      | v :: _, some base => toIntIn v base
      | v :: _, none => toInt v
  | .float =>
    match ← a.between "float" "float" 0 1 with
    | [] => return .float 0.0
    | v :: _ => toFloat v
  | .bool =>
    match ← a.between "bool" "bool" 0 1 with
    | [] => return .bool false
    | v :: _ => return .bool v.truthy
  | .list =>
    match ← a.between "list" "list" 0 1 with
    | [] => return .list []
    | v :: _ => return .list (← v.iterate)
  | .tuple =>
    match ← a.between "tuple" "tuple" 0 1 with
    | [] => return .tuple []
    | v :: _ => return .tuple (← v.iterate)
  | .set =>
    match ← a.between "set" "set" 0 1 with
    | [] => return .set []
    | v :: _ => Value.setOf (← v.iterate)
  | .dict =>
    match a.positional with
    | [] => return .dict none (keywordEntries a.keywords)
    | [v] => return .dict none ((← updateFrom [] v).merge (keywordEntries a.keywords))
    | xs => throw (.expectedAtMost "dict" 1 xs.length)

/-- Calls a value with one argument. -/
def applyTo (f x : Value) : Except Fault Value :=
  match f with
  | .builtin b => callBasic b ⟨[x], [], false⟩
  | .method v name => callMethod v name ⟨[x], [], false⟩
  | .unbound t name => callUnbound t name ⟨[x], [], false⟩
  | v => .error (.notCallable v.typeName)

/-- The key function of an extreme. -/
def keyFunction (a : Arguments) : Value → Except Fault Value :=
  match a.keywords.lookup "key" with
  | none | some .null => pure
  | some f => applyTo f

/-- The methods of texts and sets that take no keywords of any kind. -/
def positionalMethods : Value → List String
  | .str _ => ["find", "rfind", "index", "rindex", "count", "startswith", "endswith"]
  | .set _ => ["union", "intersection", "difference"]
  | _ => []

/-- Refuses a keyword without a name, unless something else is refused before it. -/
def namelessFault? (f : Value) (a : Arguments) : Option Fault :=
  match f with
  | .builtin .min | .builtin .max => if a.positional.isEmpty then none else some .keywordName
  | .method v name =>
    if (positionalMethods v).contains name then some (.takesNoKeywords name) else some .keywordName
  | .builtin _ | .unbound .. => some .keywordName
  | _ => none

/-- Calls a value whose keywords all have names. -/
def callNamed (f : Value) (a : Arguments) : Except Fault Value :=
  match f with
  | .builtin .min => extreme "min" .lt (keyFunction a) a
  | .builtin .max => extreme "max" .gt (keyFunction a) a
  | .builtin b => callBasic b a
  | .method v name => callMethod v name a
  | .unbound t name => callUnbound t name a
  | v => .error (.notCallable v.typeName)

/-- Calls a value. -/
def callValue (f : Value) (a : Arguments) : Except Fault Value :=
  match if a.nameless then namelessFault? f a else none with
  | some e => .error e
  | none => callNamed f a

end Workflow.Expr
