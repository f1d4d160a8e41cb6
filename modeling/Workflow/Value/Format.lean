import Workflow.Value.Arithmetic
import Workflow.Number.Rounded

/-!
# Workflow.Value.Format

The text of a value under a format specification

`[[fill]align][sign][z][#][0][width][grouping][.precision][type]`.

Text takes a width, a precision that cuts it, and an alignment; numbers take
all of it.  Any other value has the empty specification only.
-/

namespace Workflow

/-! ## Specifications -/

/-- A specification taken apart. -/
structure FormatSpec where
  fill : Char
  align : Char
  sign : Option Char
  noNegativeZero : Bool
  alternate : Bool
  width : Option Nat
  grouping : Option Char
  precision : Option Nat
  type : Option Char

namespace FormatSpec

/-- A fault with a fixed wording. -/
def rule (text : String) : Except Fault α := .error (.valueRule text)

/-- A type letter inside a message. -/
def letterText (c : Char) : String :=
  if 32 < c.toNat ∧ c.toNat < 128 then String.singleton c
  else "\\x" ++ String.ofList (Nat.toDigits 16 c.toNat)

/-- Is the character an alignment? -/
def isAlign (c : Char) : Bool := c = '<' || c = '>' || c = '=' || c = '^'

/-- A natural at the front of a specification. -/
def takeNat (cs : List Char) : Except Fault (Option Nat × List Char) :=
  let ds := cs.takeWhile Char.isDigit
  if ds.isEmpty then .ok (none, cs)
  else
    let n := ds.foldl (fun n d => n * 10 + (d.toNat - '0'.toNat)) 0
    if Number.twoTo 63 ≤ n then rule "Too many decimal digits in format string"
    else .ok (some n, cs.drop ds.length)

/-- Moves past a character if it is next. -/
def takeIf (p : Char → Bool) : List Char → Option Char × List Char
  | c :: rest => if p c then (some c, rest) else (none, c :: rest)
  | [] => (none, [])

/-- Fill and alignment at the front of a specification. -/
def takeAlign : List Char → Option Char × Option Char × List Char
  | c :: d :: rest =>
    if isAlign d then (some c, some d, rest)
    else if isAlign c then (none, some c, d :: rest)
    else (none, none, c :: d :: rest)
  | [c] => if isAlign c then (none, some c, []) else (none, none, [c])
  | [] => (none, none, [])

/-- Grouping at the front of a specification; the two kinds exclude each other. -/
def takeGrouping (cs : List Char) : Except Fault (Option Char × List Char) :=
  let both : Except Fault (Option Char × List Char) := rule "Cannot specify both ',' and '_'."
  match cs with
  | ',' :: '_' :: _ => both
  | ',' :: rest => .ok (some ',', rest)
  | '_' :: ',' :: _ => both
  | '_' :: rest => .ok (some '_', rest)
  | cs => .ok (none, cs)

/-- Reads a specification for a value of the given type, with that type's own
letter and alignment. -/
def read (typeName : String) (letter : Option Char) (align : Char) (spec : String) :
    Except Fault FormatSpec := do
  let (fill?, align?, cs) := takeAlign spec.toList
  let (sign, cs) := takeIf (fun c => c = ' ' || c = '+' || c = '-') cs
  let (z, cs) := takeIf (· = 'z') cs
  let (hash, cs) := takeIf (· = '#') cs
  let (zero, cs) := if fill?.isSome then (none, cs) else takeIf (· = '0') cs
  let (width, cs) ← takeNat cs
  let (grouping, cs) ← takeGrouping cs
  let (precision, cs) ← match cs with
    | '.' :: rest => do
      let (p, cs) ← takeNat rest
      if p.isNone then rule "Format specifier missing precision" else pure (p, cs)
    | cs => pure (none, cs)
  let type ← match cs with
    | [] => pure letter
    | [c] => pure (some c)
    | _ => throw (.invalidSpecifier spec typeName)
  if let some g := grouping then
    let allowed := match type with
      | none => true
      | some c => "defgEG%F".toList.contains c || (g = '_' && "boxX".toList.contains c)
    if !allowed then
      rule ("Cannot specify '" ++ String.singleton g ++ "' with '" ++ letterText (type.getD ' ') ++ "'.")
  let fill := fill?.getD (if zero.isSome then '0' else ' ')
  let align := align?.getD (if zero.isSome && align = '>' then '=' else align)
  return ⟨fill, align, sign, z.isSome, hash.isSome, width, grouping, precision, type⟩

/-! ## Layout -/

/-- Characters padded to a width. -/
def pad (spec : FormatSpec) (lead body : List Char) : String :=
  let missing := spec.width.getD 0 - (lead.length + body.length)
  let fill (n : Nat) : List Char := List.replicate n spec.fill
  String.ofList <| match spec.align with
    | '<' => lead ++ body ++ fill missing
    | '^' => fill (missing / 2) ++ lead ++ body ++ fill (missing - missing / 2)
    | '=' => lead ++ fill missing ++ body
    | _ => fill missing ++ lead ++ body

/-- Digits (last first) in groups, with zeros up to a width that counts the
separators. -/
def groupDigits (size : Nat) (separator : Char) (fuel : Nat) (minWidth : Int) (ds : List Char) : List Char :=
  match fuel with
  | 0 => ds
  | fuel + 1 =>
    let need : Int := max (max (ds.length : Int) minWidth) 1
    let len : Nat := (min (size : Int) need).toNat
    let group := ds.take len ++ List.replicate (len - ds.length) '0'
    let rest := ds.drop len
    let minWidth := minWidth - len
    if rest.isEmpty && minWidth ≤ 0 then group
    else group ++ separator :: groupDigits size separator fuel (minWidth - 1) rest

/-- A number from its sign, the mark of its base, its whole digits and what
follows them. -/
def layNumber (spec : FormatSpec) (negative : Bool) (mark digits rest : List Char) : String :=
  let sign : List Char := if negative then ['-'] else match spec.sign with
    | some '+' => ['+']
    | some ' ' => [' ']
    | _ => []
  let lead := sign ++ mark
  let minWidth : Int := if spec.fill = '0' && spec.align = '=' then
    (spec.width.getD 0 : Int) - (lead.length + rest.length) else 0
  let grouped : List Char := match spec.grouping with
    | some separator =>
      if digits.isEmpty then []
      else
        let size := match spec.type with
          | some c => if "boxX".toList.contains c then 4 else 3
          | none => 3
        (groupDigits size separator (digits.length + minWidth.toNat + 1) minWidth digits.reverse).reverse
    | none => digits
  spec.pad lead (grouped ++ rest)

end FormatSpec

namespace Value

open FormatSpec (rule)
open Number (Binary64.Parts)

/-! ## Text -/

/-- A text under a specification. -/
def formatText (s : String) (text : String) : Except Fault String := do
  let spec ← FormatSpec.read "str" (some 's') '<' text
  if spec.type ≠ some 's' then
    throw (.unknownCode (FormatSpec.letterText (spec.type.getD 's')) "str")
  match spec.sign with
  | some ' ' => rule "Space not allowed in string format specifier"
  | some _ => rule "Sign not allowed in string format specifier"
  | none => pure ()
  if spec.noNegativeZero then rule "Negative zero coercion (z) not allowed in string format specifier"
  if spec.alternate then rule "Alternate form (#) not allowed in string format specifier"
  if spec.align = '=' then rule "'=' alignment not allowed in string format specifier"
  let cs := s.toList
  return spec.pad [] (match spec.precision with | some p => cs.take p | none => cs)

/-! ## Doubles -/

/-- The digits of a finite size under a type letter. -/
def floatBody (spec : FormatSpec) (letter : Option Char) (m : Nat) (q : Int) : String :=
  match letter with
  | some 'e' | some 'E' => Number.exponentialText m q (spec.precision.getD 6) spec.alternate
  | some 'f' | some 'F' => Number.fixedText m q (spec.precision.getD 6) spec.alternate
  | some _ =>
    let p := max (spec.precision.getD 6) 1
    Number.generalText m q p p spec.alternate false
  | none => match spec.precision with
    | some p =>
      let p := max p 1
      Number.generalText m q p (p - 1) spec.alternate true
    | none =>
      if m = 0 then "0.0"
      else
        let d := Number.shortestParts m q
        if -4 < d.point && d.point ≤ 16 then Number.positional d else Number.scientific d

/-- A double under a specification that has been read. -/
def layFloat (spec : FormatSpec) (x : Float) : String :=
  let (letter, x, percent) : Option Char × Float × List Char := match spec.type with
    | some '%' => (some 'f', x * 100.0, ['%'])
    | some 'n' => (some 'g', x, [])
    | t => (t, x, [])
  let capital := match spec.type with
    | some c => c = 'E' || c = 'F' || c = 'G'
    | none => false
  let raise (s : String) : List Char := if capital then s.toList.map Char.toUpper else s.toList
  match Number.Binary64.parts x with
  | .nan => spec.layNumber false [] [] (raise "nan" ++ percent)
  | .infinite negative => spec.layNumber negative [] [] (raise "inf" ++ percent)
  | .finite negative m q =>
    let body := raise (floatBody spec letter m q)
    let isZero := body.all fun c => !('1' ≤ c && c ≤ '9')
    let whole := body.takeWhile Char.isDigit
    spec.layNumber (negative && !(spec.noNegativeZero && isZero)) [] whole
      (body.drop whole.length ++ percent)

/-- The letters of a double. -/
def isFloatLetter (c : Char) : Bool := "eEfFgGn%".toList.contains c

/-- A double under a specification. -/
def formatFloat (x : Float) (text : String) : Except Fault String := do
  let spec ← FormatSpec.read "float" none '>' text
  match spec.type with
  | some c =>
    if isFloatLetter c then return layFloat spec x
    else throw (.unknownCode (FormatSpec.letterText c) "float")
  | none => return layFloat spec x

/-! ## Integers -/

/-- An integer as a character. -/
def formatCode (spec : FormatSpec) (n : Int) : Except Fault String := do
  if spec.sign.isSome then rule "Sign not allowed with integer format specifier 'c'"
  if spec.alternate then rule "Alternate form (#) not allowed with integer format specifier 'c'"
  if 0 ≤ n ∧ n < 0x110000 then return spec.pad [] [Char.ofNat n.toNat] else throw .codeOutOfRange

/-- An integer under a specification. -/
def formatInt (typeName : String) (n : Int) (text : String) : Except Fault String := do
  let spec ← FormatSpec.read typeName (some 'd') '>' text
  let letter := spec.type.getD 'd'
  if "bcdoxXn".toList.contains letter then
    if spec.precision.isSome then rule "Precision not allowed in integer format specifier"
    if spec.noNegativeZero then rule "Negative zero coercion (z) not allowed in integer format specifier"
    if letter = 'c' then formatCode spec n
    else
      let base := match letter with | 'b' => 2 | 'o' => 8 | 'x' => 16 | 'X' => 16 | _ => 10
      if base = 10 && (Value.int n).hasLongInt then throw .tooManyDigits
      let ds := Nat.toDigits base n.natAbs
      let ds := if letter = 'X' then ds.map Char.toUpper else ds
      let mark : List Char := if spec.alternate && base != 10 then ['0', letter] else []
      return spec.layNumber (decide (n < 0)) mark ds []
  else if isFloatLetter letter then
    match Number.Binary64.ofInt? n with
    | some x => return layFloat spec x
    | none => throw .intTooLargeForFloat
  else throw (.unknownCode (FormatSpec.letterText letter) typeName)

/-! ## Any value -/

/-- The text of a value under a specification. -/
def format (v : Value) (spec : String) : Except Fault String :=
  if spec.toList.contains '\x7b' then rule "unmatched '\x7b' in format spec"
  else if spec.toList.contains '\x7d' then rule "Single '\x7d' encountered in format string"
  else if spec.isEmpty then v.text?
  else match v with
    | .str s => formatText s spec
    | .float x => formatFloat x spec
    | .int n => formatInt "int" n spec
    | .bool b => formatInt "bool" (if b then 1 else 0) spec
    | v => .error (.unsupportedFormat v.typeName)

end Value
end Workflow
