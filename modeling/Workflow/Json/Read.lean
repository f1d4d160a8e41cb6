import Workflow.Value.Mapping
import Workflow.Value.Fault
import Workflow.Text.CharSet

/-!
# Workflow.Json.Read

JSON text into values.

1. Objects keep the order of their members; a repeated key keeps its first
   place and its last value.
2. Integers are read exactly; a fraction or an exponent makes a double.
   `NaN`, `Infinity` and `-Infinity` are accepted.
3. An error names what was expected and the position where; `ReadError.message`
   adds line and column.

The reader consumes its text from the left and carries the position along, so
a failure needs no second look at the text except for line and column.
-/

namespace Workflow.Json

/-! ## Errors -/

/-- What the reader missed. -/
inductive Problem where
  | byteOrderMark
  | value
  | propertyName
  | colon
  | comma
  | unterminated
  | control
  | escape
  | hexEscape
  | extraData
deriving DecidableEq, Inhabited

/-- A problem and the number of characters before it, or an integer with more
digits than are converted. -/
inductive ReadError where
  | at (problem : Problem) (position : Nat)
  | tooManyDigits (count : Nat)
deriving DecidableEq, Inhabited

/-- The wording of a problem. -/
def Problem.text : Problem → String
  | .byteOrderMark => "Unexpected UTF-8 BOM (decode using utf-8-sig)"
  | .value => "Expecting value"
  | .propertyName => "Expecting property name enclosed in double quotes"
  | .colon => "Expecting ':' delimiter"
  | .comma => "Expecting ',' delimiter"
  | .unterminated => "Unterminated string starting at"
  | .control => "Invalid control character at"
  | .escape => "Invalid \\escape"
  | .hexEscape => "Invalid \\uXXXX escape"
  | .extraData => "Extra data"

/-- Line and column, both from one, of a position in a text. -/
def lineAndColumn (source : List Char) (position : Nat) : Nat × Nat :=
  (source.take position).foldl (fun (l, c) ch => if ch = '\n' then (l + 1, 1) else (l, c + 1)) (1, 1)

/-- The wording of an error in a text. -/
def ReadError.message (source : String) : ReadError → String
  | .at problem position =>
    let (line, column) := lineAndColumn source.toList position
    problem.text ++ s!": line {line} column {column} (char {position})"
  | .tooManyDigits n => (Fault.tooManyDigitsIn n).message

/-! ## Cursor -/

/-- The text still to be read and the number of characters before it. -/
structure Cursor where
  rest : List Char
  position : Nat

namespace Cursor

/-- A failure at the cursor. -/
def fail (c : Cursor) (p : Problem) : Except ReadError α := .error (.at p c.position)

/-- The cursor moved past its first `n` characters. -/
def drop (c : Cursor) (n : Nat) : Cursor := ⟨c.rest.drop n, c.position + n⟩

/-- JSON's own white space. -/
def isBlank (ch : Char) : Bool := ch = ' ' || ch = '\t' || ch = '\n' || ch = '\r'

/-- The cursor moved past blanks. -/
def skipBlanks (c : Cursor) : Cursor := c.drop (c.rest.takeWhile isBlank).length

end Cursor

/-! ## Strings -/

/-- The number written by exactly four hexadecimal digits. -/
def fourHex? (cs : List Char) : Option Nat :=
  match (cs.take 4).mapM Text.hexDigit? with
  | some ds => if ds.length = 4 then some (ds.foldl (fun n d => n * 16 + d) 0) else none
  | none => none

/-- The character that a short escape stands for. -/
def shortEscape? : Char → Option Char
  | '"' => some '"'
  | '\\' => some '\\'
  | '/' => some '/'
  | 'b' => some '\x08'
  | 'f' => some '\x0c'
  | 'n' => some '\n'
  | 'r' => some '\r'
  | 't' => some '\t'
  | _ => none

/-- Reads the rest of a string.  `start` is the position of its opening quote
and `acc` holds the characters read so far, backwards. -/
def readString (start : Nat) (acc : List Char) (fuel : Nat) (c : Cursor) :
    Except ReadError (String × Cursor) :=
  match fuel with
  | 0 => .error (.at .unterminated start)
  | fuel + 1 =>
    match c.rest with
    | [] => .error (.at .unterminated start)
    | '"' :: _ => .ok (String.ofList acc.reverse, c.drop 1)
    | ['\\'] => .error (.at .unterminated start)
    | '\\' :: 'u' :: digits =>
      match fourHex? digits with
      | none => .error (.at .hexEscape (c.position + 1))
      | some n =>
        if digits.length ≤ 4 then .error (.at .hexEscape (c.position + 1))
        else
          -- a high surrogate followed by a low one is one character
          let low? := match digits.drop 4 with
            | '\\' :: 'u' :: more => if 0xD800 ≤ n ∧ n < 0xDC00 then fourHex? more else none
            | _ => none
          match low? with
          | some m =>
            if 0xDC00 ≤ m ∧ m < 0xE000 then
              let code := 0x10000 + (n - 0xD800) * 0x400 + (m - 0xDC00)
              readString start (Char.ofNat code :: acc) fuel (c.drop 12)
            else readString start ('\ufffd' :: acc) fuel (c.drop 6)
          | none =>
            let ch := if 0xD800 ≤ n ∧ n < 0xE000 then '\ufffd' else Char.ofNat n
            readString start (ch :: acc) fuel (c.drop 6)
    | '\\' :: e :: _ =>
      match shortEscape? e with
      | some ch => readString start (ch :: acc) fuel (c.drop 2)
      | none => c.fail .escape
    | ch :: _ =>
      if ch.toNat < 0x20 then c.fail .control else readString start (ch :: acc) fuel (c.drop 1)

/-! ## Numbers -/

/-- The natural written by decimal digits. -/
def natOf (ds : List Char) : Nat := ds.foldl (fun n d => n * 10 + (d.toNat - '0'.toNat)) 0

/-- The digits at the front of a text. -/
def leadingDigits (cs : List Char) : List Char := cs.takeWhile Char.isDigit

/-- The fraction at the front of a text, if a digit follows the point. -/
def fraction (cs : List Char) : List Char :=
  match cs with
  | '.' :: more => leadingDigits more
  | _ => []

/-- The exponent at the front of a text — its length and value — if it has a
digit. -/
def exponent? (cs : List Char) : Option (Nat × Int) :=
  match cs with
  | e :: more =>
    if e = 'e' || e = 'E' then
      let (sign, more) : Nat × List Char := match more with
        | '+' :: more => (1, more)
        | '-' :: more => (1, more)
        | more => (0, more)
      let negative := cs.drop 1 |>.head? |> (· == some '-')
      let ds := leadingDigits more
      if ds.isEmpty then none
      else some (1 + sign + ds.length, if negative then -(natOf ds : Int) else natOf ds)
    else none
  | [] => none

/-- The longest integer, in digits, that is converted. -/
def maxDigits : Nat := 4300

/-- Reads a number. -/
def readNumber (c : Cursor) : Except ReadError (Value × Cursor) :=
  let negative := c.rest.head? = some '-'
  let body := if negative then c.rest.drop 1 else c.rest
  let whole := match body with
    | '0' :: _ => ['0']
    | cs => leadingDigits cs
  if whole.isEmpty then c.fail .value
  else
    let signLength := if negative then 1 else 0
    let afterWhole := body.drop whole.length
    let frac := fraction afterWhole
    let fracLength := if frac.isEmpty then 0 else frac.length + 1
    let afterFrac := afterWhole.drop fracLength
    let exp? := exponent? afterFrac
    let length := signLength + whole.length + fracLength + (exp?.map (·.1)).getD 0
    if frac.isEmpty && exp?.isNone then
      if whole.length > maxDigits then .error (.tooManyDigits whole.length)
      else
        let n : Int := natOf whole
        .ok (.int (if negative then -n else n), c.drop length)
    else
      let e := (exp?.map (·.2)).getD 0 - frac.length
      .ok (.float (Number.Binary64.ofDecimal negative (natOf (whole ++ frac)) e), c.drop length)

/-! ## Values -/

/-- The cursor after a word, if the text starts with it. -/
def word? (c : Cursor) (w : String) : Option Cursor :=
  let cs := w.toList
  if cs.isPrefixOf c.rest then some (c.drop cs.length) else none

mutual

/-- Reads one value.  The fuel bounds the nesting and the number of members. -/
def readValue (fuel : Nat) (c : Cursor) : Except ReadError (Value × Cursor) :=
  match fuel with
  | 0 => c.fail .value
  | fuel + 1 =>
    match c.rest with
    | [] => c.fail .value
    | '"' :: _ => do
      let (s, c) ← readString c.position [] (c.rest.length + 1) (c.drop 1)
      return (.str s, c)
    | '{' :: _ =>
      let inner := (c.drop 1).skipBlanks
      match inner.rest with
      | '}' :: _ => .ok (.dict none [], inner.drop 1)
      | _ => do
        let (es, c) ← readMembers fuel [] inner
        return (.dict none es, c)
    | '[' :: _ =>
      let inner := (c.drop 1).skipBlanks
      match inner.rest with
      | ']' :: _ => .ok (.list [], inner.drop 1)
      | _ => do
        let (xs, c) ← readItems fuel [] inner
        return (.list xs, c)
    | _ =>
      match word? c "null" with
      | some c => .ok (.null, c)
      | none => match word? c "true" with
        | some c => .ok (.bool true, c)
        | none => match word? c "false" with
          | some c => .ok (.bool false, c)
          | none => match word? c "NaN" with
            | some c => .ok (.float Number.Binary64.nan, c)
            | none => match word? c "Infinity" with
              | some c => .ok (.float (Number.Binary64.infinity false), c)
              | none => match word? c "-Infinity" with
                | some c => .ok (.float (Number.Binary64.infinity true), c)
                | none => readNumber c

/-- Reads the members of an object up to its closing brace. -/
def readMembers (fuel : Nat) (es : Entries) (c : Cursor) : Except ReadError (Entries × Cursor) :=
  match fuel with
  | 0 => c.fail .propertyName
  | fuel + 1 =>
    match c.rest with
    | '"' :: _ => do
      let (name, c) ← readString c.position [] (c.rest.length + 1) (c.drop 1)
      let c := c.skipBlanks
      match c.rest with
      | ':' :: _ =>
        let (v, c) ← readValue fuel (c.drop 1).skipBlanks
        let es := es.setField name v
        let c := c.skipBlanks
        match c.rest with
        | '}' :: _ => return (es, c.drop 1)
        | ',' :: _ => readMembers fuel es (c.drop 1).skipBlanks
        | _ => c.fail .comma
      | _ => c.fail .colon
    | _ => c.fail .propertyName

/-- Reads the items of an array up to its closing bracket; `acc` holds the
items read so far, backwards. -/
def readItems (fuel : Nat) (acc : List Value) (c : Cursor) :
    Except ReadError (List Value × Cursor) :=
  match fuel with
  | 0 => c.fail .value
  | fuel + 1 => do
    let (v, c) ← readValue fuel c
    let c := c.skipBlanks
    match c.rest with
    | ']' :: _ => return ((v :: acc).reverse, c.drop 1)
    | ',' :: _ => readItems fuel (v :: acc) (c.drop 1).skipBlanks
    | _ => c.fail .comma

end

/-- Reads a text that holds one value. -/
def read (source : String) : Except ReadError Value := do
  let c : Cursor := ⟨source.toList, 0⟩
  if c.rest.head? = some '\ufeff' then c.fail .byteOrderMark
  else
    let (v, c) ← readValue (c.rest.length + 1) c.skipBlanks
    let c := c.skipBlanks
    if c.rest.isEmpty then return v else c.fail .extraData

end Workflow.Json
