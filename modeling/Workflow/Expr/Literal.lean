import Workflow.Expr.Token

/-!
# Workflow.Expr.Literal

The text that a literal stands for.

A backslash starts an escape; one that is not known stands for itself.  In a
byte string the escapes for characters beyond a byte are not known, and every
character must be ASCII.
-/

namespace Workflow.Expr

/-! ## Escapes -/

/-- The number written by exactly `count` hexadecimal digits, and the rest. -/
def hexDigits? (count : Nat) (cs : List Char) : Option (Nat × List Char) :=
  match (cs.take count).mapM Text.hexDigit? with
  | some ds => if ds.length = count then some (ds.foldl (fun n d => n * 16 + d) 0, cs.drop count) else none
  | none => none

/-- The octal digits at the front of a text, at most three. -/
def octalDigits (cs : List Char) : List Char :=
  (cs.take 3).takeWhile fun c => decide ('0' ≤ c ∧ c ≤ '7')

/-- The character that a one-letter escape stands for. -/
def simpleEscape? : Char → Option Char
  | '\\' => some '\\'
  | '\'' => some '\''
  | '"' => some '"'
  | 'a' => some '\x07'
  | 'b' => some '\x08'
  | 'f' => some '\x0c'
  | 'n' => some '\n'
  | 'r' => some '\r'
  | 't' => some '\t'
  | 'v' => some '\x0b'
  | _ => none

/-- A character by its code point; those that are no scalar value are replaced. -/
def charOf (n : Nat) : Char :=
  if 0xD800 ≤ n ∧ n < 0xE000 then '\ufffd' else Char.ofNat n

/-- What follows a backslash: the characters it stands for and the rest. -/
def escape? (wide : Bool) (cs : List Char) : Option (List Char × List Char) :=
  match cs with
  | [] => none
  | '\n' :: rest => some ([], rest)
  | c :: rest =>
    match simpleEscape? c with
    | some d => some ([d], rest)
    | none =>
      let octal := octalDigits cs
      if !octal.isEmpty then
        let n := inBase 8 octal
        some ([charOf (if wide then n else n % 256)], cs.drop octal.length)
      else if c = 'x' then (hexDigits? 2 rest).map fun (n, r) => ([charOf n], r)
      else if wide && c = 'u' then (hexDigits? 4 rest).map fun (n, r) => ([charOf n], r)
      else if wide && c = 'U' then
        match hexDigits? 8 rest with
        | some (n, r) => if n < 0x110000 then some ([charOf n], r) else none
        | none => none
      else if wide && c = 'N' then none
      else some (['\\', c], rest)

/-- The text of a body with escapes carried out; the fuel bounds its length. -/
def unescape? (wide : Bool) (fuel : Nat) (cs : List Char) : Option (List Char) :=
  match fuel with
  | 0 => none
  | fuel + 1 =>
    match cs with
    | [] => some []
    | '\\' :: rest => do
      let (found, rest) ← escape? wide rest
      let more ← unescape? wide fuel rest
      return found ++ more
    | c :: rest => (unescape? wide fuel rest).map (c :: ·)

/-- The characters of a literal's body. -/
def literalText (form : LiteralForm) (body : List Char) : Except SyntaxProblem (List Char) :=
  if form.bytes && body.any fun c => !Text.isAscii c then .error .invalid
  else if form.raw then .ok body
  else match unescape? (!form.bytes) (body.length + 1) body with
    | some cs => .ok cs
    | none => .error .invalid

/-- The bytes with the given code points. -/
def bytesOf (cs : List Char) : List UInt8 := cs.map fun c => UInt8.ofNat c.toNat

end Workflow.Expr
