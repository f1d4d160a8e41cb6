import Workflow.Text.Properties

/-!
# Workflow.Text.Quoted

Quotation of text and of byte strings.

1. The quote is `'`, unless the text holds a `'` and no `"`.
2. The quote and the backslash are escaped; newline, return and tab have
   short escapes; any other character that is not printable is written as
   `\xNN`, `\uNNNN` or `\UNNNNNNNN`.
3. Byte strings escape every byte outside printable ASCII as `\xNN`.
-/

namespace Workflow.Text

/-! ## Hexadecimal -/

/-- The hexadecimal digit of a number below sixteen. -/
def hexDigit (n : Nat) : Char :=
  if n < 10 then Char.ofNat ('0'.toNat + n) else Char.ofNat ('a'.toNat + (n - 10))

/-- The last `width` hexadecimal digits of a number. -/
def hexPadded (width n : Nat) : List Char :=
  match width with
  | 0 => []
  | width + 1 => hexPadded width (n / 16) ++ [hexDigit (n % 16)]

theorem length_hexPadded (width n : Nat) : (hexPadded width n).length = width := by
  induction width generalizing n with
  | zero => rfl
  | succ width ih => simp [hexPadded, ih]

/-! ## Quotation -/

/-- The quote that a text is put in. -/
def chooseQuote (cs : List Char) : Char :=
  if cs.contains '\'' && !cs.contains '"' then '"' else '\''

/-- One character inside quotes. -/
def quoteChar (quote c : Char) : List Char :=
  if c = quote || c = '\\' then ['\\', c]
  else if c = '\n' then ['\\', 'n']
  else if c = '\r' then ['\\', 'r']
  else if c = '\t' then ['\\', 't']
  else if isPrintable c then [c]
  else if c.toNat < 0x100 then '\\' :: 'x' :: hexPadded 2 c.toNat
  else if c.toNat < 0x10000 then '\\' :: 'u' :: hexPadded 4 c.toNat
  else '\\' :: 'U' :: hexPadded 8 c.toNat

/-- The quotation of a text. -/
def quoted (s : String) : String :=
  let cs := s.toList
  let quote := chooseQuote cs
  String.ofList (quote :: cs.flatMap (quoteChar quote) ++ [quote])

/-- One byte inside quotes. -/
def quoteByte (quote : Char) (b : UInt8) : List Char :=
  let c := Char.ofNat b.toNat
  if c = quote || c = '\\' then ['\\', c]
  else if c = '\n' then ['\\', 'n']
  else if c = '\r' then ['\\', 'r']
  else if c = '\t' then ['\\', 't']
  else if decide (32 ≤ b.toNat ∧ b.toNat < 127) then [c]
  else '\\' :: 'x' :: hexPadded 2 b.toNat

/-- The quotation of a byte string, marked by a `b`. -/
def quotedBytes (bs : List UInt8) : String :=
  let quote := chooseQuote (bs.map fun b => Char.ofNat b.toNat)
  String.ofList ('b' :: quote :: bs.flatMap (quoteByte quote) ++ [quote])

end Workflow.Text
