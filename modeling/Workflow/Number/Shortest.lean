import Workflow.Number.Binary64

/-!
# Workflow.Number.Shortest

The decimal text of a double.

1. `shortest` gives the fewest significant digits that read back as the same
   double; of several such numbers with that many digits it takes the one
   nearest to the exact value.
2. `text` writes them positionally while the decimal exponent lies in
   `-4 … 15` and keeps a fractional part (`2.0`); outside that range it uses
   an exponent of at least two digits (`1e+16`, `5e-324`).
-/

namespace Workflow.Number

open Binary64

/-- Digits of a positive number: it is `0.d₁d₂…dₙ · 10 ^ point`. -/
structure Digits where
  digits : List Nat
  point : Int
deriving DecidableEq, Inhabited, Repr

/-! ## Exact decimal grids -/

/-- The decimal digits of a natural, most significant first. -/
def digitsOf (n : Nat) : List Nat :=
  (Nat.toDigits 10 n).map fun c => c.toNat - '0'.toNat

/-- The text of a list of digits. -/
def digitText (ds : List Nat) : String :=
  String.ofList (ds.map fun d => Char.ofNat ('0'.toNat + d))

/-- The `e` with `10 ^ e ≤ num / den < 10 ^ (e + 1)` for a positive quotient,
found by stepping up or down from an estimate. -/
def floorLog10 (num den : Nat) : Int :=
  let atLeast (e : Int) : Bool :=
    if 0 ≤ e then decide (den * tenTo e.toNat ≤ num) else decide (den ≤ num * tenTo (-e).toNat)
  -- 1233 / 4096 is slightly below log₁₀ 2
  let guess : Int := (floorLog2 num den * 1233) / 4096
  let rec up (fuel : Nat) (e : Int) : Int :=
    match fuel with
    | 0 => e
    | fuel + 1 => if atLeast (e + 1) then up fuel (e + 1) else e
  let rec down (fuel : Nat) (e : Int) : Int :=
    match fuel with
    | 0 => e
    | fuel + 1 => if atLeast e then e else down fuel (e - 1)
  up 8 (down 8 guess)

/-- `num / den` in units of `10 ^ e`, as a quotient of naturals. -/
def inUnits (num den : Nat) (e : Int) : Nat × Nat :=
  if 0 ≤ e then (num, den * tenTo e.toNat) else (num * tenTo (-e).toNat, den)

/-! ## The shortest digits -/

/-- The reals that round to `m · 2 ^ q`, in quarters of a unit of the last
place: `(low, value, high)` over the common denominator `4`. -/
def roundingInterval (m : Nat) (q : Int) : Nat × Nat × Nat :=
  -- below a power of two the doubles are twice as dense
  let low := if m = twoTo 52 && decide (-1074 < q) then 4 * m - 1 else 4 * m - 2
  (low, 4 * m, 4 * m + 2)

/-- The nearest point of the grid with `count` digits that reads back as
`m · 2 ^ q`, if one of the two neighbours does. -/
def nearestOnGrid? (m : Nat) (q : Int) (top : Int) (count : Nat) : Option (Nat × Int) :=
  let unit : Int := top - count + 1
  let (low, value, high) := roundingInterval m q
  -- everything over one denominator, in units of the grid
  let scale (x : Nat) : Nat := if 0 ≤ q then x * twoTo q.toNat else x
  let base : Nat := if 0 ≤ q then 4 else 4 * twoTo (-q).toNat
  let (lowNum, den) := inUnits (scale low) base unit
  let (valueNum, _) := inUnits (scale value) base unit
  let (highNum, _) := inUnits (scale high) base unit
  let closed := m % 2 = 0
  let inside (d : Nat) : Bool :=
    if closed then decide (lowNum ≤ d * den ∧ d * den ≤ highNum)
    else decide (lowNum < d * den ∧ d * den < highNum)
  let below := valueNum / den
  let above := below + 1
  match inside below, inside above with
  | false, false => none
  | true, false => some (below, unit)
  | false, true => some (above, unit)
  | true, true =>
    let distanceBelow := valueNum - below * den
    let distanceAbove := above * den - valueNum
    some (if distanceBelow < distanceAbove then below
      else if distanceAbove < distanceBelow then above
      else if below % 2 = 0 then below else above, unit)

/-- The digits of a point of a decimal grid, without trailing zeros. -/
def gridDigits (d : Nat) (unit : Int) : Digits :=
  let ds := digitsOf d
  { digits := (ds.reverse.dropWhile (· = 0)).reverse, point := unit + ds.length }

/-- The fewest digits that read back as `m · 2 ^ q`, for a positive `m`. -/
def shortestParts (m : Nat) (q : Int) : Digits :=
  let (num, den) := dyadic m q
  let top := floorLog10 num den
  match (List.range 17).findSome? fun i => nearestOnGrid? m q top (i + 1) with
  | some (d, unit) => gridDigits d unit
  | none => gridDigits num 0

/-! ## Text -/

/-- An exponent: a sign and at least two digits. -/
def exponentText (e : Int) : String :=
  let ds := toString e.natAbs
  (if e < 0 then "-" else "+") ++ (if ds.length < 2 then "0" ++ ds else ds)

/-- Digits in positional notation, at least one on either side of the point. -/
def positional (d : Digits) : String :=
  if d.point ≤ 0 then
    "0." ++ digitText (List.replicate (-d.point).toNat 0) ++ digitText d.digits
  else
    let k := d.point.toNat
    let whole := d.digits.take k
    let padded := whole ++ List.replicate (k - whole.length) 0
    let rest := d.digits.drop k
    digitText padded ++ "." ++ (if rest.isEmpty then "0" else digitText rest)

/-- Digits in scientific notation. -/
def scientific (d : Digits) : String :=
  match d.digits with
  | [] => "0e+00"
  | first :: rest =>
    digitText [first] ++ (if rest.isEmpty then "" else "." ++ digitText rest)
      ++ "e" ++ exponentText (d.point - 1)

/-- The text of a double: the shortest digits, positional where the decimal
exponent lies in `-4 … 15`. -/
def floatText (x : Float) : String :=
  match parts x with
  | .nan => "nan"
  | .infinite negative => if negative then "-inf" else "inf"
  | .finite negative m q =>
    let sign := if negative then "-" else ""
    if m = 0 then sign ++ "0.0"
    else
      let d := shortestParts m q
      sign ++ (if -4 < d.point && d.point ≤ 16 then positional d else scientific d)

end Workflow.Number
