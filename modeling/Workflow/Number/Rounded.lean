import Workflow.Number.Shortest

/-!
# Workflow.Number.Rounded

Doubles rounded to a given number of places or of significant digits.  The
exact value is rounded, and a tie goes to the even digit.
-/

namespace Workflow.Number

open Binary64

/-- The text of digits with a point before the last `places` of them. -/
def withPoint (places : Nat) (keepPoint : Bool) (ds : List Char) : String :=
  let padded := List.replicate (places + 1 - ds.length) '0' ++ ds
  let whole := padded.take (padded.length - places)
  let rest := padded.drop (padded.length - places)
  String.ofList (whole ++ (if places = 0 && !keepPoint then [] else '.' :: rest))

/-- A size with a fixed number of places. -/
def fixedText (m : Nat) (q : Int) (places : Nat) (keepPoint : Bool) : String :=
  let (num, den) := dyadic m q
  withPoint places keepPoint (Nat.toDigits 10 (roundDivEven (num * tenTo places) den))

/-- The first `count` significant digits of a size, rounded. -/
def significantDigits (m : Nat) (q : Int) (count : Nat) : Digits :=
  if m = 0 then ⟨List.replicate count 0, 1⟩
  else
    let (num, den) := dyadic m q
    let top := floorLog10 num den
    let (n, d) := inUnits num den (top - count + 1)
    let r := roundDivEven n d
    -- rounding up may have given one digit more
    if tenTo count ≤ r then ⟨digitsOf (r / 10), top + 2⟩ else ⟨digitsOf r, top + 1⟩

/-- A size in scientific notation with `places` digits behind the point. -/
def exponentialText (m : Nat) (q : Int) (places : Nat) (keepPoint : Bool) : String :=
  let d := significantDigits m q (places + 1)
  let e : Int := if m = 0 then 0 else d.point - 1
  digitText (d.digits.take 1)
    ++ (if places = 0 && !keepPoint then "" else "." ++ digitText (d.digits.drop 1))
    ++ "e" ++ exponentText e

/-- Digits without trailing zeros, but with one digit at least. -/
def trimZeros (ds : List Nat) : List Nat :=
  match (ds.reverse.dropWhile (· = 0)).reverse with
  | [] => ds.take 1
  | ds => ds

/-- A size with `count` significant digits: positional while the decimal
exponent lies in `-4 … limit - 1`.  `keep` keeps trailing zeros and the point,
`addZero` gives a whole number a `.0`. -/
def generalText (m : Nat) (q : Int) (count limit : Nat) (keep addZero : Bool) : String :=
  let d := significantDigits m q count
  let ds := if keep then d.digits else trimZeros d.digits
  if m ≠ 0 && (d.point ≤ -4 || decide ((limit : Int) < d.point)) then
    digitText (ds.take 1)
      ++ (if ds.length ≤ 1 && !keep then "" else "." ++ digitText (ds.drop 1))
      ++ "e" ++ exponentText (d.point - 1)
  else
    let text :=
      if d.point ≤ 0 then "0." ++ digitText (List.replicate (-d.point).toNat 0 ++ ds)
      else
        let k := d.point.toNat
        let whole := ds.take k ++ List.replicate (k - ds.length) 0
        let rest := ds.drop k
        digitText whole ++ (if rest.isEmpty then (if keep then "." else "") else "." ++ digitText rest)
    if addZero && !text.toList.contains '.' then text ++ ".0" else text

end Workflow.Number
