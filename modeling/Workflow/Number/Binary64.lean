import Workflow.Number.Power

/-!
# Workflow.Number.Binary64

Double precision numbers as exact dyadic quantities.

1. `parts` reads a number as a sign, a natural mantissa and a power of two,
   or as an infinity or a NaN.
2. `ofRatio` rounds a quotient of naturals to the nearest double, a tie
   going to the even mantissa, with gradual underflow.
3. Everything that must be exact — comparison with integers, remainders,
   decimal text — is computed on these parts in `Nat` and `Int`, never with
   the floating point unit.
-/

namespace Workflow.Number.Binary64

/-- A double taken apart: the finite value `± mantissa · 2 ^ exponent`. -/
inductive Parts where
  | nan
  | infinite (negative : Bool)
  | finite (negative : Bool) (mantissa : Nat) (exponent : Int)
deriving DecidableEq, Inhabited

/-- The exact value of a double.  Zero keeps its sign and has mantissa `0`. -/
def parts (x : Float) : Parts :=
  let bits : Nat := x.toBits.toNat
  let negative := decide (twoTo 63 ≤ bits)
  let biased : Nat := bits / twoTo 52 % twoTo 11
  let fraction : Nat := bits % twoTo 52
  if biased = 2047 then
    if fraction = 0 then .infinite negative else .nan
  else if biased = 0 then .finite negative fraction (-1074)
  else .finite negative (fraction + twoTo 52) ((biased : Int) - 1075)

/-- The double with the given sign, biased exponent and fraction fields. -/
def ofFields (negative : Bool) (biased fraction : Nat) : Float :=
  Float.ofBits (UInt64.ofNat ((if negative then twoTo 63 else 0) + biased * twoTo 52 + fraction))

/-- The infinity of the given sign. -/
def infinity (negative : Bool) : Float := ofFields negative 2047 0

/-- A quiet NaN. -/
def nan : Float := ofFields false 2047 (twoTo 51)

/-- The signed zero. -/
def zero (negative : Bool) : Float := ofFields negative 0 0

/-! ## Rounding -/

/-- `num / den` rounded to the nearest natural, a tie going to the even one. -/
def roundDivEven (num den : Nat) : Nat :=
  let q := num / den
  let r := num % den
  if 2 * r < den then q
  else if den < 2 * r then q + 1
  else if q % 2 = 0 then q else q + 1

/-- Rounding moves a quotient by at most one unit above its floor. -/
theorem roundDivEven_le (num den : Nat) : roundDivEven num den ≤ num / den + 1 := by
  unfold roundDivEven
  dsimp only
  split
  · omega
  · split
    · omega
    · split <;> omega

/-- Rounding never goes below the floor. -/
theorem le_roundDivEven (num den : Nat) : num / den ≤ roundDivEven num den := by
  unfold roundDivEven
  dsimp only
  split
  · omega
  · split
    · omega
    · split <;> omega

/-- The power of two below a positive quotient: the `e` with
`2 ^ e ≤ num / den < 2 ^ (e + 1)`. -/
def floorLog2 (num den : Nat) : Int :=
  let guess : Int := (num.log2 : Int) - (den.log2 : Int)
  -- the quotient lies in `(2 ^ (guess - 1), 2 ^ (guess + 1))`
  let fits := if 0 ≤ guess then decide (den * twoTo guess.toNat ≤ num)
    else decide (den ≤ num * twoTo (-guess).toNat)
  if fits then guess else guess - 1

/-- The double nearest to `num / den` for a positive `den`: overflow gives
an infinity, underflow is gradual. -/
def ofRatio (negative : Bool) (num den : Nat) : Float :=
  if num = 0 then zero negative
  else
    let e := floorLog2 num den
    -- the exponent of the last mantissa bit
    let q : Int := if e < -1022 then -1074 else e - 52
    let m := if 0 ≤ q then roundDivEven num (den * twoTo q.toNat)
      else roundDivEven (num * twoTo (-q).toNat) den
    -- rounding up may have reached the next power of two; the fields carry over
    if m < twoTo 52 then ofFields negative 0 m
    else
      let biased := (q + 1075).toNat + (m / twoTo 53)
      let fraction := if m / twoTo 53 = 0 then m - twoTo 52 else 0
      if 2047 ≤ biased then infinity negative else ofFields negative biased fraction

/-- The double nearest to `± mantissa · 2 ^ exponent`. -/
def ofParts (negative : Bool) (mantissa : Nat) (exponent : Int) : Float :=
  if 0 ≤ exponent then ofRatio negative (mantissa * twoTo exponent.toNat) 1
  else ofRatio negative mantissa (twoTo (-exponent).toNat)

/-- The double nearest to an integer, or nothing where that is beyond the
largest finite one. -/
def ofInt? (n : Int) : Option Float :=
  let x := ofRatio (decide (n < 0)) n.natAbs 1
  if x.isInf then none else some x

/-- The double nearest to `digits · 10 ^ exponent`.  Exponents far outside
the range of doubles are settled without forming the power. -/
def ofDecimal (negative : Bool) (digits : Nat) (exponent : Int) : Float :=
  if digits = 0 then zero negative
  else
    -- an upper bound for the decimal place of the leading digit
    let top : Int := (digits.log2 / 3 + 1 : Nat) + exponent
    if exponent > 400 then infinity negative
    else if top < -400 then zero negative
    else if 0 ≤ exponent then ofRatio negative (digits * tenTo exponent.toNat) 1
    else ofRatio negative digits (tenTo (-exponent).toNat)

/-! ## Exact comparison and truncation -/

/-- Is the number NaN? -/
def isNaN (x : Float) : Bool := match parts x with | .nan => true | _ => false

/-- Does the number carry a minus sign? -/
def isNegative (x : Float) : Bool := decide (twoTo 63 ≤ x.toBits.toNat)

/-- The integer between the number and zero nearest to it, where finite. -/
def truncate? (x : Float) : Option Int :=
  match parts x with
  | .finite negative m q =>
    let n : Nat := if 0 ≤ q then m * twoTo q.toNat else m / twoTo (-q).toNat
    some (if negative then -(n : Int) else n)
  | _ => none

/-- The integer that the number is, if it is one. -/
def toInt? (x : Float) : Option Int :=
  match parts x with
  | .finite negative m q =>
    if 0 ≤ q then
      let n := m * twoTo q.toNat
      some (if negative then -(n : Int) else n)
    else if m % twoTo (-q).toNat = 0 then
      let n := m / twoTo (-q).toNat
      some (if negative then -(n : Int) else n)
    else none
  | _ => none

/-- The order of an integer and a double as real numbers; nothing for NaN. -/
def compareInt (n : Int) (x : Float) : Option Ordering :=
  match parts x with
  | .nan => none
  | .infinite negative => some (if negative then .gt else .lt)
  | .finite negative m q =>
    let signed : Int := if negative then -(m : Int) else m
    some (if 0 ≤ q then compare n (signed * twoTo q.toNat)
      else compare (n * twoTo (-q).toNat) signed)

/-- The order of two doubles; nothing when one is NaN. -/
def compareFloat (x y : Float) : Option Ordering :=
  if x < y then some .lt else if x == y then some .eq else if y < x then some .gt else none

/-! ## Division with a floor -/

/-- The exact remainder of truncated division; it carries the sign of the
dividend and never rounds.  The divisor is not zero. -/
def remainder (x y : Float) : Float :=
  match parts x, parts y with
  | .finite sx mx qx, .finite _ my qy =>
    if my = 0 then nan
    else
      let q := min qx qy
      let r := (mx * twoTo (qx - q).toNat) % (my * twoTo (qy - q).toNat)
      ofParts sx r q
  | .finite .., .infinite _ => x
  | _, _ => nan

/-- The quotient rounded to an integer below it, and the remainder with the
sign of the divisor.  The divisor is not zero. -/
def divModFloor (x y : Float) : Float × Float :=
  let r := remainder x y
  let quotient := (x - r) / y
  let (quotient, r) :=
    if r == 0.0 then (quotient, zero (isNegative y))
    else if (decide (y < 0.0)) != (decide (r < 0.0)) then (quotient - 1.0, r + y)
    else (quotient, r)
  if quotient == 0.0 then (zero (isNegative (x / y)), r)
  else
    let whole := quotient.floor
    (if quotient - whole > 0.5 then whole + 1.0 else whole, r)

end Workflow.Number.Binary64
