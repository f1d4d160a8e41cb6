import Workflow.Value.Compare

/-!
# Workflow.Value.Arithmetic

The operators on values.

1. Integers are exact; a truth value counts as zero or one.  An integer that
   meets a double is converted, which fails beyond the largest double.
2. Division of integers gives the double nearest to the quotient; floor
   division and remainder round toward minus infinity.
3. Sequences are joined and repeated, sets and mappings combined; every other
   pair of operands is a fault that names both types.
-/

namespace Workflow
namespace Value

open Number

/-! ## Numbers -/

/-- A number as an integer or as a double. -/
inductive Numeric where
  | int (n : Int)
  | float (x : Float)

/-- The value as a number, if it is one. -/
def numeric? (v : Value) : Option Numeric :=
  match v with
  | .float x => some (.float x)
  | v => v.asInt?.map .int

/-- The number as a double. -/
def Numeric.toFloat : Numeric → Except Fault Float
  | .float x => .ok x
  | .int n => match Binary64.ofInt? n with
    | some x => .ok x
    | none => .error .intTooLargeForFloat

/-- Both operands as numbers. -/
def numericPair? (v w : Value) : Option (Numeric × Numeric) :=
  match v.numeric?, w.numeric? with
  | some m, some n => some (m, n)
  | _, _ => none

/-- Applies one of two functions: to integers, or to doubles when one operand
is a double. -/
def onNumbers (onInts : Int → Int → Except Fault Value) (onFloats : Float → Float → Except Fault Value) :
    Numeric × Numeric → Except Fault Value
  | (.int m, .int n) => onInts m n
  | (m, n) => do onFloats (← m.toFloat) (← n.toFloat)

/-- A fault that names the operator and both types. -/
def badOperands (op : String) (v w : Value) : Except Fault α :=
  .error (.operands op v.typeName w.typeName)

/-! ## Sets -/

/-- Is the value a view whose members are all different? -/
def isSetView : Value → Bool
  | .view .values _ => false
  | .view .. => true
  | _ => false

/-- The different items of a value. -/
def distinctItems (v : Value) : Except Fault (List Value) :=
  match v, v.items? with
  | .set xs, _ => .ok xs
  | _, some xs => xs.foldlM addMember []
  | _, none => .error (.notIterable v.typeName)

/-- The operands of an operation on sets, if the two are set against set, or a
view against anything that has items. -/
def setOperands (v w : Value) : Except Fault (Option (List Value × List Value)) :=
  match v, w with
  | .set xs, .set ys => .ok (some (xs, ys))
  | _, _ =>
    if isSetView v || isSetView w then do
      let xs ← distinctItems v
      return some (xs, ← distinctItems w)
    else .ok none

/-- Is there a member with the same key? -/
def hasMember (xs : List Value) (x : Value) : Bool := xs.any fun y => y.key? == x.key?

/-- The members of the first that are in the second. -/
def intersection (xs ys : List Value) : List Value := xs.filter (hasMember ys)

/-- The members of the first that are not in the second. -/
def difference (xs ys : List Value) : List Value := xs.filter fun x => !hasMember ys x

/-- The members of either. -/
def union (xs ys : List Value) : Except Fault (List Value) := ys.foldlM addMember xs

/-! ## Operators -/

/-- `v + w` -/
def add (v w : Value) : Except Fault Value :=
  match numericPair? v w with
  | some p => onNumbers (fun m n => .ok (.int (m + n))) (fun x y => .ok (.float (x + y))) p
  | none => match v, w with
    | .str s, .str t => .ok (.str (s ++ t))
    | .list xs, .list ys => .ok (.list (xs ++ ys))
    | .tuple xs, .tuple ys => .ok (.tuple (xs ++ ys))
    | .bytes a, .bytes b => .ok (.bytes (a ++ b))
    | .str _, _ => .error (.concatenate "str" w.typeName)
    | .list _, _ => .error (.concatenate "list" w.typeName)
    | .tuple _, _ => .error (.concatenate "tuple" w.typeName)
    | .bytes _, _ => .error (.concatenateBytes w.typeName)
    | _, _ => badOperands "+" v w

/-- `v - w` -/
def subtract (v w : Value) : Except Fault Value :=
  match numericPair? v w with
  | some p => onNumbers (fun m n => .ok (.int (m - n))) (fun x y => .ok (.float (x - y))) p
  | none => do match ← setOperands v w with
    | some (xs, ys) => return .set (difference xs ys)
    | none => badOperands "-" v w

/-- Is the value a sequence that can be repeated? -/
def isSequence : Value → Bool
  | .str _ | .list _ | .tuple _ | .bytes _ => true
  | _ => false

/-- A sequence repeated. -/
def repeated (v : Value) (n : Int) : Except Fault Value :=
  if Number.twoTo 63 ≤ n || n < -(Number.twoTo 63) then .error .repeatCountTooLarge
  else
    -- an empty sequence needs no copies, whatever their number
    let copies (isEmpty : Bool) : Nat := if isEmpty then 0 else n.toNat
    match v with
    | .str s => .ok (.str (String.join (List.replicate (copies s.isEmpty) s)))
    | .list xs => .ok (.list (List.replicate (copies xs.isEmpty) xs).flatten)
    | .tuple xs => .ok (.tuple (List.replicate (copies xs.isEmpty) xs).flatten)
    | .bytes b => .ok (.bytes (List.replicate (copies b.isEmpty) b).flatten)
    | v => .ok v

/-- `v * w` -/
def multiply (v w : Value) : Except Fault Value :=
  match numericPair? v w with
  | some p => onNumbers (fun m n => .ok (.int (m * n))) (fun x y => .ok (.float (x * y))) p
  | none =>
    if v.isSequence then
      match w.asInt? with
      | some n => repeated v n
      | none => .error (.repeatBy w.typeName)
    else if w.isSequence then
      match v.asInt? with
      | some n => repeated w n
      | none => .error (.repeatBy v.typeName)
    else badOperands "*" v w

/-- The quotient of two integers as the nearest double. -/
def divideInts (m n : Int) : Except Fault Value :=
  if n = 0 then .error (.divisionByZero "division by zero")
  else
    let x := Binary64.ofRatio (decide (m < 0) != decide (n < 0)) m.natAbs n.natAbs
    if x.isInf then .error .quotientTooLargeForFloat else .ok (.float x)

/-- `v / w` -/
def divide (v w : Value) : Except Fault Value :=
  match numericPair? v w with
  | some p => onNumbers divideInts (fun x y =>
      if y == 0.0 then .error (.divisionByZero "float division by zero") else .ok (.float (x / y))) p
  | none => badOperands "/" v w

/-- `v // w` -/
def floorDivide (v w : Value) : Except Fault Value :=
  match numericPair? v w with
  | some p => onNumbers
      (fun m n =>
        if n = 0 then .error (.divisionByZero "integer division or modulo by zero")
        else .ok (.int (m.fdiv n)))
      (fun x y =>
        if y == 0.0 then .error (.divisionByZero "float floor division by zero")
        else .ok (.float (Binary64.divModFloor x y).1)) p
  | none => badOperands "//" v w

/-- A text without conversions, filled in with `w`.  Conversions are not
carried out. -/
def fillText (of : String) (hasConversion : Bool) (v w : Value) : Except Fault Value :=
  if hasConversion then .error (.valueRule "unsupported format character")
  else match w with
    | .list _ | .dict .. | .bytes _ | .tuple [] => .ok v
    | _ => .error (.notAllConverted of)

/-- `v % w` -/
def modulo (v w : Value) : Except Fault Value :=
  match v with
  | .str s => fillText "string" (s.toList.contains '%') v w
  | .bytes b => fillText "bytes" (b.contains 37) v w
  | _ => match numericPair? v w with
    | some p => onNumbers
        (fun m n =>
          if n = 0 then .error (.divisionByZero "integer modulo by zero") else .ok (.int (m.fmod n)))
        (fun x y =>
          if y == 0.0 then .error (.divisionByZero "float modulo")
          else .ok (.float (Binary64.divModFloor x y).2)) p
    | none => badOperands "%" v w

/-- A power of doubles. -/
def powerFloats (x y : Float) : Except Fault Value :=
  if x == 0.0 && y < 0.0 then .error .negativePowerOfZero
  else
    let z := x.pow y
    if z.isInf && x.isFinite && y.isFinite then .error .resultOutOfRange else .ok (.float z)

/-- `v ** w` -/
def power (v w : Value) : Except Fault Value :=
  match numericPair? v w with
  | some p => onNumbers
      (fun m n => if 0 ≤ n then .ok (.int (m.pow n.toNat))
        else do powerFloats (← (Numeric.int m).toFloat) (← (Numeric.int n).toFloat))
      powerFloats p
  | none => badOperands "** or pow()" v w

/-- Two integers that may be shifted. -/
def shiftPair? (v w : Value) : Option (Int × Int) :=
  match v.asInt?, w.asInt? with
  | some m, some n => some (m, n)
  | _, _ => none

/-- `v << w` -/
def shiftLeft (v w : Value) : Except Fault Value :=
  match shiftPair? v w with
  | some (m, n) => if n < 0 then .error .negativeShift else .ok (.int (m * Number.twoTo n.toNat))
  | none => badOperands "<<" v w

/-- `v >> w` -/
def shiftRight (v w : Value) : Except Fault Value :=
  match shiftPair? v w with
  | some (m, n) => if n < 0 then .error .negativeShift else .ok (.int (m.fdiv (Number.twoTo n.toNat)))
  | none => badOperands ">>" v w

/-! ## Bits -/

/-- A bitwise operation on integers in two's complement, given by what it does
to one bit.  Both are written with enough bits for the larger and a sign; the
signs make the sign of the result. -/
def bitwise (f : Bool → Bool → Bool) (m n : Int) : Int :=
  let width := max (m.natAbs.log2 + 2) (n.natAbs.log2 + 2)
  let span := Number.twoTo width
  let c : Int := (Nat.bitwise f (m.emod span).toNat (n.emod span).toNat % span : Nat)
  if f (decide (m < 0)) (decide (n < 0)) then c - span else c

/-- A bitwise operator on truth values and integers. -/
def onBits (f : Bool → Bool → Bool) (v w : Value) : Option Value :=
  match v, w with
  | .bool a, .bool b => some (.bool (f a b))
  | _, _ => match v.asInt?, w.asInt? with
    | some m, some n => some (.int (bitwise f m n))
    | _, _ => none

/-- `v & w` -/
def bitAnd (v w : Value) : Except Fault Value :=
  match onBits (· && ·) v w with
  | some r => .ok r
  | none => do match ← setOperands v w with
    | some (xs, ys) => return .set (intersection xs ys)
    | none => badOperands "&" v w

/-- `v | w` -/
def bitOr (v w : Value) : Except Fault Value :=
  match onBits (· || ·) v w with
  | some r => .ok r
  | none => match v, w with
    | .dict _ es, .dict _ fs => .ok (.dict none (Entries.merge es fs))
    | _, _ => do match ← setOperands v w with
      | some (xs, ys) => return .set (← union xs ys)
      | none => badOperands "|" v w

/-- `v ^ w` -/
def bitXor (v w : Value) : Except Fault Value :=
  match onBits (· != ·) v w with
  | some r => .ok r
  | none => do match ← setOperands v w with
    | some (xs, ys) => return .set (difference xs ys ++ difference ys xs)
    | none => badOperands "^" v w

/-! ## One operand -/

/-- `-v` -/
def negate (v : Value) : Except Fault Value :=
  match v.numeric? with
  | some (.int n) => .ok (.int (-n))
  | some (.float x) => .ok (.float (-x))
  | none => .error (.operand "unary -" v.typeName)

/-- `+v` -/
def plus (v : Value) : Except Fault Value :=
  match v.numeric? with
  | some (.int n) => .ok (.int n)
  | some (.float x) => .ok (.float x)
  | none => .error (.operand "unary +" v.typeName)

/-- `~v` -/
def invert (v : Value) : Except Fault Value :=
  match v.asInt? with
  | some n => .ok (.int (-n - 1))
  | none => .error (.operand "unary ~" v.typeName)

/-- The size of a number without its sign. -/
def absolute (v : Value) : Except Fault Value :=
  match v.numeric? with
  | some (.int n) => .ok (.int n.natAbs)
  | some (.float x) => .ok (.float x.abs)
  | none => .error (.operand "abs()" v.typeName)

end Value
end Workflow
