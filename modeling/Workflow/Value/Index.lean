import Workflow.Value.Compare

/-!
# Workflow.Value.Index

Items and slices of values.

A negative index counts from the end.  A slice never fails for being out of
range: its bounds are moved into the sequence first (`Span.of`).
-/

namespace Workflow
namespace Value

/-! ## Slices -/

/-- A bound or step of a slice: an integer or nothing. -/
def sliceBound (v : Value) : Except Fault (Option Int) :=
  match v with
  | .null => .ok none
  | v => match v.asInt? with
    | some n => .ok (some n)
    | none => .error (.sliceIndex true)

/-- The positions of a slice: the first, the step, and how many. -/
structure Span where
  start : Int
  step : Int
  count : Nat

/-- A bound moved into `low … high`; a negative one counts from the end. -/
def clampBound (length low high : Int) (n : Int) : Int :=
  let n := if n < 0 then n + length else n
  if n < low then low else if high < n then high else n

/-- The positions that a slice selects in a sequence. -/
def Span.of (length : Nat) (lower upper step : Value) : Except Fault Span := do
  let step := (← sliceBound step).getD 1
  if step = 0 then throw .zeroStep
  let lower? ← sliceBound lower
  let upper? ← sliceBound upper
  let n : Int := length
  let (low, high) : Int × Int := if 0 < step then (0, n) else (-1, n - 1)
  let start := match lower? with
    | some l => clampBound n low high l
    | none => if 0 < step then low else high
  let stop := match upper? with
    | some u => clampBound n low high u
    | none => if 0 < step then high else low
  let count : Int := if 0 < step then (stop - start + step - 1).fdiv step
    else (start - stop - step - 1).fdiv (-step)
  return ⟨start, step, count.toNat⟩

/-- The selected items. -/
def Span.select {α : Type} (s : Span) (xs : List α) : List α :=
  let items := xs.toArray
  (List.range s.count).filterMap fun (i : Nat) => items[(s.start + i * s.step).toNat]?

/-! ## Items -/

/-- The item of a sequence at an index. -/
def itemAt {α : Type} (container : String) (xs : List α) (n : Int) : Except Fault α :=
  if Number.twoTo 63 ≤ n || n < -(Number.twoTo 63) then .error .indexTooLarge
  else
    let i := if n < 0 then n + xs.length else n
    if i < 0 then .error (.indexOutOfRange container)
    else match xs[i.toNat]? with
      | some x => .ok x
      | none => .error (.indexOutOfRange container)

/-- `v[key]` -/
def item (v key : Value) : Except Fault Value :=
  match v with
  | .dict _ es => match key.key? with
    | some k => match Entries.get? es k with
      | some w => .ok w
      | none => .error (.missingKey key.repr)
    | none => .error (.unhashable key.typeName)
  | .list xs => match key with
    | .slice a b c => do return .list ((← Span.of xs.length a b c).select xs)
    | key => match key.asInt? with
      | some n => itemAt "list" xs n
      | none => .error (.indexType "list" key.typeName)
  | .tuple xs => match key with
    | .slice a b c => do return .tuple ((← Span.of xs.length a b c).select xs)
    | key => match key.asInt? with
      | some n => itemAt "tuple" xs n
      | none => .error (.indexType "tuple" key.typeName)
  | .str s => match key with
    | .slice a b c => do
      let cs := s.toList
      return .str (String.ofList ((← Span.of cs.length a b c).select cs))
    | key => match key.asInt? with
      | some n => (itemAt "string" s.toList n).map fun c => .str (String.singleton c)
      | none => .error (.stringIndexType key.typeName)
  | .bytes b => match key with
    | .slice x y z => do return .bytes ((← Span.of b.length x y z).select b)
    | key => match key.asInt? with
      | some n => (itemAt "" b n).map fun u => .int u.toNat
      | none => .error (.indexType "byte" key.typeName)
  | .builtin f => if f.isType then .error (.typeNotSubscriptable f.name)
    else .error (.notSubscriptable v.typeName)
  | v => .error (.notSubscriptable v.typeName)

end Value
end Workflow
