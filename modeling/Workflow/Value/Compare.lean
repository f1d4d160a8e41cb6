import Workflow.Value.Show

/-!
# Workflow.Value.Compare

Equality, order, membership and iteration.

1. Numbers of different types are equal when they are the same real number;
   comparison with a double is exact.
2. Sequences are compared at the first place where they differ, sets by
   inclusion; text by code points.
3. Values of other pairs of types are unequal and have no order.
-/

namespace Workflow

/-- The four comparisons that order values. -/
inductive Order where
  | lt | le | gt | ge
deriving DecidableEq, Inhabited

namespace Order

/-- The sign of a comparison. -/
def symbol : Order → String
  | .lt => "<" | .le => "<=" | .gt => ">" | .ge => ">="

/-- Does the comparison hold for values in the given order? -/
def holds : Order → Ordering → Bool
  | .lt, o => o == .lt
  | .le, o => o != .gt
  | .gt, o => o == .gt
  | .ge, o => o != .lt

end Order

namespace Value

open Number

/-! ## Equality -/

/-- Is the value NaN? -/
def isNaN : Value → Bool
  | .float x => Binary64.isNaN x
  | _ => false

/-- Do the keys of all members of the first list occur in the second? -/
def allIn (xs ys : List Value) : Bool :=
  xs.all fun x => ys.any fun y => x.key? == y.key?

mutual

/-- Are two values equal? -/
def eq : Value → Value → Bool
  | .list xs, .list ys => eqList xs ys
  | .tuple xs, .tuple ys => eqList xs ys
  | .set xs, .set ys => xs.length == ys.length && allIn xs ys
  | .dict _ es, .dict _ fs => es.length == fs.length && eqEntries es fs
  | .view .keys es, .view .keys fs => es.length == fs.length && allIn (es.map (·.1)) (fs.map (·.1))
  | .view .keys es, .set ys => es.length == ys.length && allIn (es.map (·.1)) ys
  | .set xs, .view .keys fs => xs.length == fs.length && allIn xs (fs.map (·.1))
  | .view .items es, .view .items fs => es.length == fs.length && eqEntries es fs
  | .slice a b c, .slice x y z => eq a x && eq b y && eq c z
  | v, w => match v.key?, w.key? with
    | some k, some l => k == l && !v.isNaN
    | _, _ => false

/-- Item by item. -/
def eqList : List Value → List Value → Bool
  | [], [] => true
  | x :: xs, y :: ys => (eq x y || (x.isNaN && y.isNaN)) && eqList xs ys
  | _, _ => false

/-- Does the second mapping hold every entry of the first? -/
def eqEntries : List (Value × Value) → Entries → Bool
  | [], _ => true
  | (k, v) :: es, fs => (match k.key?.bind fun k => Entries.get? fs k with
      | some w => eq v w || (v.isNaN && w.isNaN)
      | none => false) && eqEntries es fs

end

/-- Equality inside containers, where a NaN is found again. -/
def sameItem (a b : Value) : Bool := eq a b || (a.isNaN && b.isNaN)

/-! ## Order -/

/-- The order of two texts by code points. -/
def compareText : List Char → List Char → Ordering
  | [], [] => .eq
  | [], _ :: _ => .lt
  | _ :: _, [] => .gt
  | a :: as, b :: bs => match compare a.toNat b.toNat with
    | .eq => compareText as bs
    | o => o

/-- The order of two byte strings. -/
def compareBytes : List UInt8 → List UInt8 → Ordering
  | [], [] => .eq
  | [], _ :: _ => .lt
  | _ :: _, [] => .gt
  | a :: as, b :: bs => match compare a.toNat b.toNat with
    | .eq => compareBytes as bs
    | o => o

/-- The order of two numbers; `none` inside when one is NaN, nothing when one
is no number. -/
def compareNumbers (v w : Value) : Option (Option Ordering) :=
  match v.asInt?, w.asInt? with
  | some m, some n => some (some (compare m n))
  | some m, none => match w with
    | .float y => some (Binary64.compareInt m y)
    | _ => none
  | none, some n => match v with
    | .float x => some ((Binary64.compareInt n x).map Ordering.swap)
    | _ => none
  | none, none => match v, w with
    | .float x, .float y => some (Binary64.compareFloat x y)
    | _, _ => none

/-- The members of a set or of a view whose members are all different. -/
def setMembers? : Value → Option (List Value)
  | .set xs => some xs
  | .view .keys es => some (es.map (·.1))
  | .view .items es => some (es.map fun (k, v) => .tuple [k, v])
  | _ => none

/-- Do all members of the first list equal some member of the second? -/
def included (xs ys : List Value) : Bool := xs.all fun x => ys.any fun y => sameItem x y

/-- Inclusion of sets under the sign of an order. -/
def compareSets (op : Order) (xs ys : List Value) : Bool :=
  match op with
  | .lt => decide (xs.length < ys.length) && included xs ys
  | .le => decide (xs.length ≤ ys.length) && included xs ys
  | .gt => decide (ys.length < xs.length) && included ys xs
  | .ge => decide (ys.length ≤ xs.length) && included ys xs

/-- The date and clock of a point in time, as one list. -/
def momentFields (m : Moment) : List Nat :=
  [m.date.year, m.date.month, m.date.day, m.hour, m.minute, m.second, m.microsecond]

/-- The order of two lists of naturals. -/
def compareNats : List Nat → List Nat → Ordering
  | [], [] => .eq
  | [], _ :: _ => .lt
  | _ :: _, [] => .gt
  | a :: as, b :: bs => match compare a b with
    | .eq => compareNats as bs
    | o => o

mutual

/-- Does the comparison hold? -/
def order (op : Order) : Value → Value → Except Fault Bool
  | .list xs, .list ys => orderLists op xs ys
  | .tuple xs, .tuple ys => orderLists op xs ys
  | .str s, .str t => .ok (op.holds (compareText s.toList t.toList))
  | .bytes a, .bytes b => .ok (op.holds (compareBytes a b))
  | .date a, .date b => .ok (op.holds (compareNats [a.year, a.month, a.day] [b.year, b.month, b.day]))
  | .moment a, .moment b => .ok (op.holds (compareNats (momentFields a) (momentFields b)))
  | v, w => match setMembers? v, setMembers? w, compareNumbers v w with
    | some xs, some ys, _ => .ok (compareSets op xs ys)
    | _, _, some (some o) => .ok (op.holds o)
    | _, _, some none => .ok false
    | _, _, none => .error (.order op.symbol v.typeName w.typeName)

/-- Sequences are ordered at the first difference, else by length. -/
def orderLists (op : Order) : List Value → List Value → Except Fault Bool
  | x :: xs, y :: ys => if sameItem x y then orderLists op xs ys else order op x y
  | xs, ys => .ok (op.holds (compare xs.length ys.length))

end

/-! ## Iteration and membership -/

/-- An entry as a pair. -/
def pairOf (e : Value × Value) : Value := .tuple [e.1, e.2]

/-- The members of a view. -/
def viewItems : ViewKind → Entries → List Value
  | .keys, es => es.map (·.1)
  | .values, es => es.map (·.2)
  | .items, es => es.map pairOf

/-- The items of a value in order, if it has any. -/
def items? : Value → Option (List Value)
  | .list xs | .tuple xs => some xs
  | .set xs => some (setOrder xs)
  | .str s => some (s.toList.map fun c => .str (String.singleton c))
  | .bytes b => some (b.map fun b => .int b.toNat)
  | .dict _ es => some (es.map (·.1))
  | .view k es => some (viewItems k es)
  | _ => .none

/-- The items of a value in order. -/
def iterate (v : Value) : Except Fault (List Value) :=
  match v.items? with
  | some xs => .ok xs
  | none => .error (.notIterable v.typeName)

/-- The number of items. -/
def length? : Value → Option Nat
  | .list xs | .tuple xs | .set xs => some xs.length
  | .str s => some s.length
  | .bytes b => some b.length
  | .dict _ es | .view _ es => some es.length
  | _ => .none

/-- Adds a member to a set in order of insertion. -/
def addMember (xs : List Value) (x : Value) : Except Fault (List Value) :=
  match x.key? with
  | some k => .ok (if xs.any fun y => y.key? == some k then xs else xs ++ [x])
  | none => .error (.unhashable x.typeName)

/-- The set of the given members. -/
def setOf (xs : List Value) : Except Fault Value := do
  return .set (← xs.foldlM addMember [])

/-- Does the text occur inside another? -/
def occursIn (part : List Char) : List Char → Bool
  | [] => part.isEmpty
  | c :: cs => part.isPrefixOf (c :: cs) || occursIn part cs

/-- Is the value a member of the container? -/
def member (x container : Value) : Except Fault Bool :=
  match container with
  | .str s => match x with
    | .str t => .ok (occursIn t.toList s.toList)
    | _ => .error (.needsSubstring x.typeName)
  | .bytes b => match x with
    | .bytes a => .ok ((List.range (b.length + 1)).any fun i => a.isPrefixOf (b.drop i))
    | _ => match x.asInt? with
      | some n => if 0 ≤ n ∧ n < 256 then .ok (b.any fun u => (u.toNat : Int) == n) else .error .byteOutOfRange
      | none => .error (.needsBytes x.typeName)
  | .list xs | .tuple xs => .ok (xs.any fun y => sameItem x y)
  | .set xs => match x.key? with
    | some k => .ok (xs.any fun y => y.key? == some k)
    | none => match x with
      | .set _ => .ok false
      | _ => .error (.unhashable x.typeName)
  | .dict _ es | .view .keys es => match x.key? with
    | some k => .ok (Entries.contains es k)
    | none => .error (.unhashable x.typeName)
  | .view .values es => .ok (es.any fun e => sameItem x e.2)
  | .view .items es => match x with
    | .tuple [k, v] => match k.key? with
      | some k => .ok (match Entries.get? es k with | some w => sameItem v w | none => false)
      | none => .error (.unhashable k.typeName)
    | _ => .ok false
  | _ => .error (.noMembers container.typeName)

end Value
end Workflow
