import Workflow.Value.Mapping
import Workflow.Value.Fault
import Workflow.Number.Shortest
import Workflow.Text.Quoted

/-!
# Workflow.Value.Show

The text of a value.  `repr` quotes text and brackets containers
(`['a', 1]`, `(1,)`, `{'k': None}`); `text` is the same except that a
text stands for itself.  Members of a set are shown in ascending order when
all are numbers and in order of insertion otherwise.
-/

namespace Workflow
namespace Value

/-! ## Sets -/

/-- The members of a set in the order in which they are visited. -/
def setOrder (xs : List Value) : List Value :=
  if xs.all fun x => (asInt? x).isSome then
    xs.mergeSort fun a b => decide ((asInt? a).getD 0 ≤ (asInt? b).getD 0)
  else xs

/-! ## Quoted form -/

/-- The quotation of a scalar. -/
def reprScalar : Value → String
  | .null => "None"
  | .bool b => if b then "True" else "False"
  | .int n => toString n
  | .float x => Number.floatText x
  | .str s => Text.quoted s
  | .bytes b => Text.quotedBytes b
  | .builtin f => if f.isType then "<class '" ++ f.name ++ "'>" else "<built-in function " ++ f.name ++ ">"
  | .unbound t name => "<method '" ++ name ++ "' of '" ++ t.name ++ "' objects>"
  | .ellipsis => "Ellipsis"
  | .date d => d.constructorText
  | .moment m => m.constructorText
  | _ => ""

mutual

/-- The quoted form of a value. -/
def repr : Value → String
  | .list xs => "[" ++ ", ".intercalate (reprs xs) ++ "]"
  | .tuple xs => match reprs xs with
    | [x] => "(" ++ x ++ ",)"
    | ys => "(" ++ ", ".intercalate ys ++ ")"
  | .set xs =>
    if xs.isEmpty then "set()"
    else
      -- the texts are put into the order of their members
      let shown := (xs.zip (reprs xs)).mergeSort fun a b =>
        match asInt? a.1, asInt? b.1 with
        | some m, some n => decide (m ≤ n)
        | _, _ => true
      "\x7b" ++ ", ".intercalate (shown.map (·.2)) ++ "\x7d"
  | .dict _ es => "\x7b" ++ ", ".intercalate (reprEntries es) ++ "\x7d"
  | .view .keys es => "dict_keys([" ++ ", ".intercalate (reprKeys es) ++ "])"
  | .view .values es => "dict_values([" ++ ", ".intercalate (reprValues es) ++ "])"
  | .view .items es => "dict_items([" ++ ", ".intercalate (reprPairs es) ++ "])"
  | .method r name => "<built-in method " ++ name ++ " of " ++ r.typeName ++ " object>"
  | .slice a b c => "slice(" ++ repr a ++ ", " ++ repr b ++ ", " ++ repr c ++ ")"
  | v => reprScalar v

/-- The quoted forms of a list of values. -/
def reprs : List Value → List String
  | [] => []
  | x :: xs => repr x :: reprs xs

/-- The entries of a mapping, `key: value`. -/
def reprEntries : List (Value × Value) → List String
  | [] => []
  | (k, v) :: es => (repr k ++ ": " ++ repr v) :: reprEntries es

/-- The keys of a mapping. -/
def reprKeys : List (Value × Value) → List String
  | [] => []
  | (k, _) :: es => repr k :: reprKeys es

/-- The values of a mapping. -/
def reprValues : List (Value × Value) → List String
  | [] => []
  | (_, v) :: es => repr v :: reprValues es

/-- The entries of a mapping as pairs. -/
def reprPairs : List (Value × Value) → List String
  | [] => []
  | (k, v) :: es => ("(" ++ repr k ++ ", " ++ repr v ++ ")") :: reprPairs es

end

/-! ## Plain form -/

/-- The text of a value. -/
def text : Value → String
  | .str s => s
  | .date d => d.text
  | .moment m => m.text
  | v => v.repr

/-- The longest integer, in digits, that text conversion accepts. -/
def maxDigits : Nat := 4300

mutual

/-- Does an integer longer than text conversion accepts occur in the value? -/
def hasLongInt : Value → Bool
  | .int n => decide (Number.tenTo maxDigits ≤ n.natAbs)
  | .list xs | .tuple xs | .set xs => anyLongInt xs
  | .dict _ es | .view _ es => entriesLongInt es
  | _ => false

/-- The same for the items of a list. -/
def anyLongInt : List Value → Bool
  | [] => false
  | x :: xs => hasLongInt x || anyLongInt xs

/-- The same for the entries of a mapping. -/
def entriesLongInt : List (Value × Value) → Bool
  | [] => false
  | (k, v) :: es => hasLongInt k || hasLongInt v || entriesLongInt es

end

/-- The text of a value, refused for integers that are too long to convert. -/
def text? (v : Value) : Except Fault String :=
  if v.hasLongInt then .error .tooManyDigits else .ok v.text

end Value
end Workflow
