import Workflow.Value.Key
import Workflow.Value.Calendar

/-!
# Workflow.Value.Basic

The values that flow between the nodes of a workflow.

Documents, inputs, outputs and the results of expressions are all `Value`s.
Mappings keep their keys in the order of insertion and may carry an identity
(`MapId`); every other value is a plain tree.  The remaining constructors are
things that only an expression can mention: functions, methods, views of a
mapping, slices.
-/

namespace Workflow

/-- The functions and types that expressions may call. -/
inductive Builtin where
  | len | abs | min | max | any | all
  | str | int | float | bool | list | tuple | dict | set
deriving DecidableEq, Inhabited

/-- What a view of a mapping shows. -/
inductive ViewKind where
  | keys | values | items
deriving DecidableEq, Inhabited

/-- A value. -/
inductive Value where
  | null
  | bool (b : Bool)
  | int (n : Int)
  | float (x : Float)
  | str (s : String)
  | bytes (b : List UInt8)
  | list (items : List Value)
  | tuple (items : List Value)
  | set (items : List Value)
  | dict (id : Option MapId) (entries : List (Value × Value))
  | view (kind : ViewKind) (entries : List (Value × Value))
  | builtin (f : Builtin)
  | method (receiver : Value) (name : String)
  | unbound (type : Builtin) (name : String)
  | slice (lower upper step : Value)
  | ellipsis
  | date (d : Date)
  | moment (m : Moment)
deriving Inhabited

/-- The entries of a mapping in order of insertion. -/
abbrev Entries := List (Value × Value)

namespace Builtin

/-- Is it a type, and so a maker of values? -/
def isType : Builtin → Bool
  | .len | .abs | .min | .max | .any | .all => false
  | _ => true

/-- Its own name. -/
def name : Builtin → String
  | .len => "len" | .abs => "abs" | .min => "min" | .max => "max" | .any => "any" | .all => "all"
  | .str => "str" | .int => "int" | .float => "float" | .bool => "bool"
  | .list => "list" | .tuple => "tuple" | .dict => "dict" | .set => "set"

end Builtin

namespace Value

/-- A mapping without identity, with text keys. -/
def record (fields : List (String × Value)) : Value :=
  .dict none (fields.map fun (k, v) => (.str k, v))

/-- The name of a value's type, as messages give it. -/
def typeName : Value → String
  | .null => "NoneType"
  | .bool _ => "bool"
  | .int _ => "int"
  | .float _ => "float"
  | .str _ => "str"
  | .bytes _ => "bytes"
  | .list _ => "list"
  | .tuple _ => "tuple"
  | .set _ => "set"
  | .dict .. => "dict"
  | .view .keys _ => "dict_keys"
  | .view .values _ => "dict_values"
  | .view .items _ => "dict_items"
  | .builtin f => if f.isType then "type" else "builtin_function_or_method"
  | .method .. => "builtin_function_or_method"
  | .unbound .. => "method_descriptor"
  | .slice .. => "slice"
  | .ellipsis => "ellipsis"
  | .date _ => "datetime.date"
  | .moment _ => "datetime.datetime"

/-- Does a condition on the value hold?  Zero, and everything empty, is false. -/
def truthy : Value → Bool
  | .null => false
  | .bool b => b
  | .int n => n ≠ 0
  | .float x => !(x == 0.0)
  | .str s => !s.isEmpty
  | .bytes b => !b.isEmpty
  | .list xs | .tuple xs | .set xs => !xs.isEmpty
  | .dict _ es | .view _ es => !es.isEmpty
  | _ => true

/-- The integer that a number is, with `false` and `true` as zero and one. -/
def asInt? : Value → Option Int
  | .bool b => some (if b then 1 else 0)
  | .int n => some n
  | _ => none

/-! ## Keys -/

mutual

/-- The identity of a value as a key; nothing for the values that may change. -/
def key? : Value → Option Key
  | .null => some [.none]
  | .bool b => some [.int (if b then 1 else 0)]
  | .int n => some [.int n]
  | .float x => some (Key.ofFloat x)
  | .str s => some (Key.ofString s)
  | .bytes b => some [.bytes b]
  | .tuple xs => (keys? xs).map (Atom.tuple xs.length :: ·)
  | .builtin f => some [.named f.name]
  | .method _ name => some [.named ("method " ++ name)]
  | .unbound t name => some [.named (t.name ++ "." ++ name)]
  | .ellipsis => some [.ellipsis]
  | .date d => some [.named ("date " ++ d.text)]
  | .moment m => some [.named ("moment " ++ m.text)]
  | .list _ | .set _ | .dict .. | .view .. | .slice .. => none

/-- The keys of the items of a tuple, one after the other. -/
def keys? : List Value → Option Key
  | [] => some []
  | v :: vs => match key? v, keys? vs with
    | some k, some ks => some (k ++ ks)
    | _, _ => none

end

@[simp] theorem key?_str (s : String) : key? (.str s) = some (Key.ofString s) := by
  simp [key?]

end Value
end Workflow
