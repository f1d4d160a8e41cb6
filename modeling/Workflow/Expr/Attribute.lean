import Workflow.Expr.ContainerMethod

/-!
# Workflow.Expr.Attribute

What lies behind a dot.

`attribute?` gives the attribute that a value has by its type: a number has
parts, everything else has methods.  Names that could lead out of the values
are refused before the value is looked at (`isHidden`, `forbiddenMethods`).
-/

namespace Workflow.Expr

/-! ## Refused names -/

/-- Does the name belong to the inside of a value? -/
def isHidden (name : String) : Bool := name.startsWith "_" || name.startsWith "func_"

/-- The methods that are refused by name. -/
def forbiddenMethods : List String :=
  ["format", "format_map", "mro", "tb_frame", "gi_frame", "ag_frame", "cr_frame", "exec"]

/-! ## Methods by type -/

/-- The methods of texts. -/
def textMethods : List String :=
  ["capitalize", "casefold", "center", "count", "encode", "endswith", "expandtabs", "find", "index",
   "isalnum", "isalpha", "isascii", "isdecimal", "isdigit", "isidentifier", "islower", "isnumeric",
   "isprintable", "isspace", "istitle", "isupper", "join", "ljust", "lower", "lstrip", "maketrans",
   "partition", "removeprefix", "removesuffix", "replace", "rfind", "rindex", "rjust", "rpartition",
   "rsplit", "rstrip", "split", "splitlines", "startswith", "strip", "swapcase", "title", "translate",
   "upper", "zfill"]

/-- The methods of byte strings. -/
def bytesMethods : List String :=
  ["capitalize", "center", "count", "decode", "endswith", "expandtabs", "find", "fromhex", "hex",
   "index", "isalnum", "isalpha", "isascii", "isdigit", "islower", "isspace", "istitle", "isupper",
   "join", "ljust", "lower", "lstrip", "maketrans", "partition", "removeprefix", "removesuffix",
   "replace", "rfind", "rindex", "rjust", "rpartition", "rsplit", "rstrip", "split", "splitlines",
   "startswith", "strip", "swapcase", "title", "translate", "upper", "zfill"]

/-- The methods of lists. -/
def listMethods : List String :=
  ["append", "clear", "copy", "count", "extend", "index", "insert", "pop", "remove", "reverse", "sort"]

/-- The methods of tuples. -/
def tupleMethods : List String := ["count", "index"]

/-- The methods of mappings. -/
def dictMethods : List String :=
  ["clear", "copy", "fromkeys", "get", "items", "keys", "pop", "popitem", "setdefault", "update", "values"]

/-- The methods of sets. -/
def setMethods : List String :=
  ["add", "clear", "copy", "difference", "difference_update", "discard", "intersection",
   "intersection_update", "isdisjoint", "issubset", "issuperset", "pop", "remove",
   "symmetric_difference", "symmetric_difference_update", "union", "update"]

/-- The methods of integers. -/
def intMethods : List String :=
  ["as_integer_ratio", "bit_count", "bit_length", "conjugate", "from_bytes", "to_bytes"]

/-- The methods of doubles. -/
def floatMethods : List String := ["as_integer_ratio", "conjugate", "fromhex", "hex", "is_integer"]

/-- The methods that belong to a type itself and not to its values. -/
def staticMethods : List String := ["maketrans", "fromkeys", "from_bytes", "fromhex"]

/-- The methods of the values that a type makes. -/
def typeMethods : Builtin → List String
  | .str => textMethods
  | .int | .bool => intMethods
  | .float => floatMethods
  | .list => listMethods
  | .tuple => tupleMethods
  | .dict => dictMethods
  | .set => setMethods
  | _ => []

/-! ## Attributes -/

/-- A method, if it is among those listed. -/
def methodIn (methods : List String) (v : Value) (name : String) : Option Value :=
  if methods.contains name then some (.method v name) else none

/-- The parts of an integer. -/
def intPart? (n : Int) : String → Option Value
  | "real" | "numerator" => some (.int n)
  | "imag" => some (.int 0)
  | "denominator" => some (.int 1)
  | _ => none

/-- The attribute that a value has by its type. -/
def attribute? (v : Value) (name : String) : Option Value :=
  match v with
  | .str _ => methodIn textMethods v name
  | .bytes _ => methodIn bytesMethods v name
  | .list _ => methodIn listMethods v name
  | .tuple _ => methodIn tupleMethods v name
  | .dict .. => methodIn dictMethods v name
  | .set _ => methodIn setMethods v name
  | .int n => (intPart? n name).or (methodIn intMethods v name)
  | .bool b => (intPart? (if b then 1 else 0) name).or (methodIn intMethods v name)
  | .float x => match name with
    | "real" => some (.float x)
    | "imag" => some (.float 0.0)
    | _ => methodIn floatMethods v name
  | .view .values _ => methodIn ["mapping"] v name
  | .view .. => methodIn ["isdisjoint", "mapping"] v name
  | .slice a b c => match name with
    | "start" => some a
    | "stop" => some b
    | "step" => some c
    | _ => methodIn ["indices"] v name
  | .builtin t =>
    if (typeMethods t).contains name then
      if staticMethods.contains name then some (.method v name) else some (.unbound t name)
    else none
  | .date d => match name with
    | "year" => some (.int d.year)
    | "month" => some (.int d.month)
    | "day" => some (.int d.day)
    | _ => methodIn ["isoformat", "ctime", "weekday", "isoweekday", "toordinal", "replace", "strftime"] v name
  | .moment m => match name with
    | "year" => some (.int m.date.year)
    | "month" => some (.int m.date.month)
    | "day" => some (.int m.date.day)
    | "hour" => some (.int m.hour)
    | "minute" => some (.int m.minute)
    | "second" => some (.int m.second)
    | "microsecond" => some (.int m.microsecond)
    | _ => methodIn ["isoformat", "ctime", "weekday", "date", "time", "timestamp", "replace", "strftime"] v name
  | _ => none

/-- `maketrans` -/
def makeTable (a : Arguments) : Except Fault Value := do
  match ← a.between "str.maketrans" "maketrans" 1 3 with
  | [.dict _ es] =>
    let pairs ← es.mapM fun (k, v) => match k with
      | .str s => match s.toList with
        | [c] => pure (Value.int c.toNat, v)
        | _ => throw (Fault.valueRule "string keys in translate table must be of length 1")
      | k => pure (k, v)
    return .dict none (Entries.merge [] pairs)
  | [_] => throw (.typeRule "if you give only one argument to maketrans it must be a dict")
  | .str x :: .str y :: rest =>
    if x.length ≠ y.length then throw (.valueRule "the first two maketrans arguments must have equal length")
    let pairs : List (Value × Value) := (x.toList.zip y.toList).map fun (c, d) => (.int c.toNat, .int d.toNat)
    let gone : List (Value × Value) := match rest with
      | [.str z] => z.toList.map fun c => (.int c.toNat, .null)
      | _ => []
    return .dict none (Entries.merge [] (pairs ++ gone))
  | x :: _ => throw (.argumentType "maketrans" "2" "str" (givenType x))
  | [] => throw (.expectedAtLeast "maketrans" 1 0)

/-- Calls a method of a value. -/
def callMethod (v : Value) (name : String) (a : Arguments) : Except Fault Value :=
  match name with
  | "maketrans" => makeTable a
  | "fromkeys" => fromKeys a
  | "from_bytes" => fromBytes a
  | _ => match v with
    | .str s => callText name s a
    | .bytes b => callBytes name b a
    | .list xs => callList name xs a
    | .tuple xs => callTuple name xs a
    | .dict _ es => callDict name es a
    | .set xs => callSet name xs a
    | .int n => callInt "int" name n a
    | .bool b => callInt "bool" name (if b then 1 else 0) a
    | .float x => callFloat name x a
    | .view k es => callSet name (Value.viewItems k es) a
    | .date d => do
      a.empty ("date." ++ name)
      return .str d.text
    | .moment m => do
      a.empty ("datetime." ++ name)
      return .str m.text
    | v => .error (.noAttribute v.typeName name)

/-- Does a value belong to a type? -/
def belongsTo (v : Value) (t : Builtin) : Bool :=
  v.typeName = t.name || (t = .int && v.typeName = "bool")

/-- Calls a method that was taken from a type: its first argument is the value. -/
def callUnbound (t : Builtin) (name : String) (a : Arguments) : Except Fault Value :=
  match a.positional with
  | [] => .error (.needsReceiver t.name name)
  | v :: rest =>
    if belongsTo v t then callMethod v name { a with positional := rest }
    else .error (.wrongReceiver t.name name v.typeName)

end Workflow.Expr
