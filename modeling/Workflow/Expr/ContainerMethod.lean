import Workflow.Expr.TextMethod
import Workflow.Value.Arithmetic
import Workflow.Value.Field

/-!
# Workflow.Expr.ContainerMethod

The methods of lists, tuples, mappings, sets, byte strings and numbers.

Expressions only read: a method that would change its value in place answers
what it would answer and leaves the value as it was.
-/

namespace Workflow.Expr

/-! ## Sequences -/

/-- A bound of a search in a list; unlike a slice's it may not be null. -/
def listBound (v : Value) : Except Fault Int :=
  match v.asInt? with
  | some n => .ok n
  | none => .error (.sliceIndex false)

/-- The position of an item. -/
def indexOf (missing : Fault) (xs : List Value) (args : List Value) : Except Fault Value := do
  let start? ← (args[1]?).mapM listBound
  let stop? ← (args[2]?).mapM listBound
  let (start, stop) := rangeOf xs.length start? stop?
  let x := args.getD 0 .null
  match (List.range (stop - start)).find? fun i => match xs[start + i]? with
    | some y => y.sameItem x
    | none => false with
  | some i => return .int ((start + i : Nat) : Int)
  | none => throw missing

/-- Calls a method of a list. -/
def callList (name : String) (xs : List Value) (a : Arguments) : Except Fault Value := do
  let callee := "list." ++ name
  match name with
  | "index" =>
    let args ← a.between callee name 1 3
    indexOf (.notInList (args.getD 0 .null).repr) xs args
  | "count" =>
    let x ← a.one callee
    return .int (xs.countP fun y => y.sameItem x)
  | "copy" =>
    a.empty callee
    return .list xs
  | _ => return .null

/-- Calls a method of a tuple. -/
def callTuple (name : String) (xs : List Value) (a : Arguments) : Except Fault Value := do
  let callee := "tuple." ++ name
  match name with
  | "index" => indexOf .notInTuple xs (← a.between callee name 1 3)
  | _ =>
    let x ← a.one callee
    return .int (xs.countP fun y => y.sameItem x)

/-! ## Mappings -/

/-- A mapping that gives every item of a value the same value. -/
def fromKeys (a : Arguments) : Except Fault Value := do
  let args ← a.between "dict.fromkeys" "fromkeys" 1 2
  let xs ← (args.getD 0 .null).iterate
  let es ← xs.foldlM (fun (es : Entries) k => do return es.set k (← Value.keyOf k) (args.getD 1 .null)) []
  return .dict none es

/-- Calls a method of a mapping. -/
def callDict (name : String) (es : Entries) (a : Arguments) : Except Fault Value := do
  let callee := "dict." ++ name
  match name with
  | "get" | "setdefault" =>
    let args ← a.between callee name 1 2
    return (es.get? (← Value.keyOf (args.getD 0 .null))).getD (args.getD 1 .null)
  | "pop" =>
    let args ← a.between callee name 1 2
    let key := args.getD 0 .null
    match es.get? (← Value.keyOf key), (args[1]? : Option Value) with
    | some v, _ => return v
    | none, some v => return v
    | none, none => throw (.missingKey key.repr)
  | "keys" => do
    a.empty callee
    return .view .keys es
  | "values" => do
    a.empty callee
    return .view .values es
  | "items" => do
    a.empty callee
    return .view .items es
  | "copy" => do
    a.empty callee
    return .dict none es
  | "fromkeys" => fromKeys a
  | "popitem" =>
    a.empty callee
    match es.getLast? with
    | some e => return Value.pairOf e
    | none => throw (.missingKey "'popitem(): dictionary is empty'")
  | _ => return .null

/-! ## Sets -/

/-- The members of an iterable as a set. -/
def memberList (v : Value) : Except Fault (List Value) := do
  (← v.iterate).foldlM Value.addMember []

/-- Calls a method of a set. -/
def callSet (name : String) (xs : List Value) (a : Arguments) : Except Fault Value := do
  let callee := "set." ++ name
  match name with
  | "copy" =>
    a.empty callee
    return .set xs
  | "union" =>
    let others ← (← a.noKeywords name).mapM memberList
    return .set (← others.foldlM Value.union xs)
  | "intersection" =>
    let others ← (← a.noKeywords name).mapM memberList
    return .set (others.foldl (fun xs ys => Value.intersection ys xs) xs)
  | "difference" =>
    let others ← (← a.noKeywords name).mapM memberList
    return .set (others.foldl Value.difference xs)
  | "symmetric_difference" =>
    let ys ← memberList (← a.one callee)
    return .set (Value.difference xs ys ++ Value.difference ys xs)
  | "issubset" =>
    let ys ← memberList (← a.one callee)
    return .bool (Value.allIn xs ys)
  | "issuperset" =>
    let ys ← memberList (← a.one callee)
    return .bool (Value.allIn ys xs)
  | "isdisjoint" =>
    let ys ← memberList (← a.one callee)
    return .bool (Value.intersection xs ys).isEmpty
  | _ => return .null

/-! ## Byte strings -/

/-- Calls a method of a byte string. -/
def callBytes (name : String) (bs : List UInt8) (a : Arguments) : Except Fault Value := do
  let callee := "bytes." ++ name
  match name with
  | "decode" =>
    let xs ← a.named name ["encoding", "errors"]
    let (c, _) ← codecArguments name (xs.getD 0 none) (xs.getD 1 none)
    return .str (← c.decode bs)
  | "hex" =>
    let _ ← a.between callee name 0 2
    return textValue (bs.flatMap fun b => Text.hexPadded 2 b.toNat)
  | "upper" => do
    a.empty callee
    return .bytes (bs.map fun b => if 97 ≤ b.toNat ∧ b.toNat ≤ 122 then b - 32 else b)
  | "lower" => do
    a.empty callee
    return .bytes (bs.map fun b => if 65 ≤ b.toNat ∧ b.toNat ≤ 90 then b + 32 else b)
  | "startswith" =>
    match ← a.one callee with
    | .bytes p => return .bool (p.isPrefixOf bs)
    | v => throw (.affixType name v.typeName)
  | "endswith" =>
    match ← a.one callee with
    | .bytes p => return .bool (p.isSuffixOf bs)
    | v => throw (.affixType name v.typeName)
  | _ => throw (.noAttribute "bytes" name)

/-! ## Numbers -/

/-- The number of bits of a natural. -/
def bitLength (n : Nat) : Nat := if n = 0 then 0 else n.log2 + 1

/-- The number of ones among the bits of a natural. -/
def bitCount (n : Nat) : Nat := (Nat.toDigits 2 n).countP (· = '1')

/-- The bytes of a natural, most significant first. -/
def bigEndian (length n : Nat) : List UInt8 :=
  (List.range length).reverse.map fun i => UInt8.ofNat (n / Number.twoTo (8 * i) % 256)

/-- The length or the bytes, the order, and whether there is a sign; the last
can only be given by name. -/
def bytesArguments (callee first : String) (a : Arguments) :
    Except Fault (Option Value × Option Value × Bool) := do
  if 2 < a.positional.length then throw (.takesAtMostByPosition callee 2 a.positional.length)
  let xs ← { a with keywords := a.keywords.filter fun (k, _) => k != "signed" }.named callee [first, "byteorder"]
  return (xs.getD 0 none, xs.getD 1 none, ((a.keywords.lookup "signed").map Value.truthy).getD false)

/-- Does the least significant byte come first? -/
def isLittleEndian (callee : String) : Option Value → Except Fault Bool
  | none | some (.str "big") => .ok false
  | some (.str "little") => .ok true
  | some (.str _) => .error (.valueRule "byteorder must be either 'little' or 'big'")
  | some v => .error (.argumentType callee "'byteorder'" "str" (givenType v))

/-- `to_bytes` -/
def toBytes (n : Int) (a : Arguments) : Except Fault Value := do
  let (length?, order?, signed) ← bytesArguments "to_bytes" "length" a
  let length ← match length? with
    | some v => indexArgument v
    | none => pure 1
  let little ← isLittleEndian "to_bytes" order?
  if length < 0 then throw (.valueRule "length argument must be non-negative")
  if n < 0 && !signed then throw (.overflowRule "can't convert negative int to unsigned")
  let size := length.toNat
  let limit : Int := Number.twoTo (8 * size)
  let fits := if signed then decide (-limit ≤ 2 * n ∧ 2 * n < limit) else decide (n < limit)
  if !fits then throw (.overflowRule "int too big to convert")
  let bs := bigEndian size (n.emod limit).toNat
  return .bytes (if little then bs.reverse else bs)

/-- The bytes that a value holds as numbers. -/
def byteItems (v : Value) : Except Fault (List UInt8) :=
  match v with
  | .bytes bs => .ok bs
  | .str _ => .error (.typeRule "cannot convert 'str' object to bytes")
  | v => match v.items? with
    | none => .error (.typeRule ("cannot convert " ++ Fault.inQuotes v.typeName ++ " object to bytes"))
    | some xs => xs.mapM fun x => do
      let n ← indexArgument x
      if 0 ≤ n ∧ n < 256 then return UInt8.ofNat n.toNat
      else throw (.valueRule "bytes must be in range(0, 256)")

/-- `from_bytes` -/
def fromBytes (a : Arguments) : Except Fault Value := do
  let (source?, order?, signed) ← bytesArguments "from_bytes" "bytes" a
  let little ← isLittleEndian "from_bytes" order?
  let bs ← match source? with
    | some v => byteItems v
    | none => throw (.typeRule "from_bytes() missing required argument 'bytes' (pos 1)")
  let bs := if little then bs.reverse else bs
  let n : Int := (bs.foldl (fun n b => n * 256 + b.toNat) 0 : Nat)
  let limit : Int := Number.twoTo (8 * bs.length)
  return .int (if signed && decide (limit ≤ 2 * n) then n - limit else n)

/-- Calls a method of an integer. -/
def callInt (owner name : String) (n : Int) (a : Arguments) : Except Fault Value := do
  let callee := owner ++ "." ++ name
  match name with
  | "bit_length" => do
    a.empty callee
    return .int (bitLength n.natAbs)
  | "bit_count" => do
    a.empty callee
    return .int (bitCount n.natAbs)
  | "conjugate" => do
    a.empty callee
    return .int n
  | "as_integer_ratio" => do
    a.empty callee
    return .tuple [.int n, .int 1]
  | "to_bytes" => toBytes n a
  | "from_bytes" => fromBytes a
  | _ => throw (.noAttribute "int" name)

/-- A double in hexadecimal. -/
def floatHex (x : Float) : String :=
  match Number.Binary64.parts x with
  | .finite negative m q =>
    let sign := if negative then "-" else ""
    if m = 0 then sign ++ "0x0.0p+0"
    else
      let (whole, fraction, e) : Nat × Nat × Int :=
        if m < Number.twoTo 52 then (0, m, -1022) else (1, m - Number.twoTo 52, q + 52)
      sign ++ s!"0x{whole}." ++ String.ofList (Text.hexPadded 13 fraction)
        ++ "p" ++ (if e < 0 then "-" else "+") ++ toString e.natAbs
  | _ => Number.floatText x

/-- A double as a quotient of integers. -/
def floatRatio (x : Float) : Except Fault Value :=
  match Number.Binary64.parts x with
  | .nan => .error (.valueRule "cannot convert NaN to integer ratio")
  | .infinite _ => .error (.overflowRule "cannot convert Infinity to integer ratio")
  | .finite negative m q =>
    let (num, den) := Number.dyadic m q
    let g := max (Nat.gcd num den) 1
    let n : Int := num / g
    .ok (.tuple [.int (if negative then -n else n), .int ((den / g : Nat) : Int)])

/-- Calls a method of a double. -/
def callFloat (name : String) (x : Float) (a : Arguments) : Except Fault Value := do
  let callee := "float." ++ name
  match name with
  | "is_integer" => do
    a.empty callee
    return .bool (Number.Binary64.toInt? x).isSome
  | "conjugate" => do
    a.empty callee
    return .float x
  | "as_integer_ratio" => do
    a.empty callee
    floatRatio x
  | "hex" => do
    a.empty callee
    return .str (floatHex x)
  | _ => throw (.noAttribute "float" name)

end Workflow.Expr
