import Workflow.Expr.Builtin
import Workflow.Yaml.Node

/-!
# Workflow.Yaml.Read

The values of YAML documents.

1. The tag of a node says what is made of it.  A scalar whose text does not fit
   its tag is a fault; a node of the wrong shape, or with a tag that is not
   known, is a flaw of the document.
2. The pairs of mappings that are merged in come before a mapping's own, and
   its own replace them; of several merged mappings an earlier one replaces a
   later one.
-/

namespace Workflow.Yaml

/-- Why a document has no value. -/
inductive Refusal where
  | flaw (f : Flaw)
  | fault (f : Fault)
deriving Inhabited

/-- An operation on values as a step of reading. -/
def Refusal.lift (r : Except Fault α) : Except Refusal α := r.mapError .fault

/-! ## Numbers -/

/-- The parts of a text between colons. -/
def colonParts : List Char → List (List Char)
  | [] => [[]]
  | c :: cs =>
    if c = ':' then [] :: colonParts cs
    else match colonParts cs with
      | p :: ps => (c :: p) :: ps
      | [] => [[c]]

/-- An integer in a base. -/
def intIn (base : Nat) (cs : List Char) : Except Fault Int :=
  Expr.intOfText base (Text.quoted (String.ofList cs)) cs

/-- An integer without its sign. -/
def magnitude (cs : List Char) : Except Fault Int :=
  match cs with
  | [] => .error (.indexOutOfRange "string")
  | ['0'] => .ok 0
  | '0' :: 'b' :: ds => intIn 2 ds
  | '0' :: 'x' :: ds => intIn 16 ds
  | '0' :: _ => intIn 8 cs
  | _ =>
    if cs.contains ':' then do
      let ds ← (colonParts cs).mapM (intIn 10)
      return ds.foldl (fun n d => n * 60 + d) 0
    else intIn 10 cs

/-- A sign and what stands behind it. -/
def splitSign (cs : List Char) : Bool × List Char :=
  match cs with
  | '-' :: rest => (true, rest)
  | '+' :: rest => (false, rest)
  | cs => (false, cs)

/-- The integer that a text writes. -/
def intValue (text : String) : Except Fault Value := do
  let (negative, cs) := splitSign (text.toList.filter (· != '_'))
  let n ← magnitude cs
  return .int (if negative then -n else n)

/-- A double in base ten. -/
def floatIn (cs : List Char) : Except Fault Float :=
  match Expr.floatOfText? cs with
  | some x => .ok x
  | none => .error (.notAFloat (Text.quoted (String.ofList cs)))

/-- The sum of digits, the last of weight `weight`, in sixties. -/
def sumSixties (weight : Float) : List Float → Float → Float
  | [], sum => sum
  | d :: ds, sum => sumSixties (weight * 60.0) ds (sum + d * weight)

/-- The double that a text writes. -/
def floatValue (text : String) : Except Fault Value := do
  let plain := (text.toList.filter (· != '_')).map Char.toLower
  if plain.isEmpty then throw (.indexOutOfRange "string")
  let (negative, cs) := splitSign plain
  match String.ofList cs with
  | ".inf" => return .float (Number.Binary64.infinity negative)
  | ".nan" => return .float Number.Binary64.nan
  | _ =>
    let x ← if cs.contains ':' then do
        pure (sumSixties 1.0 (← (colonParts cs).mapM floatIn).reverse 0.0)
      else floatIn cs
    return .float (if negative then -x else x)

/-! ## Dates -/

/-- A check with the wording of its failure. -/
def ensure (ok : Bool) (text : String) : Except Fault Unit :=
  if ok then .ok () else .error (.valueRule text)

/-- Refuses what is no day of the calendar. -/
def checkDate (d : Date) : Except Fault Unit := do
  ensure (decide (1 ≤ d.year)) s!"year {d.year} is out of range"
  ensure (decide (1 ≤ d.month ∧ d.month ≤ 12)) "month must be in 1..12"
  ensure d.isValid "day is out of range for month"

/-- The microseconds that the digits of a fraction write. -/
def microseconds (ds : List Char) : Nat :=
  let ds := ds.take 6
  natOf ds * Number.tenTo (6 - ds.length)

/-- The date or point in time that a text writes. -/
def stampValue (text : String) : Except Fault Value := do
  match readStamp? text.toList with
  | none => throw (.noAttribute "NoneType" "groupdict")
  | some ⟨date, _, none⟩ =>
    checkDate date
    return .date date
  | some ⟨date, _, some c⟩ =>
    if let some o := c.offset then
      ensure (decide (-86400 < o ∧ o < 86400)) ("offset must be a timedelta strictly between "
        ++ "-timedelta(hours=24) and timedelta(hours=24), not " ++ Moment.deltaText o)
    checkDate date
    ensure (decide (c.hour ≤ 23)) "hour must be in 0..23"
    ensure (decide (c.minute ≤ 59)) "minute must be in 0..59"
    ensure (decide (c.second ≤ 59)) "second must be in 0..59"
    return .moment ⟨date, c.hour, c.minute, c.second, microseconds c.fraction, c.offset⟩

/-! ## Bytes -/

/-- The six bits that a character stands for. -/
def sixBits? (c : Char) : Option Nat :=
  if c.isUpper then some (c.toNat - 'A'.toNat)
  else if c.isLower then some (c.toNat - 'a'.toNat + 26)
  else if c.isDigit then some (c.toNat - '0'.toNat + 52)
  else if c = '+' then some 62
  else if c = '/' then some 63
  else none

/-- Decodes bytes from six bits each; `held` are the bits of the current group
of four, `pads` the padding seen in it.  Other characters are skipped. -/
def decodeSixBits (held : List Nat) (pads : Nat) : List Char → Option (List UInt8)
  | [] => if held.isEmpty then some [] else none
  | c :: cs =>
    if c = '=' then
      if 2 ≤ held.length && decide (4 ≤ held.length + pads + 1) then some [] else decodeSixBits held (pads + 1) cs
    else match sixBits? c with
      | none => decodeSixBits held pads cs
      | some d => match held with
        | [] => decodeSixBits [d] 0 cs
        | [a] => (decodeSixBits [a, d] 0 cs).map (UInt8.ofNat (a * 4 + d / 16) :: ·)
        | [a, b] => (decodeSixBits [a, b, d] 0 cs).map (UInt8.ofNat (b % 16 * 16 + d / 4) :: ·)
        | _ :: _ :: b :: _ => (decodeSixBits [] 0 cs).map (UInt8.ofNat (b % 4 * 64 + d) :: ·)

/-- The bytes that a text writes in base sixty-four. -/
def bytesValue (text : String) : Except Refusal Value :=
  if text.toList.any fun c => decide (128 ≤ c.toNat) then .error (.flaw .encoding)
  else match decodeSixBits [] 0 text.toList with
    | some bytes => .ok (.bytes bytes)
    | none => .error (.flaw .encoding)

/-! ## Scalars -/

/-- The truth value that a word stands for. -/
def boolValue (text : String) : Except Fault Value :=
  let word := text.map Char.toLower
  if ["yes", "true", "on"].contains word then .ok (.bool true)
  else if ["no", "false", "off"].contains word then .ok (.bool false)
  else .error (.missingKey (Text.quoted word))

/-- The value of a scalar. -/
def scalarValue (tag : Tag) (text : String) : Except Refusal Value :=
  match tag with
  | .null => .ok .null
  | .bool => Refusal.lift (boolValue text)
  | .int => Refusal.lift (intValue text)
  | .float => Refusal.lift (floatValue text)
  | .binary => bytesValue text
  | .timestamp => Refusal.lift (stampValue text)
  | .str => .ok (.str text)
  | .seq | .map | .set | .omap | .pairs => .error (.flaw .wrongShape)
  | .merge | .default | .other _ => .error (.flaw .unknownTag)

/-- The flaw of a collection with a tag that is not for it. -/
def misfit (tag : Tag) : Flaw :=
  match tag with
  | .merge | .default | .other _ => .unknownTag
  | _ => .wrongShape

/-! ## Collections -/

/-- Adds a pair to a mapping. -/
def addPair (es : Entries) (k v : Value) : Except Refusal Entries :=
  match k.key? with
  | some key => .ok (es.set k key v)
  | none => .error (.flaw .unhashableKey)

mutual

/-- The value of a node. -/
def Node.value : Node → Except Refusal Value
  | .scalar tag text => scalarValue tag text
  | .sequence tag items => match tag with
    | .seq => do return .list (← itemValues items)
    | .omap | .pairs => do return .list (← singlePairs items)
    | tag => .error (.flaw (misfit tag))
  | .mapping tag pairs => match tag with
    | .map => do return .dict none (← entries pairs)
    | .set => do
      let keys := (← entries pairs).map (·.1)
      return .set (← Refusal.lift (keys.foldlM Value.addMember []))
    | tag => .error (.flaw (misfit tag))

/-- The values of items. -/
def itemValues : List Node → Except Refusal (List Value)
  | [] => .ok []
  | n :: ns => do
    let v ← n.value
    return v :: (← itemValues ns)

/-- The pairs of mappings that have one each. -/
def singlePairs : List Node → Except Refusal (List Value)
  | [] => .ok []
  | n :: ns => do
    let pair ← match n with
      | .mapping _ [(k, v)] => do
        let k ← k.value
        pure (Value.tuple [k, ← v.value])
      | _ => .error (.flaw .wrongShape)
    return pair :: (← singlePairs ns)

/-- The entries of a mapping with the given pairs. -/
def entries (pairs : List (Node × Node)) : Except Refusal Entries := do
  let (merged, own) ← sortPairs pairs
  own.foldlM (fun es (k, v) => addPair es k v) merged

/-- What the pairs of a mapping merge in, and its own pairs. -/
def sortPairs : List (Node × Node) → Except Refusal (Entries × List (Value × Value))
  | [] => .ok ([], [])
  | (k, v) :: rest => match k with
    | .scalar .merge _ => do
      let es ← match v with
        | .mapping _ pairs => entries pairs
        | .sequence _ items => mergedItems items
        | .scalar .. => .error (.flaw .mergeShape)
      let (merged, own) ← sortPairs rest
      return (es.merge merged, own)
    | .scalar .default text => do
      let v ← v.value
      let (merged, own) ← sortPairs rest
      return (merged, (.str text, v) :: own)
    | k => do
      let key ← k.value
      if key.key?.isNone then throw (.flaw .unhashableKey)
      let v ← v.value
      let (merged, own) ← sortPairs rest
      return (merged, (key, v) :: own)

/-- The entries of several mappings, of which an earlier one replaces a later one. -/
def mergedItems : List Node → Except Refusal Entries
  | [] => .ok []
  | .mapping _ pairs :: rest => do
    let es ← entries pairs
    return Entries.merge (← mergedItems rest) es
  | _ :: _ => .error (.flaw .mergeShape)

end

/-- The value of a document. -/
def read (text : String) : Except Refusal Value :=
  match Node.ofText? text with
  | .error f => .error (.flaw f)
  | .ok none => .ok .null
  | .ok (some n) => n.value

end Workflow.Yaml
