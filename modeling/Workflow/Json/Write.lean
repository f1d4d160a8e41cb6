import Workflow.Value.Show

/-!
# Workflow.Json.Write

Values into JSON text.

A `Style` fixes what differs between the texts a program writes: separators,
indentation, whether characters outside ASCII are escaped, whether the
numbers that JSON lacks are written, and whether a value without a JSON form
is replaced by its text.  Tuples are written as arrays, and keys that are
numbers, truth values or null as text.
-/

namespace Workflow.Json

/-- How values are written. -/
structure Style where
  itemSeparator : String
  keySeparator : String
  asciiOnly : Bool
  indent : Option Nat
  allowsNaN : Bool
  textFallback : Bool

namespace Style

/-- One line with blanks after separators. -/
def line : Style := ⟨", ", ": ", false, none, true, false⟩

/-- One line with blanks after separators, in ASCII. -/
def asciiLine : Style := { line with asciiOnly := true }

/-- The body of a request: one line without blanks. -/
def compact : Style := ⟨",", ":", false, none, false, false⟩

/-- Two blanks per level. -/
def indented : Style := ⟨",", ": ", false, some 2, true, false⟩

/-- Two blanks per level, any value being written as text at worst. -/
def indentedAny : Style := { indented with textFallback := true }

end Style

/-! ## Scalars -/

/-- The escape `\uNNNN` of a UTF-16 unit. -/
def unitEscape (n : Nat) : List Char := '\\' :: 'u' :: Text.hexPadded 4 n

/-- One character inside a string. -/
def escapeChar (asciiOnly : Bool) (c : Char) : List Char :=
  if c = '"' then ['\\', '"']
  else if c = '\\' then ['\\', '\\']
  else if c = '\n' then ['\\', 'n']
  else if c = '\r' then ['\\', 'r']
  else if c = '\t' then ['\\', 't']
  else if c = '\x08' then ['\\', 'b']
  else if c = '\x0c' then ['\\', 'f']
  else if c.toNat < 0x20 then unitEscape c.toNat
  else if asciiOnly && decide (0x7f ≤ c.toNat) then
    if c.toNat < 0x10000 then unitEscape c.toNat
    else
      let n := c.toNat - 0x10000
      unitEscape (0xD800 + n / 0x400) ++ unitEscape (0xDC00 + n % 0x400)
  else [c]

/-- A string with its quotes. -/
def quote (asciiOnly : Bool) (s : String) : String :=
  String.ofList ('"' :: s.toList.flatMap (escapeChar asciiOnly) ++ ['"'])

/-- A double. -/
def floatLiteral (style : Style) (x : Float) : Except Fault String :=
  match Number.Binary64.parts x with
  | .finite .. => .ok (Number.floatText x)
  | .nan => if style.allowsNaN then .ok "NaN" else .error .nanNotAllowed
  | .infinite negative =>
    if style.allowsNaN then .ok (if negative then "-Infinity" else "Infinity")
    else .error .nanNotAllowed

/-- An integer. -/
def intLiteral (n : Int) : Except Fault String :=
  if (Value.int n).hasLongInt then .error .tooManyDigits else .ok (toString n)

/-- A key, as text. -/
def keyText (style : Style) : Value → Except Fault String
  | .str s => .ok s
  | .float x => floatLiteral style x
  | .bool b => .ok (if b then "true" else "false")
  | .null => .ok "null"
  | .int n => intLiteral n
  | v => .error (.keyType v.typeName)

/-- The name of a type without the module it belongs to. -/
def shortTypeName (v : Value) : String :=
  match v with
  | .date _ => "date"
  | .moment _ => "datetime"
  | v => v.typeName

/-! ## Containers -/

/-- A line break at the given depth, where the style has any. -/
def breakAt (style : Style) (depth : Nat) : String :=
  match style.indent with
  | some n => "\n".pushn ' ' (n * depth)
  | none => ""

/-- Written parts inside brackets. -/
def bracket (style : Style) (opening closing : String) (depth : Nat) (parts : List String) : String :=
  if parts.isEmpty then opening ++ closing
  else opening ++ breakAt style (depth + 1)
    ++ (style.itemSeparator ++ breakAt style (depth + 1)).intercalate parts
    ++ breakAt style depth ++ closing

mutual

/-- A value at the given depth, inside the mappings above it.  A mapping inside itself
has no text. -/
def writeAt (style : Style) (above : List MapId) (depth : Nat) : Value → Except Fault String
  | .null => .ok "null"
  | .bool b => .ok (if b then "true" else "false")
  | .int n => intLiteral n
  | .float x => floatLiteral style x
  | .str s => .ok (quote style.asciiOnly s)
  | .list xs => (writeItems style above (depth + 1) xs).map (bracket style "[" "]" depth)
  | .tuple xs => (writeItems style above (depth + 1) xs).map (bracket style "[" "]" depth)
  | .dict id es =>
    if id.any (above.contains ·) then .error .circular
    else (writeMembers style (id.toList ++ above) (depth + 1) es).map (bracket style "\x7b" "\x7d" depth)
  | v =>
    if style.textFallback then v.text?.map (quote style.asciiOnly)
    else .error (.notSerializable (shortTypeName v))

/-- The items of an array. -/
def writeItems (style : Style) (above : List MapId) (depth : Nat) : List Value → Except Fault (List String)
  | [] => .ok []
  | x :: xs => do
    let s ← writeAt style above depth x
    let rest ← writeItems style above depth xs
    return s :: rest

/-- The members of an object. -/
def writeMembers (style : Style) (above : List MapId) (depth : Nat) :
    List (Value × Value) → Except Fault (List String)
  | [] => .ok []
  | (k, v) :: es => do
    let name ← keyText style k
    let s ← writeAt style above depth v
    let rest ← writeMembers style above depth es
    return (quote style.asciiOnly name ++ style.keySeparator ++ s) :: rest

end

/-- A value as JSON text. -/
def write (style : Style) (v : Value) : Except Fault String := writeAt style [] 0 v

end Workflow.Json
