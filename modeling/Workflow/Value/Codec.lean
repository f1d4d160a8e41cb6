import Workflow.Value.Fault

/-!
# Workflow.Value.Codec

Texts as bytes, and bytes as texts.

A codec knows the characters below a limit.  One that it does not know is left
out, replaced by a question mark or refused, as the policy says; a refusal
names the whole run of unknown characters.
-/

namespace Workflow

/-- The codecs that texts can be encoded with. -/
inductive Codec where
  | utf8 | ascii | latin1
deriving DecidableEq, Inhabited

namespace Codec

/-- A codec by one of its names. -/
def ofName? (name : String) : Option Codec :=
  let plain := (name.toList.map Char.toLower).filter fun c => c != '-' && c != '_' && c != ' '
  match String.ofList plain with
  | "utf8" | "u8" | "utf" => some .utf8
  | "ascii" | "usascii" | "646" => some .ascii
  | "latin1" | "latin" | "iso88591" | "l1" | "8859" => some .latin1
  | _ => none

/-- The name of a codec in messages. -/
def name : Codec → String
  | .utf8 => "utf-8"
  | .ascii => "ascii"
  | .latin1 => "latin-1"

/-- The number of characters that a codec knows. -/
def limit : Codec → Nat
  | .utf8 => 0x110000
  | .ascii => 128
  | .latin1 => 256

/-- Does a codec know the character? -/
def knows (c : Codec) (ch : Char) : Bool := decide (ch.toNat < c.limit)

/-! ## Encoding -/

/-- A character as an escape in quotes. -/
def escaped (ch : Char) : String :=
  "'" ++ (if ch.toNat < 0x100 then "\\x" ++ String.ofList (Text.hexPadded 2 ch.toNat)
    else if ch.toNat < 0x10000 then "\\u" ++ String.ofList (Text.hexPadded 4 ch.toNat)
    else "\\U" ++ String.ofList (Text.hexPadded 8 ch.toNat)) ++ "'"

/-- The refusal of the unknown characters with which a text goes on at a position. -/
def refusal (c : Codec) (i : Nat) (cs : List Char) : Fault :=
  match cs.takeWhile fun ch => !c.knows ch with
  | _ :: _ :: more => .cannotEncodeRange c.name i (i + 1 + more.length) c.limit
  | [ch] => .cannotEncode c.name (escaped ch) i c.limit
  | [] => .cannotEncode c.name "''" i c.limit

/-- The bytes of a text, from a position on, with one byte to a character. -/
def encodeFrom (c : Codec) (policy : String) (i : Nat) : List Char → Except Fault (List UInt8)
  | [] => .ok []
  | ch :: rest =>
    if c.knows ch then (encodeFrom c policy (i + 1) rest).map (UInt8.ofNat ch.toNat :: ·)
    else match policy with
      | "ignore" => encodeFrom c policy (i + 1) rest
      | "replace" => (encodeFrom c policy (i + 1) rest).map (63 :: ·)
      | "strict" => .error (c.refusal i (ch :: rest))
      | other => .error (.unknownErrorHandler other)

/-- The bytes of a text. -/
def encode (c : Codec) (policy : String) (cs : List Char) : Except Fault (List UInt8) :=
  match c with
  | .utf8 => .ok ((String.ofList cs).toUTF8.toList)
  | c => c.encodeFrom policy 0 cs

/-! ## Decoding -/

/-- The length of a UTF-8 sequence by its first byte. -/
def sequenceLength (b : Nat) : Nat :=
  if b < 0x80 then 1
  else if 0xC2 ≤ b ∧ b < 0xE0 then 2
  else if 0xE0 ≤ b ∧ b < 0xF0 then 3
  else if 0xF0 ≤ b ∧ b < 0xF5 then 4
  else 0

/-- May the byte be the second of a sequence with this first byte? -/
def isSecond (first b : Nat) : Bool :=
  decide (0x80 ≤ b ∧ b < 0xC0) && !(first = 0xE0 && decide (b < 0xA0)) &&
    !(first = 0xED && decide (0xA0 ≤ b)) && !(first = 0xF0 && decide (b < 0x90)) &&
    !(first = 0xF4 && decide (0x90 ≤ b))

/-- The text of UTF-8 bytes. -/
def decodeUtf8 (fuel i : Nat) (bs : List UInt8) : Except Fault (List Char) :=
  match fuel with
  | 0 => .ok []
  | fuel + 1 =>
    match bs with
    | [] => .ok []
    | b :: rest =>
      let first := b.toNat
      let n := sequenceLength first
      if n = 0 then .error (.cannotDecode "utf-8" first i "invalid start byte")
      else if n = 1 then (decodeUtf8 fuel (i + 1) rest).map (Char.ofNat first :: ·)
      else
        let tail := (rest.take (n - 1)).map UInt8.toNat
        let good := (tail.zipIdx).takeWhile fun (b, k) =>
          if k = 0 then isSecond first b else decide (0x80 ≤ b ∧ b < 0xC0)
        if good.length = n - 1 then
          let lead := if n = 2 then first - 0xC0 else if n = 3 then first - 0xE0 else first - 0xF0
          let code := tail.foldl (fun a b => a * 64 + (b - 0x80)) lead
          (decodeUtf8 fuel (i + n) (rest.drop (n - 1))).map (Char.ofNat code :: ·)
        else
          let reason := if good.length < tail.length then "invalid continuation byte" else "unexpected end of data"
          if good.isEmpty then .error (.cannotDecode "utf-8" first i reason)
          else .error (.cannotDecodeRange "utf-8" i (i + good.length) reason)

/-- The text of bytes. -/
def decode (c : Codec) (bs : List UInt8) : Except Fault String :=
  match c with
  | .utf8 => (decodeUtf8 (bs.length + 1) 0 bs).map String.ofList
  | .latin1 => .ok (String.ofList (bs.map fun b => Char.ofNat b.toNat))
  | .ascii => match (bs.zipIdx).find? fun (b, _) => decide (128 ≤ b.toNat) with
    | some (b, i) => .error (.cannotDecode "ascii" b.toNat i "ordinal not in range(128)")
    | none => .ok (String.ofList (bs.map fun b => Char.ofNat b.toNat))

end Codec
end Workflow
