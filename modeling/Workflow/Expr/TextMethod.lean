import Workflow.Expr.Arguments
import Workflow.Value.Codec
import Workflow.Text.Case
import Workflow.Text.Lines

/-!
# Workflow.Expr.TextMethod

The methods of texts.

Search and division work on lists of characters; `callText` takes a method by
name, checks its arguments and applies it.
-/

namespace Workflow.Expr

/-! ## Search -/

/-- Does the part occur at position `i`? -/
def occursAt (part cs : List Char) (i : Nat) : Bool := part.isPrefixOf (cs.drop i)

/-- The first position from `start` where the part occurs before `stop`. -/
def findFrom (part : List Char) (cs : List Char) (start stop : Nat) : Option Nat :=
  if stop < start + part.length then none
  else
    (List.range (stop - start - part.length + 1)).findSome? fun i =>
      if occursAt part cs (start + i) then some (start + i) else none

/-- The last such position. -/
def findLast (part : List Char) (cs : List Char) (start stop : Nat) : Option Nat :=
  if stop < start + part.length then none
  else
    (List.range (stop - start - part.length + 1)).reverse.findSome? fun i =>
      if occursAt part cs (start + i) then some (start + i) else none

/-- Divides a text at a part that is not empty, at most `limit` times. -/
def splitAt (part : List Char) (limit : Nat) (piece : List Char) (fuel : Nat) (cs : List Char) :
    List (List Char) :=
  match fuel with
  | 0 => [piece.reverse ++ cs]
  | fuel + 1 =>
    if limit = 0 then [piece.reverse ++ cs]
    else match cs with
      | [] => [piece.reverse]
      | c :: rest =>
        if part.isPrefixOf cs then
          piece.reverse :: splitAt part (limit - 1) [] fuel (cs.drop part.length)
        else splitAt part limit (c :: piece) fuel rest

/-- Divides a text at runs of white space, at most `limit` times. -/
def splitBlank (limit : Nat) (fuel : Nat) (cs : List Char) : List (List Char) :=
  match fuel with
  | 0 => []
  | fuel + 1 =>
    let cs := cs.dropWhile Text.isSpace
    if cs.isEmpty then []
    else if limit = 0 then [cs]
    else
      let word := cs.takeWhile fun c => !Text.isSpace c
      word :: splitBlank (limit - 1) fuel (cs.drop word.length)

/-- A limit of divisions; a negative one is none. -/
def limitOf (length : Nat) (n : Int) : Nat := if n < 0 then length + 1 else n.toNat

/-- Division from the left at a separator, or at white space. -/
def split (sep? : Option (List Char)) (limit : Int) (cs : List Char) : List (List Char) :=
  let limit := limitOf cs.length limit
  match sep? with
  | some sep => splitAt sep limit [] (cs.length + 1) cs
  | none =>
    -- what is left when the limit is reached keeps its blanks at the end
    splitBlank limit (cs.length + 1) cs

/-- Division from the right. -/
def splitRight (sep? : Option (List Char)) (limit : Int) (cs : List Char) : List (List Char) :=
  ((split (sep?.map List.reverse) limit cs.reverse).map List.reverse).reverse

/-- Replaces a part, at most `limit` times; the empty part stands before every
character and at the end. -/
def replace (old new : List Char) (limit : Int) (cs : List Char) : List Char :=
  let n := limitOf cs.length limit
  if old.isEmpty then
    let front := (cs.take n).flatMap fun c => new ++ [c]
    front ++ cs.drop n ++ (if cs.length < n then new else [])
  else new.intercalate (splitAt old n [] (cs.length + 1) cs)

/-! ## Shape -/

/-- Columns of blanks for tabs. -/
def expandTabs (size : Int) (column : Nat) : List Char → List Char
  | [] => []
  | c :: rest =>
    if c = '\t' then
      if size ≤ 0 then expandTabs size column rest
      else
        let n := size.toNat - column % size.toNat
        List.replicate n ' ' ++ expandTabs size (column + n) rest
    else if c = '\n' || c = '\r' then c :: expandTabs size 0 rest
    else c :: expandTabs size (column + 1) rest

/-- Zeros behind the sign, up to a width. -/
def zeroFill (width : Int) (cs : List Char) : List Char :=
  let zeros := List.replicate (width.toNat - cs.length) '0'
  match cs with
  | c :: rest => if c = '+' || c = '-' then c :: zeros ++ rest else zeros ++ cs
  | [] => zeros

/-- Text in the middle of a width; of an odd padding the larger half goes to
the left in an odd width. -/
def center (width : Int) (fill : Char) (cs : List Char) : List Char :=
  let margin := width.toNat - cs.length
  let left := margin / 2 + (if margin % 2 = 1 && width.toNat % 2 = 1 then 1 else 0)
  List.replicate left fill ++ cs ++ List.replicate (margin - left) fill

/-- Is every word capitalised?  `inWord` says whether the character before has
case, `seen` whether one did. -/
def isTitle (inWord seen : Bool) : List Char → Bool
  | [] => seen
  | c :: rest =>
    if Text.isUppercase c || Text.isTitlecase c then !inWord && isTitle true true rest
    else if Text.isLowercase c then inWord && isTitle true true rest
    else isTitle false seen rest

/-- Trims the characters for which the test holds. -/
def trim (left right : Bool) (drop : Char → Bool) (cs : List Char) : List Char :=
  let cs := if left then cs.dropWhile drop else cs
  if right then (cs.reverse.dropWhile drop).reverse else cs

/-! ## Bytes of a text -/

/-- The codec and the policy of a conversion. -/
def codecArguments (callee : String) (encoding errors : Option Value) : Except Fault (Codec × String) := do
  let encoding ← match encoding with
    | some (.str s) => pure s
    | some v => throw (.argumentType callee "'encoding'" "str" (givenType v))
    | none => pure "utf-8"
  let policy ← match errors with
    | some (.str s) => pure s
    | some v => throw (.argumentType callee "'errors'" "str" (givenType v))
    | none => pure "strict"
  match Codec.ofName? encoding with
  | some c => return (c, policy)
  | none => throw (.unknownEncoding encoding)

/-! ## Calls -/

/-- A text as a value. -/
def textValue (cs : List Char) : Value := .str (String.ofList cs)

/-- A text argument. -/
def textArgument (v : Value) : Except Fault (List Char) :=
  match v with
  | .str s => .ok s.toList
  | v => .error (.plainArgumentType "str" v.typeName)

/-- The part and range of a search. -/
def searchArguments (name : String) (a : Arguments) (cs : List Char) :
    Except Fault (List Char × Nat × Nat) := do
  let xs ← a.taking name name 1 3
  -- the bounds are read before the part is looked at
  let start? ← boundArgument (xs.getD 1 .null)
  let stop? ← boundArgument (xs.getD 2 .null)
  let part ← textArgument (xs.getD 0 .null)
  let (start, stop) := rangeOf cs.length start? stop?
  return (part, start, stop)

/-- Does the text between two positions start, or end, with the part? -/
def hasAffix (atEnd : Bool) (cs : List Char) (start stop : Nat) (part : List Char) : Bool :=
  if stop < start + part.length then false
  else occursAt part cs (if atEnd then stop - part.length else start)

/-- Is one of the parts an affix?  Parts are looked at one by one. -/
def anyAffix (callee : String) (test : List Char → Bool) : List Value → Except Fault Bool
  | [] => .ok false
  | .str s :: rest => if test s.toList then .ok true else anyAffix callee test rest
  | v :: _ => .error (.typeRule
      ("tuple for " ++ callee ++ " must only contain str, not " ++ v.typeName))

/-- `startswith` and `endswith`. -/
def affixTest (name : String) (atEnd : Bool) (a : Arguments) (cs : List Char) : Except Fault Value := do
  let xs ← a.taking name name 1 3
  let start? ← boundArgument (xs.getD 1 .null)
  let stop? ← boundArgument (xs.getD 2 .null)
  let (start, stop) := rangeOf cs.length start? stop?
  let test := hasAffix atEnd cs start stop
  match xs.getD 0 .null with
  | .str s => return .bool (test s.toList)
  | .tuple parts => return .bool (← anyAffix name test parts)
  | v => throw (.affixType name v.typeName)

/-- The separator and the limit of a division. -/
def splitArguments (name : String) (a : Arguments) : Except Fault (Option (List Char) × Int) := do
  let xs ← a.named name ["sep", "maxsplit"]
  let limit ← match xs.getD 1 none with
    | some v => indexArgument v
    | none => pure (-1)
  match xs.getD 0 none with
  | none | some .null => return (none, limit)
  | some (.str s) => if s.isEmpty then throw .emptySeparator else return (some s.toList, limit)
  | some v => throw (.plainArgumentType "str or None" v.typeName)

/-- The width and the fill character of a padding. -/
def padArguments (name : String) (a : Arguments) : Except Fault (Int × Char) := do
  let xs ← a.between ("str." ++ name) name 1 2
  let width ← indexArgument (xs.getD 0 .null)
  match (xs[1]? : Option Value) with
  | none => return (width, ' ')
  | some (.str s) => match s.toList with
    | [c] => return (width, c)
    | _ => throw .fillLength
  | some v => throw (.fillType v.typeName)

/-- Joins the items of a value. -/
def join (separator : List Char) (v : Value) : Except Fault Value :=
  match v.items? with
  | none => .error .joinIterable
  | some xs => do
    let parts ← (xs.zipIdx).mapM fun (x, i) => match x with
      | .str s => pure s.toList
      | x => throw (Fault.joinItem i x.typeName)
    return textValue (separator.intercalate parts)

/-- `partition` and `rpartition`. -/
def partition (last : Bool) (cs part : List Char) : Except Fault Value :=
  if part.isEmpty then .error .emptySeparator
  else
    let found? := if last then findLast part cs 0 cs.length else findFrom part cs 0 cs.length
    .ok <| match found? with
      | some i => .tuple [textValue (cs.take i), textValue part, textValue (cs.drop (i + part.length))]
      | none => if last then .tuple [.str "", .str "", textValue cs] else .tuple [textValue cs, .str "", .str ""]

/-- What a translation table has for a character. -/
def translateChar (table : Value) (c : Char) : Except Fault (List Char) :=
  match table with
  | .dict _ es => match Entries.get? es [.int c.toNat] with
    | none => .ok [c]
    | some .null => .ok []
    | some (.str s) => .ok s.toList
    | some v => match v.asInt? with
      | some n => if 0 ≤ n ∧ n < 0x110000 then .ok [Char.ofNat n.toNat]
        else .error (.valueRule "character mapping must be in range(0x110000)")
      | none => .error (.typeRule "character mapping must return integer, None or str")
  | .list xs => match xs[c.toNat]? with
    | some (.str s) => .ok s.toList
    | _ => .ok [c]
  | v => .error (.notSubscriptable v.typeName)

/-- `strip`, `lstrip` and `rstrip`. -/
def trimCall (name : String) (left right : Bool) (a : Arguments) (cs : List Char) : Except Fault Value := do
  let xs ← a.between ("str." ++ name) name 0 1
  match xs.getD 0 .null with
  | .null => return textValue (trim left right Text.isSpace cs)
  | .str s => return textValue (trim left right s.toList.contains cs)
  | _ => throw (.stripArgument name)

/-- Is the text not empty, and does the test hold of every character? -/
def allChars (test : Char → Bool) (cs : List Char) : Value := .bool (!cs.isEmpty && cs.all test)

/-- Calls a method of a text. -/
def callText (name : String) (s : String) (a : Arguments) : Except Fault Value := do
  let cs := s.toList
  let callee := "str." ++ name
  let plain (v : Value) : Except Fault Value := do
    a.empty callee
    return v
  match name with
  | "upper" => plain (.str (Text.upper s))
  | "lower" => plain (.str (Text.lower s))
  | "title" => plain (.str (Text.title s))
  | "capitalize" => plain (.str (Text.capitalize s))
  | "casefold" => plain (.str (Text.casefold s))
  | "swapcase" => plain (.str (Text.swapCase s))
  | "isalnum" => plain (allChars Text.isLetterOrNumeric cs)
  | "isalpha" => plain (allChars Text.isLetter cs)
  | "isascii" => plain (.bool (cs.all Text.isAscii))
  | "isdecimal" => plain (allChars Text.isDecimal cs)
  | "isdigit" => plain (allChars Text.isDigitLike cs)
  | "isnumeric" => plain (allChars Text.isNumeric cs)
  | "isspace" => plain (allChars Text.isSpace cs)
  | "isprintable" => plain (.bool (cs.all Text.isPrintable))
  | "isidentifier" => plain (.bool (match cs with
      | [] => false
      | c :: rest => Text.isNameStart c && rest.all Text.isNameContinue))
  | "islower" => plain (.bool (cs.any Text.isLowercase && cs.all fun c => !(Text.isUppercase c || Text.isTitlecase c)))
  | "isupper" => plain (.bool (cs.any Text.isUppercase && cs.all fun c => !(Text.isLowercase c || Text.isTitlecase c)))
  | "istitle" => plain (.bool (isTitle false false cs))
  | "strip" => trimCall name true true a cs
  | "lstrip" => trimCall name true false a cs
  | "rstrip" => trimCall name false true a cs
  | "find" | "rfind" | "index" | "rindex" =>
    let (part, start, stop) ← searchArguments name a cs
    let found? := if name.startsWith "r" then findLast part cs start stop else findFrom part cs start stop
    match found? with
    | some i => return .int i
    | none => if name.endsWith "index" then throw .substringMissing else return .int (-1)
  | "count" =>
    let (part, start, stop) ← searchArguments name a cs
    if stop < start then return .int 0
    else
      let area := (cs.drop start).take (stop - start)
      if part.isEmpty then return .int (area.length + 1)
      else return .int ((splitAt part (area.length + 1) [] (area.length + 1) area).length - 1 : Nat)
  | "startswith" => affixTest name false a cs
  | "endswith" => affixTest name true a cs
  | "replace" =>
    let xs ← a.between callee name 2 3
    let old ← match xs.getD 0 .null with
      | .str s => pure s.toList
      | v => throw (.argumentType name "1" "str" (givenType v))
    let new ← match xs.getD 1 .null with
      | .str s => pure s.toList
      | v => throw (.argumentType name "2" "str" (givenType v))
    let limit ← match (xs[2]? : Option Value) with
      | some v => indexArgument v
      | none => pure (-1)
    return textValue (replace old new limit cs)
  | "split" =>
    let (sep?, limit) ← splitArguments name a
    return .list ((split sep? limit cs).map textValue)
  | "rsplit" =>
    let (sep?, limit) ← splitArguments name a
    return .list ((splitRight sep? limit cs).map textValue)
  | "splitlines" =>
    let xs ← a.named name ["keepends"]
    let keep ← match xs.getD 0 none with
      | some v => do pure ((← indexArgument v) != 0)
      | none => pure false
    return .list ((Text.linesFrom keep [] cs).map textValue)
  | "join" => join cs (← a.one callee)
  | "partition" => partition false cs (← textArgument (← a.one callee))
  | "rpartition" => partition true cs (← textArgument (← a.one callee))
  | "removeprefix" =>
    match ← a.one callee with
    | .str p => return textValue (if p.toList.isPrefixOf cs then cs.drop p.length else cs)
    | v => throw (.typeRule (name ++ "() argument must be str, not " ++ givenType v))
  | "removesuffix" =>
    match ← a.one callee with
    | .str p => return textValue (if p.toList.isSuffixOf cs then cs.take (cs.length - p.length) else cs)
    | v => throw (.typeRule (name ++ "() argument must be str, not " ++ givenType v))
  | "zfill" => return textValue (zeroFill (← indexArgument (← a.one callee)) cs)
  | "center" =>
    let (width, fill) ← padArguments name a
    return textValue (center width fill cs)
  | "ljust" =>
    let (width, fill) ← padArguments name a
    return textValue (cs ++ List.replicate (width.toNat - cs.length) fill)
  | "rjust" =>
    let (width, fill) ← padArguments name a
    return textValue (List.replicate (width.toNat - cs.length) fill ++ cs)
  | "expandtabs" =>
    let xs ← a.named name ["tabsize"]
    let size ← match xs.getD 0 none with
      | some v => indexArgument v
      | none => pure 8
    return textValue (expandTabs size 0 cs)
  | "encode" =>
    let xs ← a.named name ["encoding", "errors"]
    let (c, policy) ← codecArguments name (xs.getD 0 none) (xs.getD 1 none)
    return .bytes (← c.encode policy cs)
  | "translate" =>
    let table ← a.one callee
    let parts ← cs.mapM (translateChar table)
    return textValue parts.flatten
  | _ => throw (.noAttribute "str" name)

end Workflow.Expr
