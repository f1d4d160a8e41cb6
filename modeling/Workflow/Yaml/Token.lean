import Workflow.Yaml.Scalar

/-!
# Workflow.Yaml.Token

The tokens of a YAML text.

1. Indentation opens and closes collections: a column further to the right
   than the collection around it begins a new one, and a column further to the
   left ends all those that stand to the right of it.
2. A colon makes a key of what stands before it on the same line.  A
   `Candidate` is what could still become a key: where it stands among the
   tokens, and in the text.  The tokens that mark it as a key are put in front
   of it once the colon is met.
3. Inside brackets indentation does not matter.
-/

namespace Workflow.Yaml

/-! ## Tokens -/

/-- A token.  The end of the text has none. -/
inductive Token where
  | version (major : Nat)
  | tagHandle (handle meaning : String)
  | otherDirective
  | documentStart
  | documentEnd
  | sequenceStart
  | mappingStart
  | blockEnd
  | openBracket
  | closeBracket
  | openBrace
  | closeBrace
  | entry
  | comma
  | key
  | value
  | anchor (name : String)
  | reference (name : String)
  | tag (handle : Option String) (suffix : String)
  | scalar (text : String) (plain : Bool)
deriving DecidableEq, Inhabited

/-! ## Names and tags -/

namespace Cursor

/-- Reads the name of an anchor, at its mark. -/
def anchorName (c : Cursor) : Except Flaw (String × Cursor) :=
  let (name, c) := c.next.takeWhile isNameText
  let endsName : Bool := c.peek.all fun ch =>
    ch = ' ' || ch = '\t' || isBreak ch || ['?', ':', ',', ']', '\x7d', '%', '@', '\x60'].contains ch
  if name.isEmpty || !endsName then .error .name else .ok (String.ofList name, c)

/-- Can the character stand in a tag as it is? -/
def isUriText (ch : Char) : Bool :=
  ch.isAlphanum || ['-', ';', '/', '?', ':', '@', '&', '=', '+', '$', ',', '_', '.', '!', '~', '*', '\'', '(', ')',
    '[', ']'].contains ch

/-- Reads the bytes of percent escapes. -/
def uriBytes (c : Cursor) : Nat → Except Flaw (List UInt8 × Cursor)
  | 0 => .ok ([], c)
  | fuel + 1 => match c.rest with
    | '%' :: a :: b :: _ => match Text.hexDigit? a, Text.hexDigit? b with
      | some x, some y => do
        let (more, c) ← (c.forward 3).uriBytes fuel
        return (UInt8.ofNat (x * 16 + y) :: more, c)
      | _, _ => .error .tag
    | '%' :: _ => .error .tag
    | _ => .ok ([], c)

/-- Reads a part of a tag. -/
def uri (c : Cursor) : Nat → Except Flaw (List Char × Cursor)
  | 0 => .ok ([], c)
  | fuel + 1 =>
    match c.takeWhile isUriText with
    | (cs, c) =>
      if c.isAt '%' then do
        let (bytes, c) ← c.uriBytes (c.rest.length + 1)
        match String.fromUTF8? ⟨bytes.toArray⟩ with
        | none => throw .tag
        | some s =>
          let (more, c) ← c.uri fuel
          return (cs ++ s.toList ++ more, c)
      else .ok (cs, c)

/-- Reads a part of a tag that is not empty. -/
def someUri (c : Cursor) : Except Flaw (String × Cursor) := do
  let (cs, c) ← c.uri (c.rest.length + 1)
  if cs.isEmpty then throw .tag
  return (String.ofList cs, c)

/-- Reads the handle of a tag: `!`, `!!` or a name between two of them. -/
def tagHandle (c : Cursor) : Except Flaw (String × Cursor) :=
  if !c.isAt '!' then .error .tag
  else
    let (name, after) := c.next.takeWhile isNameText
    if name.isEmpty && (after.isAt ' ' ) then .ok ("!", after)
    else if after.isAt '!' then .ok (String.ofList ('!' :: name ++ ['!']), after.next)
    else .error .tag

/-- Reads a tag. -/
def tag (c : Cursor) : Except Flaw (Token × Cursor) := do
  let (token, c) ← (match c.rest with
    | '!' :: '<' :: _ => do
      let (suffix, c) ← (c.forward 2).someUri
      if c.isAt '>' then return (Token.tag none suffix, c.next) else throw .tag
    | _ =>
      if isGap (c.peekAt 1) then return (Token.tag none "!", c.next)
      else
        let word := c.next.rest.takeWhile fun ch => ch != ' ' && !isBreak ch
        if word.contains '!' then do
          let (handle, c) ← c.tagHandle
          let (suffix, c) ← c.someUri
          return (Token.tag (some handle) suffix, c)
        else do
          let (suffix, c) ← c.next.someUri
          return (Token.tag (some "!") suffix, c)
    : Except Flaw (Token × Cursor))
  if endsWord c.peek then return (token, c) else throw .tag

/-! ## Directives -/

/-- Reads a number in a directive. -/
def directiveNumber (c : Cursor) : Except Flaw (Nat × Cursor) :=
  match c.takeWhile Char.isDigit with
  | ([], _) => .error .directive
  | (ds, c) => .ok (ds.foldl (fun n d => n * 10 + (d.toNat - '0'.toNat)) 0, c)

/-- Reads a directive, at its mark. -/
def directive (c : Cursor) : Except Flaw (Token × Cursor) := do
  let (name, c) := c.next.takeWhile isNameText
  if name.isEmpty || !endsWord c.peek then throw .directive
  let (token, c) ← (match String.ofList name with
    | "YAML" => do
      let (major, c) ← c.skipBlanks.directiveNumber
      if !c.isAt '.' then throw .directive
      let (_, c) ← c.next.directiveNumber
      if !endsWord c.peek then throw .directive
      return (Token.version major, c)
    | "TAG" => do
      let (handle, c) ← c.skipBlanks.tagHandle
      if !c.isAt ' ' then throw .directive
      let (meaning, c) ← c.skipBlanks.someUri
      if !endsWord c.peek then throw .directive
      return (Token.tagHandle handle meaning, c)
    | _ => return (Token.otherDirective, c.skipWhile fun ch => !isBreak ch)
    : Except Flaw (Token × Cursor))
  return (token, ← c.endLine .directive)

end Cursor

/-! ## Scanners -/

/-- Something that becomes a key if a colon follows. -/
structure Candidate where
  /-- The number of tokens before it. -/
  place : Nat
  /-- Does it have to become a key? -/
  required : Bool
  index : Nat
  line : Nat
  column : Nat
deriving Inhabited

/-- The state of reading tokens. -/
structure Scanner where
  cursor : Cursor
  /-- How many brackets are open. -/
  depth : Nat
  /-- The column of the innermost collection, and those of the ones around it. -/
  indent : Int
  outer : List Int
  /-- Can a key begin here? -/
  allowsKey : Bool
  /-- The candidates, by the number of brackets open around them. -/
  candidates : List (Nat × Candidate)
  /-- The tokens so far, backwards. -/
  tokens : List Token
deriving Inhabited

namespace Scanner

/-- The scanner at the beginning of a text. -/
def start (s : String) : Scanner := ⟨Cursor.start s, 0, -1, [], true, [], []⟩

/-- Is this inside brackets? -/
def inFlow (s : Scanner) : Bool := 0 < s.depth

/-- Adds a token. -/
def add (s : Scanner) (t : Token) : Scanner := { s with tokens := t :: s.tokens }

/-- Adds a token and moves on by some characters. -/
def take (s : Scanner) (n : Nat) (t : Token) : Scanner := { s.add t with cursor := s.cursor.forward n }

/-- Puts tokens in front of the one at a place. -/
def insertAt (s : Scanner) (place : Nat) (ts : List Token) : Scanner :=
  let later := s.tokens.length - place
  { s with tokens := s.tokens.take later ++ ts.reverse ++ s.tokens.drop later }

/-! ### Candidates -/

/-- The candidate inside the innermost brackets. -/
def candidate? (s : Scanner) : Option Candidate := s.candidates.lookup s.depth

/-- Without the candidate inside the innermost brackets. -/
def withoutCandidate (s : Scanner) : Scanner :=
  { s with candidates := s.candidates.filter fun (d, _) => d != s.depth }

/-- Gives up the candidate inside the innermost brackets. -/
def dropCandidate (s : Scanner) : Except Flaw Scanner :=
  if s.candidate?.any (·.required) then .error .lostKey else .ok s.withoutCandidate

/-- Makes what follows a candidate, where a key is allowed. -/
def saveCandidate (s : Scanner) : Except Flaw Scanner := do
  if !s.allowsKey then return s
  let required := !s.inFlow && s.indent == s.cursor.column
  let s ← s.dropCandidate
  let new : Candidate := ⟨s.tokens.length, required, s.cursor.index, s.cursor.line, s.cursor.column⟩
  return { s with candidates := (s.depth, new) :: s.candidates }

/-- Gives up the candidates of other lines, and those too far away. -/
def dropStale (s : Scanner) : Except Flaw Scanner :=
  let isStale (c : Candidate) : Bool := c.line != s.cursor.line || decide (c.index + 1024 < s.cursor.index)
  if s.candidates.any fun (_, c) => isStale c && c.required then .error .lostKey
  else .ok { s with candidates := s.candidates.filter fun (_, c) => !isStale c }

/-! ### Indentation -/

/-- Ends the collections that stand to the right of a column. -/
def closeBeyond (column indent : Int) (tokens : List Token) : List Int → Int × List Int × List Token
  | [] => (indent, [], tokens)
  | i :: outer =>
    if column < indent then closeBeyond column i (.blockEnd :: tokens) outer else (indent, i :: outer, tokens)

/-- Ends the collections that stand to the right of a column, except inside brackets. -/
def unwind (s : Scanner) (column : Int) : Scanner :=
  if s.inFlow then s
  else
    let (indent, outer, tokens) := closeBeyond column s.indent s.tokens s.outer
    { s with indent, outer, tokens }

/-- Is a column to the right of the innermost collection? -/
def isDeeper (s : Scanner) (column : Int) : Bool := decide (s.indent < column)

/-- Begins a collection at a column. -/
def indentTo (s : Scanner) (column : Int) : Scanner := { s with indent := column, outer := s.indent :: s.outer }

/-! ### Tokens -/

/-- The place of the next token, comments and line breaks being skipped; a
line break outside of brackets makes room for a key. -/
def skipToToken (s : Scanner) : Nat → Scanner
  | 0 => s
  | fuel + 1 =>
    let c := s.cursor.skipBlanks.skipComment
    match c.lineBreak with
    | ([], _) => { s with cursor := c }
    | (_, c) => skipToToken { s with cursor := c, allowsKey := s.allowsKey || !s.inFlow } fuel

/-- Ends all collections before something that stands outside of them. -/
def leaveAll (s : Scanner) : Except Flaw Scanner := do
  let s ← (s.unwind (-1)).dropCandidate
  return { s with allowsKey := false }

/-- A token that may be a key. -/
def addPossibleKey (s : Scanner) (read : Cursor → Except Flaw (Token × Cursor)) : Except Flaw Scanner := do
  let s ← s.saveCandidate
  let (t, c) ← read s.cursor
  return { s.add t with allowsKey := false, cursor := c }

/-- An opening bracket. -/
def openFlow (s : Scanner) (t : Token) : Except Flaw Scanner := do
  let s ← s.saveCandidate
  return { s.take 1 t with depth := s.depth + 1, allowsKey := true }

/-- A closing bracket. -/
def closeFlow (s : Scanner) (t : Token) : Except Flaw Scanner := do
  let s ← s.dropCandidate
  return { s.take 1 t with depth := s.depth - 1, allowsKey := false }

/-- A comma. -/
def addComma (s : Scanner) : Except Flaw Scanner := do
  let s ← s.dropCandidate
  return { s.take 1 .comma with allowsKey := true }

/-- Begins a collection here, if this is to the right of the innermost one. -/
def beginHere (s : Scanner) (t : Token) : Scanner :=
  let column : Int := s.cursor.column
  if s.isDeeper column then (s.indentTo column).add t else s

/-- The dash of an entry. -/
def addEntry (s : Scanner) : Except Flaw Scanner := do
  if !s.inFlow && !s.allowsKey then throw .misplacedEntry
  let s := if s.inFlow then s else s.beginHere .sequenceStart
  let s ← s.dropCandidate
  return { s.take 1 .entry with allowsKey := true }

/-- The question mark of a key. -/
def addKey (s : Scanner) : Except Flaw Scanner := do
  if !s.inFlow && !s.allowsKey then throw .misplacedKey
  let s := if s.inFlow then s else s.beginHere .mappingStart
  let s ← s.dropCandidate
  return { s.take 1 .key with allowsKey := !s.inFlow }

/-- The colon of a value. -/
def addValue (s : Scanner) : Except Flaw Scanner :=
  match s.candidate? with
  | some k =>
    let s := s.withoutCandidate
    let s :=
      if !s.inFlow && s.isDeeper k.column then
        (s.indentTo k.column).insertAt k.place [.mappingStart, .key]
      else s.insertAt k.place [.key]
    .ok { s.take 1 .value with allowsKey := false }
  | none => do
    if !s.inFlow && !s.allowsKey then throw .misplacedValue
    let s := if s.inFlow then s else s.beginHere .mappingStart
    let s ← s.dropCandidate
    return { s.take 1 .value with allowsKey := !s.inFlow }

/-- A block of lines. -/
def addBlock (s : Scanner) (fold : Bool) : Except Flaw Scanner := do
  let s ← s.dropCandidate
  let (text, c) ← s.cursor.blockScalar fold s.indent
  return { s.add (.scalar text false) with allowsKey := true, cursor := c }

/-- A scalar in quotes. -/
def addQuoted (s : Scanner) (double : Bool) : Except Flaw Scanner :=
  s.addPossibleKey fun c => do
    let (text, c) ← c.quotedScalar double
    return (.scalar text false, c)

/-- A plain scalar. -/
def addPlain (s : Scanner) : Except Flaw Scanner := do
  let s ← s.saveCandidate
  let p := s.cursor.plainText s.inFlow (s.indent + 1) [] false (s.cursor.rest.length + 1)
  return { s.add (.scalar (String.ofList p.text) true) with allowsKey := p.broken, cursor := p.after }

/-- Can a plain scalar begin here? -/
def beginsPlain (s : Scanner) (ch : Char) : Bool :=
  let marks := ['-', '?', ':', ',', '[', ']', '\x7b', '\x7d', '#', '&', '*', '!', '|', '>', '\'', '"', '%', '@', '\x60']
  !(isGap (some ch) || marks.contains ch)
    || (!isGap (s.cursor.peekAt 1) && (ch = '-' || (!s.inFlow && (ch = '?' || ch = ':'))))

/-- The token that begins with a character; `followed` says that a gap follows. -/
def addToken (s : Scanner) (ch : Char) (followed : Bool) : Except Flaw Scanner :=
  if ch = '%' && s.cursor.column = 0 then do
    let s ← s.leaveAll
    let (t, c) ← s.cursor.directive
    return { s.add t with cursor := c }
  else if s.cursor.column = 0 && s.cursor.isSeparator '-' then do
    return (← s.leaveAll).take 3 .documentStart
  else if s.cursor.column = 0 && s.cursor.isSeparator '.' then do
    return (← s.leaveAll).take 3 .documentEnd
  else if ch = '[' then s.openFlow .openBracket
  else if ch = '\x7b' then s.openFlow .openBrace
  else if ch = ']' then s.closeFlow .closeBracket
  else if ch = '\x7d' then s.closeFlow .closeBrace
  else if ch = ',' then s.addComma
  else if ch = '-' && followed then s.addEntry
  else if ch = '?' && (s.inFlow || followed) then s.addKey
  else if ch = ':' && (s.inFlow || followed) then s.addValue
  else if ch = '*' then s.addPossibleKey fun c => c.anchorName.map fun (n, c) => (.reference n, c)
  else if ch = '&' then s.addPossibleKey fun c => c.anchorName.map fun (n, c) => (.anchor n, c)
  else if ch = '!' then s.addPossibleKey fun c => c.tag
  else if ch = '|' && !s.inFlow then s.addBlock false
  else if ch = '>' && !s.inFlow then s.addBlock true
  else if ch = '\'' then s.addQuoted false
  else if ch = '"' then s.addQuoted true
  else if s.beginsPlain ch then s.addPlain
  else .error .unknownToken

/-- Reads on to the end of the text. -/
def finish (s : Scanner) : Nat → Except Flaw Scanner
  | 0 => .ok s
  | fuel + 1 => do
    let s ← (s.skipToToken (s.cursor.rest.length + 1)).dropStale
    let s := s.unwind s.cursor.column
    match s.cursor.peek with
    | none => (s.unwind (-1)).dropCandidate
    | some ch =>
      let s ← s.addToken ch (isGap (s.cursor.peekAt 1))
      s.finish fuel

end Scanner

/-- The tokens of a text. -/
def tokens (text : String) : Except Flaw (List Token) := do
  let cs := text.toList
  if !cs.all isPrintable then throw .unprintable
  let s := Scanner.start text
  let s := if s.cursor.isAt '\ufeff' then { s with cursor := s.cursor.next } else s
  return (← s.finish (cs.length + 1)).tokens.reverse

end Workflow.Yaml
