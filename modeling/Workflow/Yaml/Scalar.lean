import Workflow.Text.CharSet
import Workflow.Yaml.Cursor

/-!
# Workflow.Yaml.Scalar

The four ways in which a scalar is written: in single quotes, in double quotes
with escapes, as a block of lines, or plainly.

Within a scalar a single line break is a blank, and every further one stands
for itself; only a block may keep its lines as they are.
-/

namespace Workflow.Yaml
namespace Cursor

/-! ## Quotes -/

/-- The line breaks that follow, with the blanks before each of them left out. -/
def quotedBreaks (c : Cursor) : Nat → Except Flaw (List Char × Cursor)
  | 0 => .ok ([], c)
  | fuel + 1 =>
    if c.atSeparator then .error .separatorInQuote
    else
      let c := c.skipWhile fun ch => ch = ' ' || ch = '\t'
      match c.lineBreak with
      | ([], c) => .ok ([], c)
      | (br, c) => do
        let (more, c) ← c.quotedBreaks fuel
        return (br ++ more, c)

/-- What line breaks in a scalar stand for. -/
def folded (first more : List Char) : List Char :=
  if first != ['\n'] then first ++ more else if more.isEmpty then [' '] else more

/-- The blanks that follow inside quotes. -/
def quotedBlanks (c : Cursor) : Except Flaw (List Char × Cursor) :=
  let (blanks, c) := c.takeWhile fun ch => ch = ' ' || ch = '\t'
  match c.peek with
  | none => .error .openQuote
  | some ch =>
    if isBreak ch then do
      let (br, c) := c.lineBreak
      let (more, c) ← c.quotedBreaks (c.rest.length + 1)
      return (folded br more, c)
    else .ok (blanks, c)

/-- The character that a short escape stands for. -/
def shortEscape? : Char → Option Char
  | '0' => some '\x00'
  | 'a' => some '\x07'
  | 'b' => some '\x08'
  | 't' => some '\t'
  | '\t' => some '\t'
  | 'n' => some '\n'
  | 'v' => some '\x0b'
  | 'f' => some '\x0c'
  | 'r' => some '\r'
  | 'e' => some '\x1b'
  | ' ' => some ' '
  | '"' => some '"'
  | '\\' => some '\\'
  | '/' => some '/'
  | 'N' => some '\x85'
  | '_' => some '\xa0'
  | 'L' => some '\u2028'
  | 'P' => some '\u2029'
  | _ => none

/-- The number of digits that the escape of a code has. -/
def escapeLength? : Char → Option Nat
  | 'x' => some 2
  | 'u' => some 4
  | 'U' => some 8
  | _ => none

/-- Reads what follows a backslash. -/
def readEscape (c : Cursor) : Except Flaw (List Char × Cursor) :=
  match c.peek with
  | none => .error .escape
  | some ch => match shortEscape? ch, escapeLength? ch with
    | some e, _ => .ok ([e], c.next)
    | none, some n =>
      let ds := (c.rest.drop 1).take n
      if ds.length = n && ds.all fun d => (Text.hexDigit? d).isSome then
        .ok ([Char.ofNat (Text.hexValue ds)], c.forward (n + 1))
      else .error .escape
    | none, none =>
      if isBreak ch then
        let (_, c) := c.lineBreak
        c.quotedBreaks (c.rest.length + 1)
      else .error .escape

/-- Does the character interrupt a run of text inside quotes? -/
def interruptsQuote (ch : Char) : Bool :=
  ch = '\'' || ch = '"' || ch = '\\' || ch = ' ' || ch = '\t' || isBreak ch

/-- The text that follows inside quotes, up to a blank or the closing quote. -/
def quotedText (double : Bool) (c : Cursor) : Nat → Except Flaw (List Char × Cursor)
  | 0 => .ok ([], c)
  | fuel + 1 => do
    let (cs, c) := c.takeWhile fun ch => !interruptsQuote ch
    let goOn (part : List Char) (c : Cursor) : Except Flaw (List Char × Cursor) := do
      let (more, c) ← c.quotedText double fuel
      return (cs ++ part ++ more, c)
    match double, c.rest with
    | false, '\'' :: '\'' :: _ => goOn ['\''] (c.forward 2)
    | true, '\'' :: _ => goOn ['\''] c.next
    | false, '"' :: _ => goOn ['"'] c.next
    | false, '\\' :: _ => goOn ['\\'] c.next
    | true, '\\' :: _ =>
      let (part, c) ← c.next.readEscape
      goOn part c
    | _, _ => return (cs, c)

/-- The rest of a scalar in quotes. -/
def quotedRest (double : Bool) (c : Cursor) : Nat → Except Flaw (List Char × Cursor)
  | 0 => .error .openQuote
  | fuel + 1 => do
    if c.isAt (if double then '"' else '\'') then return ([], c.next)
    let (blanks, c) ← c.quotedBlanks
    let (text, c) ← c.quotedText double (c.rest.length + 1)
    let (more, c) ← c.quotedRest double fuel
    return (blanks ++ text ++ more, c)

/-- Reads a scalar in quotes, at its opening quote. -/
def quotedScalar (double : Bool) (c : Cursor) : Except Flaw (String × Cursor) := do
  let (text, c) ← c.next.quotedText double (c.rest.length + 1)
  let (more, c) ← c.quotedRest double (c.rest.length + 2)
  return (String.ofList (text ++ more), c)

/-! ## Plain scalars -/

/-- Does a plain scalar end before this character?  Within brackets it does so
in more cases. -/
def endsPlain (inFlow : Bool) (c : Cursor) : Bool :=
  match c.peek with
  | none => true
  | some ch =>
    let isBracket (ch : Char) : Bool := [',', '[', ']', '\x7b', '\x7d'].contains ch
    ch = ' ' || ch = '\t' || isBreak ch
      || (ch = ':' && (isGap (c.peekAt 1) || (inFlow && (c.peekAt 1).any isBracket)))
      || (inFlow && (ch = '?' || isBracket ch))

/-- The word that begins here. -/
def plainWord (inFlow : Bool) (c : Cursor) : Nat → List Char × Cursor
  | 0 => ([], c)
  | fuel + 1 => match c.rest with
    | [] => ([], c)
    | ch :: _ =>
      if c.endsPlain inFlow then ([], c)
      else
        let (more, c) := c.next.plainWord inFlow fuel
        (ch :: more, c)

/-- The line breaks and blanks that follow a line break; nothing where a
separator of documents is met. -/
def plainBreaks (c : Cursor) : Nat → Option (List Char) × Cursor
  | 0 => (some [], c)
  | fuel + 1 =>
    if c.isAt ' ' then c.next.plainBreaks fuel
    else match c.lineBreak with
      | ([], c) => (some [], c)
      | (br, c) =>
        if c.atSeparator then (none, c)
        else
          let (more, c) := c.plainBreaks fuel
          (more.map (br ++ ·), c)

/-- What is between two words of a plain scalar. -/
structure PlainGap where
  /-- What it stands for; nothing where the scalar cannot go on. -/
  text : List Char
  /-- Is there a line break in it? -/
  broken : Bool
  after : Cursor

/-- Reads what follows a word of a plain scalar. -/
def plainGap (c : Cursor) : PlainGap :=
  let (blanks, c) := c.takeWhile (· == ' ')
  match c.lineBreak with
  | ([], c) => ⟨blanks, false, c⟩
  | (br, c) =>
    if c.atSeparator then ⟨[], true, c⟩
    else match c.plainBreaks (c.rest.length + 1) with
      | (some more, c) => ⟨folded br more, true, c⟩
      | (none, c) => ⟨[], true, c⟩

/-- A plain scalar as far as it has been read. -/
structure PlainText where
  text : List Char
  /-- Did it end behind a line break? -/
  broken : Bool
  after : Cursor

/-- Reads a plain scalar.  `gap` is what stands before the next word, and lines
that go on with it stand at column `indent` or further to the right. -/
def plainText (inFlow : Bool) (indent : Int) (gap : List Char) (broken : Bool) (c : Cursor) :
    Nat → PlainText
  | 0 => ⟨[], broken, c⟩
  | fuel + 1 =>
    if c.isAt '#' then ⟨[], broken, c⟩
    else match c.plainWord inFlow (c.rest.length + 1) with
      | ([], c) => ⟨[], broken, c⟩
      | (word, c) =>
        let g := c.plainGap
        if g.text.isEmpty || g.after.isAt '#' || (!inFlow && decide ((g.after.column : Int) < indent)) then
          ⟨gap ++ word, g.broken, g.after⟩
        else
          let more := g.after.plainText inFlow indent g.text g.broken fuel
          ⟨gap ++ word ++ more.text, more.broken, more.after⟩

/-! ## Blocks -/

/-- What becomes of the line breaks at the end of a block. -/
inductive Chomping where
  | clip | strip | keep
deriving DecidableEq, Inhabited

/-- The chomping that a mark asks for. -/
def chomping? : Char → Option Chomping
  | '+' => some .keep
  | '-' => some .strip
  | _ => none

/-- The indentation that a digit asks for, which cannot be none. -/
def readIncrement (c : Cursor) : Except Flaw (Option Nat × Cursor) :=
  match c.peek with
  | some ch =>
    if ch = '0' then .error .blockHeader
    else if ch.isDigit then .ok (some (ch.toNat - '0'.toNat), c.next)
    else .ok (none, c)
  | none => .ok (none, c)

/-- Reads the header of a block: chomping and indentation, in either order. -/
def blockHeader (c : Cursor) : Except Flaw (Chomping × Option Nat × Cursor) := do
  let (chomp, increment, c) ← (match c.peek.bind chomping? with
    | some chomp => do
      let (increment, c) ← c.next.readIncrement
      return (chomp, increment, c)
    | none => do
      match ← c.readIncrement with
      | (some n, c) => match c.peek.bind chomping? with
        | some chomp => return (chomp, some n, c.next)
        | none => return (Chomping.clip, some n, c)
      | (none, c) => return (Chomping.clip, none, c)
    : Except Flaw (Chomping × Option Nat × Cursor))
  if !endsWord c.peek then throw .blockHeader
  return (chomp, increment, ← c.endLine .blockHeader)

/-- The line breaks with which a block begins, and the furthest column that
blanks lead to. -/
def blockIndentation (widest : Nat) (c : Cursor) : Nat → List Char × Nat × Cursor
  | 0 => ([], widest, c)
  | fuel + 1 =>
    if c.isAt ' ' then
      let c := c.next
      c.blockIndentation (max widest c.column) fuel
    else match c.lineBreak with
      | ([], c) => ([], widest, c)
      | (br, c) =>
        let (more, widest, c) := c.blockIndentation widest fuel
        (br ++ more, widest, c)

/-- The place after blanks, but not beyond a column. -/
def indentTo (column : Nat) (c : Cursor) : Cursor :=
  c.forward ((c.rest.takeWhile (· == ' ')).length.min (column - c.column))

/-- The empty lines that follow in a block. -/
def blockBreaks (indent : Nat) (c : Cursor) : Nat → List Char × Cursor
  | 0 => ([], c)
  | fuel + 1 =>
    let c := c.indentTo indent
    match c.lineBreak with
    | ([], c) => ([], c)
    | (br, c) =>
      let (more, c) := c.blockBreaks indent fuel
      (br ++ more, c)

/-- The lines of a block as far as they have been read: their text, the break
after the last line and the breaks of the empty lines behind it. -/
structure BlockText where
  text : List Char
  lastBreak : List Char
  breaks : List Char
  after : Cursor

/-- Is the line indented as a line of the block has to be? -/
def inBlock (indent : Nat) (c : Cursor) : Bool := c.column = indent && !c.rest.isEmpty

/-- Does the line begin with text that can be folded? -/
def beginsWithText (c : Cursor) : Bool := !(c.isAt ' ' || c.isAt '\t')

/-- Reads the lines of a block; `breaks` are those of the empty lines so far. -/
def blockLines (fold : Bool) (indent : Nat) (breaks : List Char) (c : Cursor) : Nat → BlockText
  | 0 => ⟨[], [], breaks, c⟩
  | fuel + 1 =>
    if !c.inBlock indent then ⟨[], [], breaks, c⟩
    else
      let leading := c.beginsWithText
      let (line, c) := c.takeWhile fun ch => !isBreak ch
      let (br, c) := c.lineBreak
      let (empty, c) := c.blockBreaks indent (c.rest.length + 1)
      if !c.inBlock indent then ⟨breaks ++ line, br, empty, c⟩
      else
        let joint := if fold && br == ['\n'] && leading && c.beginsWithText then
            (if empty.isEmpty then [' '] else [])
          else br
        let more := c.blockLines fold indent empty fuel
        ⟨breaks ++ line ++ joint ++ more.text, more.lastBreak, more.breaks, more.after⟩

/-- Reads a block, at its mark; `outer` is the indentation around it. -/
def blockScalar (fold : Bool) (outer : Int) (c : Cursor) : Except Flaw (String × Cursor) := do
  let (chomp, increment, c) ← c.next.blockHeader
  let least := (outer + 1).toNat.max 1
  let fuel := c.rest.length + 1
  let (breaks, indent, c) : List Char × Nat × Cursor := match increment with
    | none =>
      let (breaks, widest, c) := c.blockIndentation 0 fuel
      (breaks, least.max widest, c)
    | some n =>
      let (breaks, c) := c.blockBreaks (least + n - 1) fuel
      (breaks, least + n - 1, c)
  let b := c.blockLines fold indent breaks fuel
  let tail := match chomp with
    | .strip => []
    | .clip => b.lastBreak
    | .keep => b.lastBreak ++ b.breaks
  return (String.ofList (b.text ++ tail), b.after)

end Cursor
end Workflow.Yaml
