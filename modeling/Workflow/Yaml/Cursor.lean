import Workflow.Value.Fault

/-!
# Workflow.Yaml.Cursor

Places in a YAML text, and what may be read at them.

A `Cursor` knows what is left of the text and where it stands: how many
characters, lines and columns came before.  Line breaks are read as line feeds,
except for the two separators of Unicode, which stay what they are.
-/

namespace Workflow.Yaml

/-- What is wrong with a YAML text. -/
inductive Flaw where
  | unprintable
  | unknownToken
  | lostKey
  | misplacedEntry
  | misplacedKey
  | misplacedValue
  | directive
  | name
  | tag
  | blockHeader
  | escape
  | openQuote
  | separatorInQuote
  | misplacedToken
  | unknownAlias
  | repeatedAnchor
  | manyDocuments
  | unknownTag
  | wrongShape
  | mergeShape
  | unhashableKey
  | encoding
deriving DecidableEq, Inhabited

/-- The wording of a flaw is the same for all. -/
def Flaw.message (_ : Flaw) : String := "<YAMLError>"

/-! ## Classes of characters -/

/-- Can the character occur in a text? -/
def isPrintable (c : Char) : Bool :=
  let n := c.toNat
  n = 9 || n = 10 || n = 13 || decide (0x20 ≤ n ∧ n ≤ 0x7e) || n = 0x85 || decide (0xa0 ≤ n ∧ n ≤ 0xd7ff)
    || decide (0xe000 ≤ n ∧ n ≤ 0xfffd) || decide (0x10000 ≤ n)

/-- Does the character break a line? -/
def isBreak (c : Char) : Bool := ['\n', '\r', '\x85', '\u2028', '\u2029'].contains c

/-- Is this the end of a line? -/
def endsLine (c : Option Char) : Bool := c.all isBreak

/-- Is this a blank, or the end of a line? -/
def endsWord (c : Option Char) : Bool := c.all fun c => c = ' ' || isBreak c

/-- Is this a blank, a tab, or the end of a line? -/
def isGap (c : Option Char) : Bool := c.all fun c => c = ' ' || c = '\t' || isBreak c

/-- Can the character be in a name? -/
def isNameText (c : Char) : Bool := c.isAlphanum || c = '-' || c = '_'

/-! ## Cursors -/

/-- A place in a text. -/
structure Cursor where
  rest : List Char
  index : Nat
  line : Nat
  column : Nat
deriving Inhabited

namespace Cursor

/-- The beginning of a text. -/
def start (s : String) : Cursor := ⟨s.toList, 0, 0, 0⟩

/-- The next character. -/
def peek (c : Cursor) : Option Char := c.rest.head?

/-- The character after `n` others. -/
def peekAt (c : Cursor) (n : Nat) : Option Char := c.rest[n]?

/-- Is this the next character? -/
def isAt (c : Cursor) (ch : Char) : Bool := c.peek = some ch

/-- The place after the next character. -/
def next (c : Cursor) : Cursor :=
  match c.rest with
  | [] => c
  | ch :: rest =>
    if isBreak ch && !(ch = '\r' && rest.head? = some '\n') then ⟨rest, c.index + 1, c.line + 1, 0⟩
    else ⟨rest, c.index + 1, c.line, if ch = '\ufeff' then c.column else c.column + 1⟩

/-- The place after `n` characters. -/
def forward (c : Cursor) : Nat → Cursor
  | 0 => c
  | n + 1 => forward c.next n

/-- The characters from here on for which the test holds, and the place after them. -/
def takeWhile (c : Cursor) (p : Char → Bool) : List Char × Cursor :=
  let cs := c.rest.takeWhile p
  (cs, c.forward cs.length)

/-- The place after the characters for which the test holds. -/
def skipWhile (c : Cursor) (p : Char → Bool) : Cursor := (c.takeWhile p).2

/-- The place after blanks. -/
def skipBlanks (c : Cursor) : Cursor := c.skipWhile (· == ' ')

/-- The place after a comment, if one begins here. -/
def skipComment (c : Cursor) : Cursor :=
  if c.isAt '#' then c.skipWhile fun ch => !isBreak ch else c

/-- Reads a line break, if there is one. -/
def lineBreak (c : Cursor) : List Char × Cursor :=
  match c.rest with
  | '\r' :: '\n' :: _ => (['\n'], c.forward 2)
  | ch :: _ =>
    if ch = '\r' || ch = '\n' || ch = '\x85' then (['\n'], c.next)
    else if isBreak ch then ([ch], c.next)
    else ([], c)
  | [] => ([], c)

/-- Is this one of the lines that separate documents? -/
def isSeparator (c : Cursor) (mark : Char) : Bool :=
  c.rest.take 3 == [mark, mark, mark] && isGap (c.peekAt 3)

/-- Is this a line that separates documents, in either form? -/
def atSeparator (c : Cursor) : Bool := c.isSeparator '-' || c.isSeparator '.'

/-- The place after the rest of a line, which may hold only blanks and a comment. -/
def endLine (flaw : Flaw) (c : Cursor) : Except Flaw Cursor :=
  let c := c.skipBlanks.skipComment
  if endsLine c.peek then .ok c.lineBreak.2 else .error flaw

end Cursor
end Workflow.Yaml
