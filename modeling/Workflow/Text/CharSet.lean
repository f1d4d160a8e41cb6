/-!
# Workflow.Text.CharSet

Sets of characters as sorted tables of code point ranges.

A table is written as text — hexadecimal code points and ranges separated by
blanks, `41-5a 61-7a aa` — and read once.  Membership is a binary search, and
`CharMap` gives a character map in the same style: runs of code points that
all move by one distance.
-/

namespace Workflow.Text

/-! ## Reading tables -/

/-- The value of a hexadecimal digit. -/
def hexDigit? (c : Char) : Option Nat :=
  if '0' ≤ c ∧ c ≤ '9' then some (c.toNat - '0'.toNat)
  else if 'a' ≤ c ∧ c ≤ 'f' then some (c.toNat - 'a'.toNat + 10)
  else if 'A' ≤ c ∧ c ≤ 'F' then some (c.toNat - 'A'.toNat + 10)
  else none

/-- The number written by hexadecimal digits; other characters are skipped. -/
def hexValue (cs : List Char) : Nat :=
  cs.foldl (fun n c => match hexDigit? c with | some d => n * 16 + d | none => n) 0

/-- The pieces of a character list between occurrences of separators, empty
pieces left out. -/
def pieces (isSeparator : Char → Bool) (cs : List Char) : List (List Char) :=
  let step (c : Char) (acc : List Char × List (List Char)) : List Char × List (List Char) :=
    if isSeparator c then ([], if acc.1.isEmpty then acc.2 else acc.1 :: acc.2) else (c :: acc.1, acc.2)
  let (last, rest) := cs.foldr step ([], [])
  if last.isEmpty then rest else last :: rest

/-- The blank-separated words of a table. -/
def tableWords (text : String) : List (List Char) :=
  pieces (fun c => c = ' ' || c = '\n') text.toList

/-- A code point range written `41-5a` or `aa`. -/
def readRange (word : List Char) : Nat × Nat :=
  match pieces (· = '-') word with
  | [a, b] => (hexValue a, hexValue b)
  | [a] => (hexValue a, hexValue a)
  | _ => (1, 0)

/-! ## Sets -/

/-- A set of code points: sorted, disjoint, inclusive ranges. -/
structure CharSet where
  ranges : Array (Nat × Nat)

/-- The last index below `high` whose range starts at or before `n`, searched
from `low`. -/
def CharSet.search (ranges : Array (Nat × Nat)) (n low high : Nat) : Nat :=
  if low + 1 < high then
    let mid := (low + high) / 2
    match ranges[mid]? with
    | some (a, _) => if a ≤ n then search ranges n mid high else search ranges n low mid
    | none => low
  else low
termination_by high - low

/-- Reads a table. -/
def CharSet.ofTable (text : String) : CharSet :=
  ⟨((tableWords text).map readRange).toArray⟩

/-- Is the character in the set? -/
def CharSet.contains (s : CharSet) (c : Char) : Bool :=
  match s.ranges[CharSet.search s.ranges c.toNat 0 s.ranges.size]? with
  | some (a, b) => decide (a ≤ c.toNat ∧ c.toNat ≤ b)
  | none => false

/-- The distance of the character from the start of its range. -/
def CharSet.offset? (s : CharSet) (c : Char) : Option Nat :=
  match s.ranges[CharSet.search s.ranges c.toNat 0 s.ranges.size]? with
  | some (a, b) => if a ≤ c.toNat ∧ c.toNat ≤ b then some (c.toNat - a) else none
  | none => none

/-! ## Maps -/

/-- A map of single characters: code points `first, first + step, … last`
move by `distance`.  The runs are sorted by `first`. -/
structure CharMap where
  runs : Array (Nat × Nat × Nat × Int)
  expansions : List (Nat × List Char)

/-- A run written `61-7a:-20`, with a step of two as `101-12f/2:-1`. -/
def CharMap.readRun (word : List Char) : Nat × Nat × Nat × Int :=
  match pieces (· = ':') word with
  | [range, distance] =>
    let (range, step) := match pieces (· = '/') range with
      | [range, step] => (range, hexValue step)
      | _ => (range, 1)
    let (a, b) := readRange range
    let d : Int := hexValue distance
    (a, b, step, if distance.head? = some '-' then -d else d)
  | _ => (1, 0, 1, 0)

/-- An expansion written `df:53.53`. -/
def CharMap.readExpansion (word : List Char) : Nat × List Char :=
  match pieces (· = ':') word with
  | [source, target] => (hexValue source, (pieces (· = '.') target).map fun w => Char.ofNat (hexValue w))
  | _ => (0, [])

/-- Reads a table of runs and a table of expansions. -/
def CharMap.ofTables (runs expansions : String) : CharMap :=
  ⟨((tableWords runs).map CharMap.readRun).toArray, (tableWords expansions).map CharMap.readExpansion⟩

/-- The last index whose run starts at or before `n`. -/
def CharMap.search (runs : Array (Nat × Nat × Nat × Int)) (n low high : Nat) : Nat :=
  if low + 1 < high then
    let mid := (low + high) / 2
    match runs[mid]? with
    | some (a, _) => if a ≤ n then search runs n mid high else search runs n low mid
    | none => low
  else low
termination_by high - low

/-- The image of a character; a character outside the table stays. -/
def CharMap.apply (m : CharMap) (c : Char) : List Char :=
  match m.expansions.lookup c.toNat with
  | some cs => cs
  | none =>
    -- runs of step two interleave, so the two runs before are looked at as well
    let i := CharMap.search m.runs c.toNat 0 m.runs.size
    let hit (j : Nat) : Option Char :=
      match m.runs[j]? with
      | some (a, b, step, d) =>
        if a ≤ c.toNat ∧ c.toNat ≤ b ∧ (c.toNat - a) % step = 0 then
          some (Char.ofNat ((c.toNat : Int) + d).toNat)
        else none
      | none => none
    match hit i with
    | some t => [t]
    | none => match hit (i - 1) with
      | some t => [t]
      | none => [c]

end Workflow.Text
