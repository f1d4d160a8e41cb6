/-!
# Workflow.Text.Lines

Division of text into lines at every boundary that ends a line: line feed,
return, the pair of both, vertical tab, form feed, the separators `1c`–`1e`,
next line, line separator and paragraph separator.
-/

namespace Workflow.Text

/-- Does the character end a line? -/
def isLineEnd (c : Char) : Bool :=
  let n := c.toNat
  decide (10 ≤ n ∧ n ≤ 13) || decide (0x1c ≤ n ∧ n ≤ 0x1e) || n = 0x85 || n = 0x2028 || n = 0x2029

/-- The lines of a text.  `line` holds the current line so far, backwards; a
text that ends in a boundary has no empty last line. -/
def linesFrom (keepEnds : Bool) (line : List Char) : List Char → List (List Char)
  | [] => if line.isEmpty then [] else [line.reverse]
  | '\r' :: '\n' :: rest =>
    (line.reverse ++ if keepEnds then ['\r', '\n'] else []) :: linesFrom keepEnds [] rest
  | c :: rest =>
    if isLineEnd c then (line.reverse ++ if keepEnds then [c] else []) :: linesFrom keepEnds [] rest
    else linesFrom keepEnds (c :: line) rest

/-- The lines of a text without their ends. -/
def lines (s : String) : List String := (linesFrom false [] s.toList).map String.ofList

/-- The part of a text that is certain to consist of whole lines: a return at
the end may still be followed by a line feed. -/
def wholeLines (s : String) : String :=
  let cs := s.toList.reverse
  let cs := match cs with
    | '\r' :: rest => rest
    | cs => cs
  String.ofList (cs.dropWhile fun c => !isLineEnd c).reverse

/-- Keeping the ends, nothing is lost. -/
theorem flatten_linesFrom_true (line cs : List Char) :
    (linesFrom true line cs).flatten = line.reverse ++ cs := by
  fun_induction linesFrom true line cs with
  | case1 line h => simp_all
  | case2 line h => simp
  | case3 line rest ih => simp_all
  | case4 line c rest _ h ih => simp_all
  | case5 line c rest _ h ih => simp_all

end Workflow.Text
