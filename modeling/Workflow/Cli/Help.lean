import Workflow.Cli.Form

/-!
# Workflow.Cli.Help

What a form says about itself, laid out for a width of 78 columns.

The usage names the options and then the operand; where it does not fit on a
line, options and operand are wrapped below the program.  The tables give each
operand and option with its help, which begins in a column that all rows share.
-/

namespace Workflow.Cli

/-- The columns of a line. -/
def lineWidth : Nat := 78

/-- The greatest column at which help begins. -/
def maxHelpColumn : Nat := 24

/-- Words joined into lines of a width, as many to a line as fit. -/
def fill (width : Nat) (line : String) : List String → List String
  | [] => [line]
  | w :: ws =>
    let longer := line ++ " " ++ w
    if longer.length ≤ width then fill width longer ws else line :: fill width w ws

/-- The lines of some words. -/
def filled (width : Nat) : List String → List String
  | [] => []
  | w :: ws => fill width w ws

/-- A text of blanks. -/
def blanks (n : Nat) : String := "".pushn ' ' n

/-- Lines as a text. -/
def joinLines (ls : List String) : String := String.join (ls.map fun l => l ++ "\n")

/-! ## Usage -/

/-- A name with what its value is called. -/
def Flag.call (g : Flag) (name : String) : String :=
  match g.value with
  | some v => name ++ " " ++ v
  | none => name

/-- An option in a usage. -/
def Flag.usage (g : Flag) : String := "[" ++ g.call (g.names.headD "") ++ "]"

/-- Names to choose from. -/
def choiceText (commands : List (String × String)) : String :=
  "\x7b" ++ ",".intercalate (commands.map (·.1)) ++ "\x7d"

/-- An operand in a usage. -/
def Operand.usage : Operand → List String
  | .text name _ => [name]
  | .command _ commands => [choiceText commands, "..."]

/-- The usage of a form. -/
def Form.usage (f : Form) : String :=
  let start := "usage: " ++ f.program
  let flags := f.flags.map Flag.usage
  let line := " ".intercalate (start :: flags ++ f.operand.usage)
  if line.length ≤ lineWidth then line ++ "\n"
  else
    let indent := start.length + 1
    let below := (filled (lineWidth - indent) flags ++ filled (lineWidth - indent) f.operand.usage).map (blanks indent ++ ·)
    match below with
    | [] => start ++ "\n"
    | first :: rest => joinLines ((start ++ (first.drop (indent - 1)).toString) :: rest)

/-! ## Tables -/

/-- A row of a table: how deep it stands, what it is about, and its help. -/
structure HelpRow where
  indent : Nat
  head : String
  help : String
deriving Inhabited

/-- The row of an option. -/
def Flag.row (g : Flag) : HelpRow := ⟨2, ", ".intercalate (g.names.map g.call), g.help⟩

/-- The rows of an operand. -/
def Operand.rows : Operand → List HelpRow
  | .text name help => [⟨2, name, help⟩]
  | .command _ commands => ⟨2, choiceText commands, ""⟩ :: commands.map fun (name, help) => ⟨4, name, help⟩

/-- A row, with its help at a column. -/
def HelpRow.lines (column : Nat) (r : HelpRow) : List String :=
  let head := blanks r.indent ++ r.head
  match filled (lineWidth - column) ((r.help.splitOn " ").filter fun w => !w.isEmpty) with
  | [] => [head]
  | first :: rest =>
    let rest := rest.map (blanks column ++ ·)
    if head.length + 2 ≤ column then (head ++ blanks (column - head.length) ++ first) :: rest
    else head :: (blanks column ++ first) :: rest

/-- The help of a form. -/
def Form.help (f : Form) : String :=
  let operands := f.operand.rows
  let options := f.flags.map Flag.row
  let widest := (operands ++ options).foldl (fun n r => max n (r.head.length + 2)) 0
  let column := min (widest + 2) maxHelpColumn
  let table (title : String) (rows : List HelpRow) : String :=
    "\n" ++ title ++ ":\n" ++ joinLines (rows.flatMap fun r => r.lines column)
  let description := match f.description with
    | some d => "\n" ++ d ++ "\n"
    | none => ""
  f.usage ++ description ++ table "positional arguments" operands ++ table "options" options

/-- What is said of a mistake. -/
def Form.complaint (f : Form) (m : Mistake) : String :=
  f.usage ++ f.program ++ ": error: " ++ m.message ++ "\n"

end Workflow.Cli
