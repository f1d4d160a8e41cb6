import Workflow.Text.Pair
import Workflow.Text.Properties
import Workflow.Text.Quoted

/-!
# Workflow.Cli.Form

The form of a command line, and how a line is read as one.

A form has options, which may stand anywhere, and one operand: either a text,
or the name of a command, which takes everything behind it.  An option is
called by one of its names, by the beginning of a long name that no other has,
or, for short names, together with others behind one dash.  Behind `--`
everything is an operand.
-/

namespace Workflow.Cli

/-! ## Forms -/

/-- An option. -/
structure Flag where
  names : List String
  /-- What its value is called, if it takes one. -/
  value : Option String
  help : String
deriving DecidableEq, Inhabited

/-- What a form takes besides options. -/
inductive Operand where
  /-- A text. -/
  | text (name help : String)
  /-- The name of one of several commands, and what that command takes. -/
  | command (name : String) (commands : List (String × String))
deriving DecidableEq, Inhabited

/-- The form of a command line. -/
structure Form where
  /-- The words that call the program. -/
  program : String
  description : Option String
  flags : List Flag
  operand : Operand
deriving DecidableEq, Inhabited

/-- The option that every form has. -/
def helpFlag : Flag := ⟨["-h", "--help"], none, "show this help message and exit"⟩

/-- Why a line does not have a form. -/
inductive Mistake where
  | ambiguous (word : String) (names : List String)
  | withoutValue (flag : Flag)
  | needlessValue (flag : Flag) (value : String)
  | noOperand (name : String)
  | unknownCommand (name word : String) (known : List String)
  | unrecognized (words : List String)
deriving DecidableEq, Inhabited

/-- The wording of a mistake. -/
def Mistake.message : Mistake → String
  | .ambiguous word names => "ambiguous option: " ++ word ++ " could match " ++ ", ".intercalate names
  | .withoutValue f => "argument " ++ "/".intercalate f.names ++ ": expected one argument"
  | .needlessValue f v => "argument " ++ "/".intercalate f.names ++ ": ignored explicit argument " ++ Text.quoted v
  | .noOperand name => "the following arguments are required: " ++ name
  | .unknownCommand name word known => "argument " ++ name ++ ": invalid choice: " ++ Text.quoted word
      ++ " (choose from " ++ ", ".intercalate (known.map Text.quoted) ++ ")"
  | .unrecognized words => "unrecognized arguments: " ++ " ".intercalate words

/-- What keeps a line from being carried out: a call for help, or a mistake. -/
inductive Stop where
  | help (form : Form)
  | mistake (form : Form) (m : Mistake)
deriving DecidableEq, Inhabited

/-! ## Words -/

/-- What a word of a line is. -/
inductive Word where
  | operand
  | divider
  /-- An option, with the value that is joined to its name. -/
  | flag (f : Flag) (name : String) (joined : Option String)
  /-- Something that looks like an option. -/
  | unknown
deriving DecidableEq, Inhabited

/-- Does a word have the form of a negative number? -/
def isNegativeNumber (word : String) : Bool :=
  match word.toList with
  | '-' :: cs =>
    let whole := cs.takeWhile Text.isDecimal
    match cs.dropWhile Text.isDecimal with
    | [] => !whole.isEmpty
    | '.' :: places => !places.isEmpty && places.all Text.isDecimal
    | _ => false
  | _ => false

/-- Is a name introduced by two dashes? -/
def isLongName (name : String) : Bool := name.startsWith "--"

namespace Form

/-- The option of a name. -/
def flag? (f : Form) (name : String) : Option Flag := f.flags.find? fun g => g.names.contains name

/-- All options whose names begin as given, in order. -/
def flagsBeginning (f : Form) (start : String) : List (Flag × String) :=
  f.flags.flatMap fun g => (g.names.filter fun n => n.startsWith start).map fun n => (g, n)

/-- The options that a word may mean without being the name of one. -/
def candidates (f : Form) (word : String) : List Word :=
  if isLongName word then
    let (start, joined) := match Text.splitPair? word with
      | some (start, value) => (start, some value)
      | none => (word, none)
    (f.flagsBeginning start).map fun (g, name) => .flag g name joined
  else
    let name := String.ofList (word.toList.take 2)
    match f.flag? name with
    | some g => [.flag g name (some (String.ofList (word.toList.drop 2)))]
    | none => []

/-- What a word is to a form. -/
def word (f : Form) (s : String) : Except Stop Word :=
  if !s.startsWith "-" || s = "-" then .ok .operand
  else match f.flag? s with
    | some g => .ok (.flag g s none)
    | none =>
      let pair := (Text.splitPair? s).bind fun (name, value) => (f.flag? name).map fun g => (g, name, value)
      match pair, f.candidates s with
      | some (g, name, value), _ => .ok (.flag g name (some value))
      | none, [w] => .ok w
      | none, [] => .ok (if isNegativeNumber s || s.toList.contains ' ' then .operand else .unknown)
      | none, ws => .error (.mistake f (.ambiguous s (ws.filterMap fun w => match w with
          | .flag _ name _ => some name
          | _ => none)))

/-- The words of a line. -/
def words (f : Form) : List String → Except Stop (List (String × Word))
  | [] => .ok []
  | "--" :: rest => .ok (("--", .divider) :: rest.map fun s => (s, .operand))
  | s :: rest => do
    let w ← f.word s
    return (s, w) :: (← f.words rest)

/-! ## Options -/

/-- The short options whose letters follow that of a given one.  The last may
be one whose value is still to come. -/
def bundle (f : Form) (g : Flag) : List Char → Except Stop (List (Flag × Option String) × Option Flag)
  | [] => .ok ([(g, none)], none)
  | c :: cs => match f.flag? (String.ofList ['-', c]) with
    | none => .error (.mistake f (.needlessValue g (String.ofList (c :: cs))))
    | some next =>
      if next.value.isNone then do
        let (taken, last) ← f.bundle next cs
        return ((g, none) :: taken, last)
      else if cs.isEmpty then .ok ([(g, none)], some next)
      else .ok ([(g, none), (next, some (String.ofList cs))], none)

/-- The options in a word, and one whose value is still to come. -/
def unfold (f : Form) (g : Flag) (name : String) (joined : Option String) :
    Except Stop (List (Flag × Option String) × Option Flag) :=
  match g.value, joined with
  | some _, some v => .ok ([(g, some v)], none)
  | some _, none => .ok ([], some g)
  | none, none => .ok ([(g, none)], none)
  | none, some v =>
    if isLongName name || v.isEmpty then .error (.mistake f (.needlessValue g v))
    else f.bundle g v.toList

end Form

/-! ## Lines -/

/-- What has been read of a line. -/
structure Reading where
  flags : List (Flag × Option String)
  /-- The operand, and everything behind it if it is a command. -/
  operands : List String
  /-- Words that have no place. -/
  extras : List String
deriving DecidableEq, Inhabited

namespace Reading

/-- Nothing. -/
def empty : Reading := ⟨[], [], []⟩

/-- Is an option given? -/
def has (r : Reading) (name : String) : Bool := r.flags.any fun (g, _) => g.names.contains name

/-- All values of an option, in order. -/
def values (r : Reading) (name : String) : List String :=
  r.flags.filterMap fun (g, v) => if g.names.contains name then v else none

/-- The value of an option; the last one given counts. -/
def value? (r : Reading) (name : String) : Option String := (r.values name).getLast?

end Reading

namespace Form

/-- Adds options to what has been read; a call for help ends the reading. -/
def record (f : Form) (r : Reading) (taken : List (Flag × Option String)) : Except Stop Reading :=
  if taken.any fun (g, _) => g = helpFlag then .error (.help f)
  else .ok { r with flags := r.flags ++ taken }

/-- Reads words one after the other. -/
def readWords (f : Form) (r : Reading) : List (String × Word) → Except Stop Reading
  | [] => .ok r
  | (s, .unknown) :: rest => f.readWords { r with extras := r.extras ++ [s] } rest
  | (_, .flag g name joined) :: rest => do
    let (taken, last) ← f.unfold g name joined
    let r ← f.record r taken
    match last, rest with
    | none, rest => f.readWords r rest
    | some g, (value, .operand) :: rest => do f.readWords (← f.record r [(g, some value)]) rest
    | some g, _ => .error (.mistake f (.withoutValue g))
  | (s, w) :: rest => match f.operand, r.operands, w, rest with
    | .command .., _, .divider, [] => .ok { r with extras := r.extras ++ [s] }
    | .command .., _, _, rest => .ok { r with operands := s :: rest.map (·.1) }
    | .text .., [], .divider, (s, _) :: rest => f.readWords { r with operands := [s] } rest
    | .text .., [], .operand, (_, .divider) :: rest => f.readWords { r with operands := [s] } rest
    | .text .., [], .operand, rest => f.readWords { r with operands := [s] } rest
    | .text .., _, _, rest => f.readWords { r with extras := r.extras ++ [s] } rest

/-- Reads a line. -/
def read (f : Form) (line : List String) : Except Stop Reading := do
  f.readWords .empty (← f.words line)

end Form
end Workflow.Cli
