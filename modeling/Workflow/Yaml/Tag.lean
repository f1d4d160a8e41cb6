import Workflow.Text.CharSet
import Workflow.Value.Calendar

/-!
# Workflow.Yaml.Tag

What kind of value a node is.

A tag is written out, or follows from the text of a plain scalar: words for
truth values and null, numbers in several bases and in sixties, and dates.
Everything else is text.
-/

namespace Workflow.Yaml

/-- The kinds of values. -/
inductive Tag where
  | null | bool | int | float | binary | timestamp | str
  | seq | map | set | omap | pairs
  | merge | default
  /-- A kind that is not known. -/
  | other (uri : String)
deriving DecidableEq, Inhabited

namespace Tag

/-- What the known tags begin with. -/
def base : String := "tag:yaml.org,2002:"

/-- The known tags by name. -/
def known : List (String × Tag) :=
  [("null", .null), ("bool", .bool), ("int", .int), ("float", .float), ("binary", .binary),
   ("timestamp", .timestamp), ("str", .str), ("seq", .seq), ("map", .map), ("set", .set), ("omap", .omap),
   ("pairs", .pairs), ("merge", .merge), ("value", .default)]

/-- The tag of a URI. -/
def ofUri (uri : String) : Tag :=
  match known.find? fun (name, _) => base ++ name == uri with
  | some (_, t) => t
  | none => .other uri

end Tag

/-! ## Forms of text -/

/-- A reader of the front of a text: what is left, if the front has the form. -/
abbrev Form := List Char → Option (List Char)

namespace Form

/-- Both forms, one after the other. -/
def andThen (f g : Form) : Form := fun cs => (f cs).bind g

/-- The form, if it is there. -/
def maybe (f : Form) : Form := fun cs => some ((f cs).getD cs)

/-- A character of a class. -/
def one (p : Char → Bool) : Form
  | c :: rest => if p c then some rest else none
  | [] => none

/-- Any number of characters of a class. -/
def many (p : Char → Bool) : Form := fun cs => some (cs.dropWhile p)

/-- Characters of a class, at least one. -/
def some1 (p : Char → Bool) : Form := (one p).andThen (many p)

/-- Is the whole text of the form? -/
def isAll (f : Form) (cs : List Char) : Bool := f cs == some []

/-- Is the text without a sign at its front of the form? -/
def isAllSigned (f : Form) (cs : List Char) : Bool :=
  ((one fun c => c = '+' || c = '-').maybe.andThen f).isAll cs

end Form

open Form

/-- A digit or an underscore. -/
def isDigitOrGap (c : Char) : Bool := c.isDigit || c = '_'

/-- Digits with underscores after the first. -/
def digits : Form := (one Char.isDigit).andThen (many isDigitOrGap)

/-- An exponent, whose sign is required. -/
def exponent : Form :=
  (one fun c => c = 'e' || c = 'E').andThen ((one fun c => c = '+' || c = '-').andThen (some1 Char.isDigit))

/-- A colon and a number below sixty. -/
def sixty : Form := fun cs =>
  match cs with
  | ':' :: a :: b :: rest =>
    if decide ('0' ≤ a ∧ a ≤ '5') && b.isDigit then some rest
    else if a.isDigit then some (b :: rest) else none
  | [':', a] => if a.isDigit then some [] else none
  | _ => none

/-- Numbers below sixty, as many as there are. -/
def sixties (fuel : Nat) : Form := fun cs =>
  match fuel with
  | 0 => some cs
  | fuel + 1 => match sixty cs with
    | some rest => sixties fuel rest
    | none => some cs

/-- Is the text a number with a point? -/
def isFloatText (cs : List Char) : Bool :=
  let point := one (· = '.')
  isAllSigned (digits.andThen (point.andThen ((many isDigitOrGap).andThen exponent.maybe))) cs
    || isAll (point.andThen (digits.andThen exponent.maybe)) cs
    || isAllSigned (digits.andThen (sixty.andThen ((sixties cs.length).andThen
        (point.andThen (many isDigitOrGap))))) cs
    || isAllSigned (fun cs => if [".inf", ".Inf", ".INF"].contains (String.ofList cs) then some [] else none) cs
    || [".nan", ".NaN", ".NAN"].contains (String.ofList cs)

/-- Is the text an integer? -/
def isIntText (cs : List Char) : Bool :=
  let zero := one (· = '0')
  let positive := (one fun c => c.isDigit && c != '0').andThen (many isDigitOrGap)
  isAllSigned (zero.andThen ((one (· = 'b')).andThen (some1 fun c => c = '0' || c = '1' || c = '_'))) cs
    || isAllSigned (zero.andThen (some1 fun c => decide ('0' ≤ c ∧ c ≤ '7') || c = '_')) cs
    || isAllSigned zero cs
    || isAllSigned positive cs
    || isAllSigned (zero.andThen ((one (· = 'x')).andThen
        (some1 fun c => (Text.hexDigit? c).isSome || c = '_'))) cs
    || isAllSigned (positive.andThen (sixty.andThen (sixties cs.length))) cs

/-! ## Dates -/

/-- A time of day, with the digits of its fraction. -/
structure Clock where
  hour : Nat
  minute : Nat
  second : Nat
  fraction : List Char
  /-- The distance from UTC in seconds. -/
  offset : Option Int
deriving Inhabited

/-- A date as it is written, and a time if there is one. -/
structure Stamp where
  date : Date
  /-- Have month and day two digits each? -/
  full : Bool
  clock : Option Clock
deriving Inhabited

/-- The number that digits write. -/
def natOf (ds : List Char) : Nat := ds.foldl (fun n d => n * 10 + (d.toNat - '0'.toNat)) 0

/-- Between `least` and `most` digits at the front. -/
def takeDigits? (least most : Nat) (cs : List Char) : Option (List Char × List Char) :=
  let ds := (cs.take most).takeWhile Char.isDigit
  if least ≤ ds.length then some (ds, cs.drop ds.length) else none

/-- The distance from UTC with which a time ends, if it has one. -/
def readZone? (cs : List Char) : Option (Option Int) :=
  match cs.dropWhile fun c => c = ' ' || c = '\t' with
  | [] => if cs.isEmpty then some none else none
  | ['Z'] => some (some 0)
  | sign :: rest =>
    if sign = '+' || sign = '-' then do
      let (hours, rest) ← takeDigits? 1 2 rest
      let minutes ← (match rest with
        | [] => some []
        | ':' :: rest => do
          let (minutes, rest) ← takeDigits? 2 2 rest
          if rest.isEmpty then some minutes else none
        | _ => none : Option (List Char))
      let seconds : Int := (natOf hours * 60 + natOf minutes) * 60
      return some (if sign = '-' then -seconds else seconds)
    else none

/-- The time with which a date goes on. -/
def readClock? (cs : List Char) : Option Clock := do
  let rest ← (match cs with
    | 'T' :: rest => some rest
    | 't' :: rest => some rest
    | cs => (some1 fun c => c = ' ' || c = '\t') cs : Option (List Char))
  let (hour, rest) ← takeDigits? 1 2 rest
  let rest ← one (· = ':') rest
  let (minute, rest) ← takeDigits? 2 2 rest
  let rest ← one (· = ':') rest
  let (second, rest) ← takeDigits? 2 2 rest
  let (fraction, rest) := match rest with
    | '.' :: rest => (rest.takeWhile Char.isDigit, rest.dropWhile Char.isDigit)
    | rest => ([], rest)
  let offset ← readZone? rest
  return ⟨natOf hour, natOf minute, natOf second, fraction, offset⟩

/-- Reads a date, and a time if there is one. -/
def readStamp? (cs : List Char) : Option Stamp := do
  let (year, rest) ← takeDigits? 4 4 cs
  let rest ← one (· = '-') rest
  let (month, rest) ← takeDigits? 1 2 rest
  let rest ← one (· = '-') rest
  let (day, rest) ← takeDigits? 1 2 rest
  let date : Date := ⟨natOf year, natOf month, natOf day⟩
  let full := month.length = 2 && day.length = 2
  if rest.isEmpty then return ⟨date, full, none⟩
  return ⟨date, full, some (← readClock? rest)⟩

/-- Is the text a date as it is recognised without a tag? -/
def isStampText (cs : List Char) : Bool :=
  match readStamp? cs with
  | some s => s.full || s.clock.isSome
  | none => false

/-! ## Plain scalars -/

/-- The words for truth values. -/
def boolWords : List String :=
  ["yes", "Yes", "YES", "no", "No", "NO", "true", "True", "TRUE", "false", "False", "FALSE", "on", "On", "ON",
   "off", "Off", "OFF"]

/-- The words for null. -/
def nullWords : List String := ["~", "null", "Null", "NULL", ""]

/-- The tag of a plain scalar. -/
def plainTag (text : String) : Tag :=
  let cs := text.toList
  if boolWords.contains text then .bool
  else if isFloatText cs then .float
  else if isIntText cs then .int
  else if text = "<<" then .merge
  else if nullWords.contains text then .null
  else if isStampText cs then .timestamp
  else if text = "=" then .default
  else .str

end Workflow.Yaml
