import Workflow.Value.Fault
import Workflow.Text.Case

/-!
# Workflow.Service.Url

Where requests go.

An `Address` is what is read off the base URL of a service: its host, and the
raw path under which the paths of requests are found.  Characters that a path
cannot hold are written as percent escapes of their UTF-8 bytes; escapes that
are there already stay as they are.  The segments `.` and `..` of an absolute
path are carried out.
-/

namespace Workflow.Service

/-! ## Percent escapes -/

/-- Is the character printable ASCII, and neither a blank nor one that ends a
URL wherever it stands? -/
def isUrlText (c : Char) : Bool :=
  decide (0x20 < c.toNat ∧ c.toNat < 0x7f) && !(['"', '#', '<', '>'].contains c)

/-- Can the character stand in a path? -/
def isPathText (c : Char) : Bool := isUrlText c && !(['?', '\x60', '\x7b', '\x7d'].contains c)

/-- A byte as a percent escape. -/
def percentEscape (b : UInt8) : List Char := '%' :: (Text.hexPadded 2 b.toNat).map Char.toUpper

/-- Escapes the characters that are not safe. -/
def percentEncode (safe : Char → Bool) (cs : List Char) : List Char :=
  cs.flatMap fun c => if safe c then [c] else (String.utf8EncodeChar c).flatMap percentEscape

theorem percentEncode_of_all {safe : Char → Bool} {cs : List Char} (h : ∀ c ∈ cs, safe c = true) :
    percentEncode safe cs = cs := by
  induction cs with
  | nil => rfl
  | cons c cs ih =>
    have hc : safe c = true := h c List.mem_cons_self
    have hr := ih fun d hd => h d (List.mem_cons_of_mem c hd)
    rw [percentEncode] at hr ⊢
    rw [List.flatMap_cons, if_pos hc, hr, List.singleton_append]

/-! ## Paths -/

/-- The segments of a path, of which there is at least one. -/
def segments : List Char → List (List Char)
  | [] => [[]]
  | c :: cs =>
    if c = '/' then [] :: segments cs
    else match segments cs with
      | s :: rest => (c :: s) :: rest
      | [] => [[c]]

/-- Carries out the segments `.` and `..`; `kept` holds the segments so far,
backwards.  Nothing is above the root. -/
def keepSegments (kept : List (List Char)) : List (List Char) → List (List Char)
  | [] => kept.reverse
  | ['.'] :: rest => keepSegments kept rest
  | ['.', '.'] :: rest => keepSegments (if kept = [[]] then kept else kept.tail) rest
  | s :: rest => keepSegments (s :: kept) rest

/-- A path without the segments `.` and `..`. -/
def withoutDots (path : List Char) : List Char :=
  ['/'].intercalate (keepSegments [] (segments path))

/-- The parts of a reference before and behind the question mark, without the
fragment. -/
def pathAndQuery (cs : List Char) : List Char × Option (List Char) :=
  let cs := cs.takeWhile (· != '#')
  (cs.takeWhile (· != '?'), (cs.dropWhile (· != '?')).tail?)

/-- A path with its query, as it is sent. -/
def rawPath (path : List Char) (query : Option (List Char)) : List Char :=
  let path := percentEncode isPathText path
  let path := if path.isEmpty then ['/'] else path
  path ++ match query with
    | none => []
    | some q => '?' :: percentEncode isUrlText q

/-! ## Addresses -/

/-- Where a service is found. -/
structure Address where
  /-- Does the address name a protocol or a host? -/
  absolute : Bool
  host : String
  /-- What the paths of requests are put behind; it ends in a slash. -/
  root : List Char
deriving Inhabited

/-- The longest URL that is accepted. -/
def maxUrlLength : Nat := 65536

/-- Refuses a text that no URL can be. -/
def checkUrl (cs : List Char) : Except Fault Unit :=
  if maxUrlLength < cs.length then .error (.invalidUrl "URL too long")
  else
    match cs.zipIdx.find? fun (c, _) => decide (c.toNat < 0x20 ∨ c.toNat = 0x7f) with
    | some (c, i) => .error (.invalidUrl
        s!"Invalid non-printable ASCII character in URL, {Text.quoted c.toString} at position {i}.")
    | none => .ok ()

/-- The protocol with which a URL begins, and the rest. -/
def splitScheme (cs : List Char) : Option (List Char) × List Char :=
  let isSchemeText (c : Char) : Bool := c.isAlphanum || ['+', '.', '-'].contains c
  match cs.takeWhile isSchemeText, cs.dropWhile isSchemeText with
  | c :: name, ':' :: rest => if c.isAlpha then (some (c :: name), rest) else (none, cs)
  | [], ':' :: rest => (some [], rest)
  | _, _ => (none, cs)

/-- The host and the port of an authority. -/
def hostAndPort (authority : List Char) : List Char × List Char :=
  let afterUser := (authority.reverse.takeWhile (· != '@')).reverse
  match afterUser with
  | '[' :: rest =>
    if rest.contains ']' then
      let after := (rest.reverse.takeWhile (· != ']')).reverse
      (rest.take (rest.length - after.length - 1), after.dropWhile (· == ':'))
    else (afterUser.takeWhile (· != ':'), (afterUser.dropWhile (· != ':')).drop 1)
  | _ => (afterUser.takeWhile (· != ':'), (afterUser.dropWhile (· != ':')).drop 1)

/-- Reads a base URL. -/
def Address.ofText (url : String) : Except Fault Address := do
  let cs := url.toList
  checkUrl cs
  let (scheme, rest) := splitScheme cs
  let (authority, rest) := match rest with
    | '/' :: '/' :: rest =>
      let isEnd (c : Char) : Bool := ['/', '?', '#'].contains c
      (rest.takeWhile fun c => !isEnd c, rest.dropWhile fun c => !isEnd c)
    | rest => ([], rest)
  let (host, port) := hostAndPort authority
  if !port.isEmpty && !port.all Char.isDigit then
    throw (.invalidUrl s!"Invalid port: {Text.quoted (String.ofList port)}")
  let absolute := (scheme.getD []) != [] || authority != []
  let (path, query) := pathAndQuery rest
  let raw := rawPath (if absolute then withoutDots path else path) query
  let root := if raw.getLast? = some '/' then raw else raw ++ ['/']
  return ⟨absolute, Text.lower (String.ofList host), root⟩

/-- The raw path of a request for a path that begins with a slash. -/
def Address.locate (a : Address) (path : String) : Except Fault String := do
  let cs := path.toList
  checkUrl cs
  let (p, query) := pathAndQuery cs
  let merged := a.root ++ (rawPath p query).dropWhile (· == '/')
  let (p, query) := pathAndQuery merged
  return String.ofList (rawPath (if a.absolute then withoutDots p else p) query)

end Workflow.Service
