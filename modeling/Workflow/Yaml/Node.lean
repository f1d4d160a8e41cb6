import Workflow.Yaml.Tag
import Workflow.Yaml.Token

/-!
# Workflow.Yaml.Node

The tree that the tokens of a YAML document describe.

A reference stands for a copy of the node that its anchor names, which has to
be complete by then.  What is left out is an empty scalar.  A text holds one
document at most.
-/

namespace Workflow.Yaml

/-- A node. -/
inductive Node where
  | scalar (tag : Tag) (text : String)
  | sequence (tag : Tag) (items : List Node)
  | mapping (tag : Tag) (pairs : List (Node × Node))
deriving Inhabited

/-- What is there where nothing is written. -/
def Node.nothing : Node := .scalar (plainTag "") ""

/-! ## Reading -/

/-- The tokens that are left, and the names that are known. -/
structure Reader where
  tokens : List Token
  anchors : List (String × Node)
  handles : List (String × String)

/-- A step of reading. -/
abbrev Parse := StateT Reader (Except Flaw)

namespace Parse

/-- Is the next token one of these? -/
def sees (ts : List Token) : Parse Bool := do
  match (← get).tokens with
  | t :: _ => return ts.contains t
  | [] => return false

/-- Takes the next token if it is this one. -/
def accept (t : Token) : Parse Bool := do
  let r ← get
  match r.tokens with
  | u :: rest => if u = t then do set { r with tokens := rest }; return true else return false
  | [] => return false

/-- The next token, which is taken. -/
def token : Parse Token := do
  let r ← get
  match r.tokens with
  | t :: rest => set { r with tokens := rest }; return t
  | [] => throw .misplacedToken

/-- Takes an anchor, if one comes next. -/
def anchor? : Parse (Option String) := do
  let r ← get
  match r.tokens with
  | .anchor name :: rest => set { r with tokens := rest }; return some name
  | _ => return none

/-- The URI of a tag: its suffix behind what its handle means. -/
def uriOf (handle : Option String) (suffix : String) : Parse String := do
  match handle with
  | none => return suffix
  | some h => match (← get).handles.lookup h with
    | some meaning => return meaning ++ suffix
    | none => throw .tag

/-- Takes a tag, if one comes next. -/
def tag? : Parse (Option String) := do
  let r ← get
  match r.tokens with
  | .tag handle suffix :: rest =>
    set { r with tokens := rest }
    return some (← uriOf handle suffix)
  | _ => return none

/-- Takes an anchor and a tag, in either order. -/
def properties : Parse (Option String × Option String) := do
  match ← anchor? with
  | some a => return (some a, ← tag?)
  | none => match ← tag? with
    | some t => return (← anchor?, some t)
    | none => return (none, none)

/-- Gives a node its name. -/
def register (anchor : Option String) (n : Node) : Parse Node := do
  match anchor with
  | none => return n
  | some a =>
    let r ← get
    if (r.anchors.lookup a).isSome then throw .repeatedAnchor
    set { r with anchors := (a, n) :: r.anchors }
    return n

/-- The node of an anchor. -/
def named (name : String) : Parse Node := do
  match (← get).anchors.lookup name with
  | some n => return n
  | none => throw .unknownAlias

/-- A written tag that says something. -/
def given (tag : Option String) : Option String := tag.filter (· != "!")

/-- The tag of a collection. -/
def collectionTag (tag : Option String) (otherwise : Tag) : Tag := ((given tag).map Tag.ofUri).getD otherwise

/-- The tag of a scalar, which follows from its text where it is plain and none
is written, or where the tag says to do so. -/
def scalarTag (tag : Option String) (plain : Bool) (text : String) : Tag :=
  match given tag with
  | some uri => Tag.ofUri uri
  | none => if plain || tag.isSome then plainTag text else .str

/-- A part that may be left out before one of the tokens. -/
def unlessSees (ts : List Token) (n : Parse Node) : Parse Node := do
  if ← sees ts then return .nothing else n

mutual

/-- A node.  Within brackets there are no collections by indentation; `loose`
allows the entries of a sequence to stand at the indentation of their key. -/
def node (block loose : Bool) : Nat → Parse Node
  | 0 => throw .misplacedToken
  | fuel + 1 => do
    if let .reference name :: rest := (← get).tokens then
      modify fun r => { r with tokens := rest }
      return ← named name
    let (anchor, tag) ← properties
    let n ← content block loose anchor tag fuel
    register anchor n

/-- What stands behind the properties of a node. -/
def content (block loose : Bool) (anchor tag : Option String) : Nat → Parse Node
  | 0 => throw .misplacedToken
  | fuel + 1 => do
    match (← get).tokens with
    | .entry :: _ =>
      if loose then return .sequence (collectionTag tag .seq) (← looseItems fuel)
      else nothingElse anchor tag
    | .scalar text plain :: _ =>
      let _ ← token
      return .scalar (scalarTag tag plain text) text
    | .openBracket :: _ =>
      let _ ← token
      return .sequence (collectionTag tag .seq) (← flowItems true fuel)
    | .openBrace :: _ =>
      let _ ← token
      return .mapping (collectionTag tag .map) (← flowPairs true fuel)
    | .sequenceStart :: _ =>
      if !block then nothingElse anchor tag
      else
        let _ ← token
        return .sequence (collectionTag tag .seq) (← blockItems fuel)
    | .mappingStart :: _ =>
      if !block then nothingElse anchor tag
      else
        let _ ← token
        return .mapping (collectionTag tag .map) (← blockPairs fuel)
    | _ => nothingElse anchor tag

/-- A node of which there are only properties. -/
def nothingElse (anchor tag : Option String) : Parse Node := do
  if anchor.isNone && tag.isNone then throw .misplacedToken
  return .scalar (scalarTag tag true "") ""

/-- The entries of a sequence by indentation. -/
def blockItems : Nat → Parse (List Node)
  | 0 => throw .misplacedToken
  | fuel + 1 => do
    if ← accept .entry then
      let n ← unlessSees [.entry, .blockEnd] (node true false fuel)
      return n :: (← blockItems fuel)
    else if ← accept .blockEnd then return []
    else throw .misplacedToken

/-- The entries of a sequence at the indentation of its key. -/
def looseItems : Nat → Parse (List Node)
  | 0 => throw .misplacedToken
  | fuel + 1 => do
    if ← accept .entry then
      let n ← unlessSees [.entry, .key, .value, .blockEnd] (node true false fuel)
      return n :: (← looseItems fuel)
    else return []

/-- The pairs of a mapping by indentation. -/
def blockPairs : Nat → Parse (List (Node × Node))
  | 0 => throw .misplacedToken
  | fuel + 1 => do
    let part : Parse Node := unlessSees [.key, .value, .blockEnd] (node true true fuel)
    if ← accept .key then
      let k ← part
      let v ← if ← accept .value then part else pure .nothing
      return (k, v) :: (← blockPairs fuel)
    else if ← accept .blockEnd then return []
    else throw .misplacedToken

/-- The rest of a pair within brackets, behind the mark of its key. -/
def flowPair (closing : Token) : Nat → Parse (Node × Node)
  | 0 => throw .misplacedToken
  | fuel + 1 => do
    let k ← unlessSees [.value, .comma, closing] (node false false fuel)
    let v ← if ← accept .value then unlessSees [.comma, closing] (node false false fuel) else pure .nothing
    return (k, v)

/-- The items within brackets; all but the first stand behind a comma. -/
def flowItems (first : Bool) : Nat → Parse (List Node)
  | 0 => throw .misplacedToken
  | fuel + 1 => do
    if ← accept .closeBracket then return []
    if !first then
      if !(← accept .comma) then throw .misplacedToken
      if ← accept .closeBracket then return []
    let n ← if ← accept .key then do pure (Node.mapping .map [← flowPair .closeBracket fuel])
      else node false false fuel
    return n :: (← flowItems false fuel)

/-- The pairs within braces; all but the first stand behind a comma. -/
def flowPairs (first : Bool) : Nat → Parse (List (Node × Node))
  | 0 => throw .misplacedToken
  | fuel + 1 => do
    if ← accept .closeBrace then return []
    if !first then
      if !(← accept .comma) then throw .misplacedToken
      if ← accept .closeBrace then return []
    let pair ← if ← accept .key then flowPair .closeBrace fuel
      else do pure (← node false false fuel, Node.nothing)
    return pair :: (← flowPairs false fuel)

end

/-! ## Documents -/

/-- Is the next token a directive? -/
def directive? : Parse (Option Token) := do
  let r ← get
  match r.tokens with
  | t :: rest => match t with
    | .version _ | .tagHandle .. | .otherDirective => set { r with tokens := rest }; return some t
    | _ => return none
  | [] => return none

/-- Takes the directives before a document; `versioned` says whether there was
a version among them. -/
def directives (versioned : Bool) (handles : List (String × String)) :
    Nat → Parse (List (String × String))
  | 0 => return handles
  | fuel + 1 => do
    match ← directive? with
    | some (.version major) =>
      if versioned || major != 1 then throw .directive
      directives true handles fuel
    | some (.tagHandle handle meaning) =>
      if (handles.lookup handle).isSome then throw .directive
      directives versioned ((handle, meaning) :: handles) fuel
    | some _ => directives versioned handles fuel
    | none => return handles

/-- The handles that are always known. -/
def standardHandles : List (String × String) := [("!", "!"), ("!!", Tag.base)]

/-- Takes the marks at the end of a document, behind which nothing may follow. -/
def ending : Nat → Parse Unit
  | 0 => return ()
  | fuel + 1 => do
    if ← accept .documentEnd then ending fuel
    else if (← get).tokens.isEmpty then return ()
    else throw .manyDocuments

/-- Is this where the content of a document ends? -/
def contentEnds : Parse Bool := do
  match (← get).tokens with
  | [] => return true
  | .version _ :: _ | .tagHandle .. :: _ | .otherDirective :: _ | .documentStart :: _ | .documentEnd :: _ =>
    return true
  | _ => return false

/-- The document of a text; nothing where there is none. -/
def document : Parse (Option Node) := do
  let tokens := (← get).tokens
  let fuel := 4 * tokens.length + 8
  match tokens with
  | [] => return none
  | .documentEnd :: _ => throw .misplacedToken
  | _ =>
    if ← contentEnds then
      let handles ← directives false [] tokens.length
      modify fun r => { r with handles := handles ++ standardHandles }
      if !(← accept .documentStart) then throw .misplacedToken
      let n ← if ← contentEnds then pure .nothing else node true false fuel
      ending fuel
      return some n
    else
      let n ← node true false fuel
      ending fuel
      return some n

end Parse

/-- The tree of a text. -/
def Node.ofText? (text : String) : Except Flaw (Option Node) := do
  let start : Reader := ⟨← tokens text, [], Parse.standardHandles⟩
  return (← Parse.document.run start).1

end Workflow.Yaml
