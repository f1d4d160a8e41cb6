import Workflow.Graph.Document
import Workflow.Graph.Source
import Workflow.Text.Case

/-!
# Workflow.Cli.File

Graphs in files.

A path is a list of names; empty names and single dots in it mean nothing.
What follows the last dot in the last name decides how the document is written,
and line breaks of every kind in it count as line feeds.
-/

namespace Workflow.Cli

/-! ## Paths -/

/-- The names in a path, in order. -/
def namesIn (path : String) : List String := (path.toList.splitOn '/').map String.ofList

/-- The shortest form of a path. -/
def plainPath (path : String) : String :=
  let names := (namesIn path).filter fun n => n != "" && n != "."
  let rooted := (if path.startsWith "/" then "/" else "") ++ "/".intercalate names
  if rooted.isEmpty then "." else rooted

/-- The ending of a file's name, with its dot, in lower case; a name that
begins with its only dot, or ends in a dot, has none. -/
def suffixOf (path : String) : String :=
  let name := (namesIn (plainPath path)).getLastD ""
  let cs := name.toList.reverse
  match cs.takeWhile (· != '.'), cs.dropWhile (· != '.') with
  | c :: ending, '.' :: _ :: _ => Text.lower (String.ofList ('.' :: (c :: ending).reverse))
  | _, _ => ""

/-! ## Contents -/

/-- A text whose line breaks are all line feeds. -/
def unifyLines (s : String) : String :=
  let rec go : List Char → List Char
    | '\r' :: '\n' :: rest => '\n' :: go rest
    | '\r' :: rest => '\n' :: go rest
    | c :: rest => c :: go rest
    | [] => []
  String.ofList (go s.toList)

/-- Reads texts by path. -/
abbrev Reader := String → Except Fault String

/-- Is a path, seen from a folder, that folder or one above it? -/
def isAbove (path : String) : Bool := (namesIn path).all fun n => ["", ".", ".."].contains n

/-- The reader of a folder that holds the named texts. -/
def folderReader (files : List (String × String)) : Reader := fun path =>
  let path := plainPath path
  match files.find? fun (name, _) => plainPath name = path with
  | some (_, text) => .ok text
  | none =>
    if isAbove path || files.any fun (name, _) => (plainPath name).startsWith (path ++ "/") then
      .error (.isDirectory (Text.quoted path))
    else if files.any fun (name, _) => path.startsWith (plainPath name ++ "/") then
      .error (.notDirectory (Text.quoted path))
    else .error (.noSuchFile (Text.quoted path))

/-- The graph in a file. -/
def graphInFile (read : Reader) (path : String) : Except GraphError Graph := do
  let text ← GraphError.lift (read path)
  Graph.ofDocument (← documentOfText (unifyLines text) (.ofSuffix (suffixOf path)))

end Workflow.Cli
