import Workflow.Value.Identity
import Workflow.Value.Fault

/-!
# Workflow.Bindings.Path

Dotted paths into nested mappings.

`setPath` puts a value at a path, making the mappings on the way as needed; a
value on the way that is no mapping is replaced by one.  `pathWrite` is the
same act seen as one write to one mapping: the innermost mapping that was
already there.
-/

namespace Workflow

/-! ## Segments -/

/-- The pieces of a text between dots; there is always one. -/
def dottedChars : List Char → List (List Char)
  | [] => [[]]
  | c :: cs =>
    match dottedChars cs with
    | [] => [[c]]
    | s :: ss => if c = '.' then [] :: s :: ss else (c :: s) :: ss

/-- The segments of a dotted path. -/
def segmentsOf (path : String) : List String := (dottedChars path.toList).map String.ofList

theorem dottedChars_ne_nil (cs : List Char) : dottedChars cs ≠ [] := by
  cases cs with
  | nil => simp [dottedChars]
  | cons c cs =>
    simp only [dottedChars]
    split
    · simp
    · split <;> simp

theorem segmentsOf_ne_nil (path : String) : segmentsOf path ≠ [] := by
  simp [segmentsOf, dottedChars_ne_nil]

/-! ## Reading and writing -/

namespace Entries

/-- The value at a path. -/
def getPath? (es : Entries) : List String → Option Value
  | [] => none
  | [k] => es.field? k
  | k :: ks => match es.field? k with
    | some (.dict _ inner) => getPath? inner ks
    | _ => none

/-- A fresh mapping that holds a value at a path; `idAt` names the mapping
that lies so many segments down. -/
def freshPath (idAt : Nat → Option MapId) (depth : Nat) (v : Value) : List String → Value
  | [] => v
  | k :: ks => .dict (idAt depth) [(.str k, freshPath idAt (depth + 1) v ks)]

/-- Puts a value at a path. -/
def setPath (idAt : Nat → Option MapId) (depth : Nat) (es : Entries) (v : Value) :
    List String → Entries
  | [] => es
  | [k] => es.setField k v
  | k :: ks => match es.field? k with
    | some (.dict id inner) => es.setField k (.dict id (setPath idAt (depth + 1) inner v ks))
    | _ => es.setField k (freshPath idAt (depth + 1) v ks)

/-- The one write by which a value gets to a path: the mapping written to, the
field and what it gets. -/
def pathWrite (idAt : Nat → Option MapId) (depth : Nat) (id : Option MapId) (es : Entries)
    (v : Value) : List String → Option MapId × String × Value
  | [] => (id, "", v)
  | [k] => (id, k, v)
  | k :: ks => match es.field? k with
    | some (.dict id inner) => pathWrite idAt (depth + 1) id inner v ks
    | _ => (id, k, freshPath idAt (depth + 1) v ks)

end Entries

/-- Puts a value at a dotted path of a value, which should be a mapping. -/
def Value.setPath (target path v : Value) : Except Fault Value :=
  match path with
  | .str path =>
    match target, segmentsOf path with
    | .dict id es, segments => .ok (.dict id (Entries.setPath (fun _ => none) 0 es v segments))
    | .list _, [_] => .error (.indexType "list" "str")
    | _, [_] => .error (.noItemAssignment target.typeName)
    | _, _ => .error (.noAttribute target.typeName "get")
  | _ => .error (.noAttribute path.typeName "split")

end Workflow
