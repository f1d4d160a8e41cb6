import Workflow.Number.Binary64

/-!
# Workflow.Value.Key

What makes two members of a set, or two keys of a mapping, the same.

A key is a sequence of atoms: one atom for a scalar, and for a tuple its
length followed by the keys of its items, so that structural equality of keys
is equality of the things they stand for.  `1`, `1.0` and `true` share a key.
-/

namespace Workflow

/-- One piece of a key. -/
inductive Atom where
  | none
  | int (n : Int)
  | float (x : Float)
  | str (s : String)
  | bytes (b : List UInt8)
  | tuple (length : Nat)
  | ellipsis
  | named (name : String)
deriving DecidableEq, Inhabited

/-- The identity of a hashable value. -/
abbrev Key := List Atom

namespace Key

/-- The key of a text. -/
def ofString (s : String) : Key := [.str s]

theorem ofString_inj {s t : String} : ofString s = ofString t ↔ s = t := by
  simp [ofString]

/-- The key of a double: that of the integer it equals, if there is one. -/
def ofFloat (x : Float) : Key :=
  match Number.Binary64.toInt? x with
  | some n => [.int n]
  | none => [.float x]

end Key

/-- What brought a mapping into a run.  The names are those of the event and
of the node it belongs to, `round` counts that node's executions. -/
inductive Origin where
  | outputs
  | state
  | inputs
  | payload (node : Key)
  | bindings (node : Key) (round : Nat)
  | update (node : Key) (round index : Nat)
  | result (node : Key) (round : Nat)
deriving DecidableEq, Inhabited

/-- The identity of a mapping: its origin, the target path it was made for, if
any, and its place among the mappings made there.  Two mappings with one
identity are one mapping seen from two places, and a write to it shows in
both. -/
structure MapId where
  origin : Origin
  path : List String
  place : Nat
deriving DecidableEq, Inhabited

end Workflow
