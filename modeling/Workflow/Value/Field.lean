import Workflow.Value.Compare

/-!
# Workflow.Value.Field

Reading values that should be mappings.

A field that is missing reads as null; a value that is no mapping has no
fields to ask for and the reading fails.  Settings with a default take the
first of several values that is true (`orElse`).
-/

namespace Workflow
namespace Value

/-- The key of a value, which must have one. -/
def keyOf (v : Value) : Except Fault Key :=
  match v.key? with
  | some k => .ok k
  | none => .error (.unhashable v.typeName)

/-- The field of a value that should be a mapping. -/
def read (v : Value) (name : String) : Except Fault Value :=
  match v with
  | .dict _ es => .ok (Entries.field es name)
  | v => .error (.noAttribute v.typeName "get")

/-- A value, or else a second one where the first is false. -/
def orElse (v w : Value) : Value := if v.truthy then v else w

/-- An optional text as a value. -/
def ofText? : Option String → Value
  | some s => .str s
  | none => .null

theorem read_dict (id : Option MapId) (es : Entries) (name : String) :
    (Value.dict id es).read name = .ok (Entries.field es name) := rfl

/-- The items of an optional list of entries: nothing where it is missing. -/
def itemsOrNone (v : Value) : Except Fault (List Value) :=
  if v.truthy then v.iterate else .ok []

end Value

/-- Puts the entries of a value, which should be a mapping, over others. -/
def Entries.overlay (es : Entries) (v : Value) : Except Fault Entries :=
  match v with
  | .dict _ fs => .ok (es.merge fs)
  | v => .error (.typeRule ("'" ++ v.typeName ++ "' object is not a mapping"))

end Workflow
