import Workflow.Value.Basic

/-!
# Workflow.Value.Mapping

Mappings as entry lists: a key occurs once, keeps the place and the spelling
of its first insertion, and holds the value of its last.
-/

namespace Workflow
namespace Entries

/-! ## Keys -/

/-- The value held under a key. -/
def get? (es : Entries) (k : Key) : Option Value :=
  match es with
  | [] => none
  | (k', v) :: rest => if k'.key? = some k then some v else get? rest k

/-- Puts a value under a key; a new key goes to the end. -/
def set (es : Entries) (name : Value) (k : Key) (v : Value) : Entries :=
  match es with
  | [] => [(name, v)]
  | (k', v') :: rest => if k'.key? = some k then (k', v) :: rest else (k', v') :: set rest name k v

/-- The mapping without a key. -/
def erase (es : Entries) (k : Key) : Entries :=
  es.filter fun (k', _) => k'.key? != some k

/-- Does the key occur? -/
def contains (es : Entries) (k : Key) : Bool := (es.get? k).isSome

theorem get?_set_same {es : Entries} {name : Value} {k : Key} {v : Value} (h : name.key? = some k) :
    (es.set name k v).get? k = some v := by
  induction es with
  | nil => simp [set, get?, h]
  | cons e rest ih =>
    obtain ⟨k', v'⟩ := e
    by_cases hk : k'.key? = some k
    · simp [set, get?, hk]
    · simp [set, get?, hk, ih]

theorem get?_set_other {es : Entries} {name : Value} {k k₂ : Key} {v : Value}
    (h : name.key? = some k) (hne : k₂ ≠ k) : (es.set name k v).get? k₂ = es.get? k₂ := by
  induction es with
  | nil => simp [set, get?, h, Ne.symm hne]
  | cons e rest ih =>
    obtain ⟨k', v'⟩ := e
    by_cases hk : k'.key? = some k
    · simp [set, get?, hk, Ne.symm hne]
    · simp [set, get?, hk, ih]

/-- What is held under a key is one of the entries. -/
theorem mem_of_get? {es : Entries} {k : Key} {v : Value} (h : es.get? k = some v) : ∃ name, (name, v) ∈ es := by
  induction es with
  | nil => cases h
  | cons e rest ih =>
    obtain ⟨k', v'⟩ := e
    unfold get? at h
    split at h
    · cases h
      exact ⟨k', List.mem_cons_self⟩
    · obtain ⟨name, hname⟩ := ih h
      exact ⟨name, List.mem_cons_of_mem _ hname⟩

/-! ## Text keys -/

/-- The value of a field. -/
def field? (es : Entries) (name : String) : Option Value := es.get? (Key.ofString name)

/-- The value of a field, null where it is missing. -/
def field (es : Entries) (name : String) : Value := (es.field? name).getD .null

/-- Puts a value into a field. -/
def setField (es : Entries) (name : String) (v : Value) : Entries :=
  es.set (.str name) (Key.ofString name) v

theorem field?_setField_same (es : Entries) (name : String) (v : Value) :
    (es.setField name v).field? name = some v :=
  get?_set_same (Value.key?_str name)

theorem field?_setField_other (es : Entries) {name name₂ : String} (v : Value) (h : name₂ ≠ name) :
    (es.setField name v).field? name₂ = es.field? name₂ :=
  get?_set_other (Value.key?_str name) (fun e => h (Key.ofString_inj.mp e))

/-- The entries of a list of pairs, a later pair replacing an earlier one. -/
def ofFields (fields : List (String × Value)) : Entries :=
  fields.foldl (fun es (k, v) => es.setField k v) []

end Entries

/-- Puts a value under a value; nothing when the key cannot be one. -/
def Entries.insert? (es : Entries) (name v : Value) : Option Entries :=
  name.key?.map fun k => es.set name k v

/-- Adds the entries of a second mapping to a first. -/
def Entries.merge (es : Entries) : Entries → Entries
  | [] => es
  | (k, v) :: rest => merge (((es.insert? k v)).getD es) rest

/-- The field of a value that is a mapping. -/
def Value.field? (v : Value) (name : String) : Option Value :=
  match v with
  | .dict _ es => Entries.field? es name
  | _ => none

end Workflow
