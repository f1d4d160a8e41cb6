import Workflow.Value.Mapping

/-!
# Workflow.Value.Identity

Mappings that are seen from several places.

1. `adopt` gives every mapping without an identity one of the given origin.
2. `plain` forgets identities; adopting changes nothing else.
3. `Write` is one change of one field of one mapping, and `Value.receive`
   carries it out wherever that mapping occurs in a value.
-/

namespace Workflow
namespace Value

/-! ## Giving identities -/

mutual

/-- Numbers the mappings without identity from `n` on, in order of occurrence. -/
def number (origin : Origin) (path : List String) (n : Nat) : Value → Value × Nat
  | .list xs => let (xs, n) := numberList origin path n xs; (.list xs, n)
  | .tuple xs => let (xs, n) := numberList origin path n xs; (.tuple xs, n)
  | .dict (some id) es => (.dict (some id) es, n)
  | .dict none es =>
    let (es, m) := numberEntries origin path (n + 1) es
    (.dict (some ⟨origin, path, n⟩) es, m)
  | v => (v, n)

/-- The same for the items of a list. -/
def numberList (origin : Origin) (path : List String) (n : Nat) : List Value → List Value × Nat
  | [] => ([], n)
  | x :: xs =>
    let (x, n) := number origin path n x
    let (xs, n) := numberList origin path n xs
    (x :: xs, n)

/-- The same for the values of a mapping. -/
def numberEntries (origin : Origin) (path : List String) (n : Nat) :
    List (Value × Value) → List (Value × Value) × Nat
  | [] => ([], n)
  | (k, v) :: es =>
    let (v, n) := number origin path n v
    let (es, n) := numberEntries origin path n es
    ((k, v) :: es, n)

end

/-- Gives every mapping without an identity one of the given origin. -/
def adopt (origin : Origin) (v : Value) (path : List String := []) : Value :=
  (number origin path 0 v).1

/-! ## Forgetting identities -/

mutual

/-- The value without identities. -/
def plain : Value → Value
  | .list xs => .list (plainList xs)
  | .tuple xs => .tuple (plainList xs)
  | .dict _ es => .dict none (plainEntries es)
  | v => v

/-- The same for the items of a list. -/
def plainList : List Value → List Value
  | [] => []
  | x :: xs => plain x :: plainList xs

/-- The same for the values of a mapping. -/
def plainEntries : List (Value × Value) → List (Value × Value)
  | [] => []
  | (k, v) :: es => (k, plain v) :: plainEntries es

end

/-! ## Writes -/

end Value

/-- One field of one mapping gets a value. -/
structure Write where
  id : MapId
  field : String
  value : Value

namespace Value

mutual

/-- Carries out a write on every occurrence of its mapping. -/
def receive (w : Write) : Value → Value
  | .list xs => .list (receiveList w xs)
  | .tuple xs => .tuple (receiveList w xs)
  | .dict id es =>
    let es := receiveEntries w es
    .dict id (if id = some w.id then Entries.setField es w.field w.value else es)
  | v => v

/-- The same for the items of a list. -/
def receiveList (w : Write) : List Value → List Value
  | [] => []
  | x :: xs => receive w x :: receiveList w xs

/-- The same for the values of a mapping. -/
def receiveEntries (w : Write) : List (Value × Value) → List (Value × Value)
  | [] => []
  | (k, v) :: es => (k, receive w v) :: receiveEntries w es

end

/-- Carries out writes one after the other. -/
def receiveAll (ws : List Write) (v : Value) : Value := ws.foldl (fun v w => receive w v) v

@[simp] theorem receiveAll_nil (v : Value) : receiveAll [] v = v := rfl

end Value

/-- What a mapping holds under a key receives what the mapping does. -/
theorem Entries.get?_receiveEntries (w : Write) (es : Entries) (k : Key) :
    Entries.get? (Value.receiveEntries w es) k = (Entries.get? es k).map (Value.receive w) := by
  induction es with
  | nil => rfl
  | cons entry es ih =>
    obtain ⟨key, v⟩ := entry
    by_cases hkey : key.key? = some k
    · simp [Value.receiveEntries, Entries.get?, hkey]
    · simp [Value.receiveEntries, Entries.get?, hkey, ih]

end Workflow
