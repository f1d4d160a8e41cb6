import Workflow.Value.Show

/-!
# Workflow.Run.Gate

A join gate: of several branches that lead into one node, the last to arrive
goes through and all others stop.

A gate opens once and stays open.  It opens either by the arrival that makes
up the required number or by being abandoned, which lets nobody through.
-/

namespace Workflow.Run

/-- A gate that waits for `required` branches. -/
structure Gate where
  required : Int
  arrived : Nat
  abandoned : Bool
  released : Bool
deriving DecidableEq, Inhabited

namespace Gate

/-- A gate that nobody has reached. -/
def closed (required : Int) : Gate := ⟨required, 0, false, false⟩

/-- One branch arrives; the answer says whether it goes through. -/
def arrive (g : Gate) : Bool × Gate :=
  if g.released then (false, g)
  else
    let arrived := g.arrived + 1
    if (arrived : Int) < g.required then (false, { g with arrived })
    else (true, { g with arrived, released := true })

/-- Opens a closed gate without letting anybody through. -/
def abandon (g : Gate) : Gate :=
  if g.released then g else { g with abandoned := true, released := true }

/-- Those of the waiting branches that may move on. -/
def woken (g : Gate) (waiting : List Nat) : List Nat := if g.released then waiting else []

/-- The text of a gate. -/
def text (g : Gate) (node : Value) : String :=
  "JoinGate(" ++ node.repr ++ s!", {g.arrived}/{g.required})"

/-- An open gate stays as it is. -/
theorem arrive_of_released {g : Gate} (h : g.released = true) : g.arrive = (false, g) := by
  simp [arrive, h]

theorem abandon_of_released {g : Gate} (h : g.released = true) : g.abandon = g := by
  simp [abandon, h]

/-- Whoever goes through opens a closed gate. -/
theorem arrive_true {g g' : Gate} (h : g.arrive = (true, g')) :
    g.released = false ∧ g' = { g with arrived := g.arrived + 1, released := true } ∧
      g.required ≤ ((g.arrived + 1 : Nat) : Int) := by
  unfold arrive at h
  dsimp only at h
  split at h
  · cases h
  next hclosed =>
    split at h
    · cases h
    next hmany =>
      cases h
      exact ⟨by simpa using hclosed, rfl, Int.not_lt.mp hmany⟩

/-- Whoever stops has come to an open gate, or is counted at a closed one. -/
theorem arrive_false {g g' : Gate} (h : g.arrive = (false, g')) :
    (g.released = true ∧ g' = g) ∨
      (g.released = false ∧ g' = { g with arrived := g.arrived + 1 } ∧ ((g.arrived + 1 : Nat) : Int) < g.required) := by
  unfold arrive at h
  dsimp only at h
  split at h
  next hreleased =>
    cases h
    exact .inl ⟨hreleased, rfl⟩
  next hclosed =>
    split at h
    next hfew =>
      cases h
      exact .inr ⟨by simpa using hclosed, rfl, hfew⟩
    · cases h

theorem abandon_released (g : Gate) : g.abandon.released = true := by
  unfold abandon
  split
  next h => exact h
  · rfl

theorem abandon_arrived (g : Gate) : g.abandon.arrived = g.arrived := by
  unfold abandon
  split <;> rfl

end Gate
end Workflow.Run
