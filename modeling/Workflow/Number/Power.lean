/-!
# Workflow.Number.Power

Powers of two and of ten, in which the places of binary and decimal numbers
are counted.
-/

namespace Workflow.Number

/-- Two to a power. -/
def twoTo (n : Nat) : Nat := Nat.pow 2 n

/-- Ten to a power. -/
def tenTo (n : Nat) : Nat := Nat.pow 10 n

@[simp] theorem twoTo_zero : twoTo 0 = 1 := rfl

theorem twoTo_succ (n : Nat) : twoTo (n + 1) = twoTo n * 2 := rfl

theorem twoTo_pos (n : Nat) : 0 < twoTo n := by
  induction n with
  | zero => decide
  | succ n ih => rw [twoTo_succ]; omega

@[simp] theorem tenTo_zero : tenTo 0 = 1 := rfl

theorem tenTo_succ (n : Nat) : tenTo (n + 1) = tenTo n * 10 := rfl

theorem tenTo_pos (n : Nat) : 0 < tenTo n := by
  induction n with
  | zero => decide
  | succ n ih => rw [tenTo_succ]; omega

/-- The number `m · 2 ^ q` as a quotient of naturals. -/
def dyadic (m : Nat) (q : Int) : Nat × Nat :=
  if 0 ≤ q then (m * twoTo q.toNat, 1) else (m, twoTo (-q).toNat)

/-- The denominator of a dyadic number is never zero. -/
theorem dyadic_den_pos (m : Nat) (q : Int) : 0 < (dyadic m q).2 := by
  unfold dyadic
  split
  · exact Nat.zero_lt_one
  · exact twoTo_pos _

end Workflow.Number
