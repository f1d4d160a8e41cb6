import Workflow.Run.Work

/-!
# Workflow.Proofs.Work

What a computation keeps to, whatever collaborators answer and however the
world changes while it waits.

`Step.Keeps R Q F` reads a computation in stretches.  A stretch begins in some
world and ends where the computation waits or ends.  Every stretch takes its
world to one that `R` allows; a result has `Q`, and a failure has `F`.  The
lemmas follow the ways in which computations are put together, so that a node
is checked by walking through its text.
-/

namespace Workflow.Run

/-! ## Stretches -/

/-- To begin the tool call adds at most records. -/
def ToolTask.Quiet (task : ToolTask) : Prop := ∀ w, ∃ records, (task.start w).1 = { w with records }

namespace Step

variable {α β : Type} {R : World → World → Prop} {F : World → Failure → Prop}

/-- Three computations in a row may be put together in either order. -/
theorem bind_assoc {γ : Type} (f : α → Work β) (g : β → Work γ) :
    ∀ s : Step α, (s.bind f).bind g = s.bind fun a w => (f a w).bind g
  | .done _ _ => rfl
  | .fail _ _ => rfl
  | .call w c next => congrArg (Step.call w c) (funext fun r => funext fun u => bind_assoc f g (next r u))
  | .tools w ts next => congrArg (Step.tools w ts) (funext fun r => funext fun u => bind_assoc f g (next r u))

/-- Every stretch keeps to `R`; results have `Q`, failures have `F`.  After a
wait the next stretch begins in whatever world there is then.  Tool calls that
run beside the computation are quiet. -/
def Keeps (R : World → World → Prop) (Q : World → α → Prop) (F : World → Failure → Prop) :
    World → Step α → Prop
  | w, .done v a => R w v ∧ Q v a
  | w, .fail v f => R w v ∧ F v f
  | w, .call v _ next => R w v ∧ ∀ r u, Keeps R Q F u (next r u)
  | w, .tools v tasks next =>
    R w v ∧ (∀ task ∈ tasks, task.Quiet) ∧ ∀ r u, Keeps R Q F u (next r u)

/-- A stretch may begin earlier. -/
theorem Keeps.after {Q : World → α → Prop} (htrans : ∀ u v w, R u v → R v w → R u w) {w v : World}
    {s : Step α} (h : R w v) (hs : Keeps R Q F v s) : Keeps R Q F w s := by
  cases s with
  | done u a => exact ⟨htrans _ _ _ h hs.1, hs.2⟩
  | fail u f => exact ⟨htrans _ _ _ h hs.1, hs.2⟩
  | call u c next => exact ⟨htrans _ _ _ h hs.1, hs.2⟩
  | tools u tasks next => exact ⟨htrans _ _ _ h hs.1, hs.2⟩

/-- A second computation that keeps to `R` may follow a first. -/
theorem Keeps.bind {Q : World → α → Prop} {P : World → β → Prop}
    (htrans : ∀ u v w, R u v → R v w → R u w) {next : α → Work β}
    (hnext : ∀ v a, Q v a → Keeps R P F v (next a v)) :
    {s : Step α} → {w : World} → Keeps R Q F w s → Keeps R P F w (s.bind next)
  | .done v a, _, h => (hnext v a h.2).after htrans h.1
  | .fail _ _, _, h => h
  | .call _ _ _, _, h => ⟨h.1, fun r u => (h.2 r u).bind htrans hnext⟩
  | .tools _ _ _, _, h => ⟨h.1, h.2.1, fun r u => (h.2.2 r u).bind htrans hnext⟩

/-- Turning failures into results keeps to what the computation kept to. -/
theorem Keeps.attempt {Q : World → α → Prop} {G : World → Failure → Prop} :
    {s : Step α} → {w : World} → Keeps R Q F w s →
      Keeps R (fun v r => match r with | .ok a => Q v a | .error f => F v f) G w s.attempt
  | .done _ _, _, h => h
  | .fail _ _, _, h => h
  | .call _ _ _, _, h => ⟨h.1, fun r u => (h.2 r u).attempt⟩
  | .tools _ _ _, _, h => ⟨h.1, h.2.1, fun r u => (h.2.2 r u).attempt⟩

/-- Less may be asked of results and failures. -/
theorem Keeps.weaken {Q P : World → α → Prop} {G : World → Failure → Prop}
    (hresult : ∀ v a, Q v a → P v a) (hfailure : ∀ v f, F v f → G v f) :
    {s : Step α} → {w : World} → Keeps R Q F w s → Keeps R P G w s
  | .done _ _, _, h => ⟨h.1, hresult _ _ h.2⟩
  | .fail _ _, _, h => ⟨h.1, hfailure _ _ h.2⟩
  | .call _ _ _, _, h => ⟨h.1, fun r u => (h.2 r u).weaken hresult hfailure⟩
  | .tools _ _ _, _, h => ⟨h.1, h.2.1, fun r u => (h.2.2 r u).weaken hresult hfailure⟩

/-- Less may be asked of the stretches. -/
theorem Keeps.relax {R' : World → World → Prop} {Q : World → α → Prop} (hstretch : ∀ w v, R w v → R' w v) :
    {s : Step α} → {w : World} → Keeps R Q F w s → Keeps R' Q F w s
  | .done _ _, _, h => ⟨hstretch _ _ h.1, h.2⟩
  | .fail _ _, _, h => ⟨hstretch _ _ h.1, h.2⟩
  | .call _ _ _, _, h => ⟨hstretch _ _ h.1, fun r u => (h.2 r u).relax hstretch⟩
  | .tools _ _ _, _, h => ⟨hstretch _ _ h.1, h.2.1, fun r u => (h.2.2 r u).relax hstretch⟩

end Step
end Workflow.Run
