import Mathlib
import Workflow.Proofs.Settling

/-!
# Workflow.Proofs.Courses

Ways in which a computation may go.

A `Step` branches wherever it waits: over what is answered, and over what others
have made of the world meanwhile.  A `Step.Course` is one way through it, from
the world in which it begins to its end.  It tells the executions that the
computation itself has begun on the way, node by node; those that others begin
while it waits do not count.

Every computation has a course (`exists_course`), and the courses of computations
in a row are made of the courses of each of them (`Course.bind_cases`).  So what a
loop does on any of its courses is read off the courses of its parts.
-/

namespace Workflow.Run

/-! ## Executions that have begun -/

/-- How many executions of each node have begun on the way from one world to another. -/
def World.begunTo (w v : World) : Key → ℤ := fun k => (v.rounds k : ℤ) - w.rounds k

namespace World

theorem begunTo_add (w u v : World) : w.begunTo u + u.begunTo v = w.begunTo v := by
  funext k
  simp [begunTo]

theorem begunTo_self (w : World) : w.begunTo w = 0 := by
  funext k
  simp [begunTo]

theorem begunTo_swap (w v : World) : v.begunTo w = -w.begunTo v := by
  funext k
  simp [begunTo]

theorem begunTo_of_remarks {w v : World} {es : List LogEntry} (hlog : v.log = w.log ++ es)
    (hes : ∀ e ∈ es, e.phase.isRemark = true) : w.begunTo v = 0 := by
  funext k
  simp [begunTo, (tally_of_remarks hlog hes k).1]

theorem begunTo_of_whisper {w v : World} (h : Whisper w v) : w.begunTo v = 0 := by
  obtain ⟨es, hlog, hes⟩ := h.log
  exact begunTo_of_remarks hlog hes

theorem begunTo_of_aside {still : Prop} {w v : World} (h : Aside still w v) : w.begunTo v = 0 := by
  obtain ⟨es, hlog, hes⟩ := h.log
  exact begunTo_of_remarks hlog fun e he => (hes e he).1

end World

/-! ## Courses -/

/-- One way in which a computation may go.  Begun in the world `w` it comes to the
result `r` in the world `v`, having begun so many executions of each node itself.
While it waits others may take the world from where it is to anywhere that `A` allows. -/
inductive Step.Course {α : Type} (A : World → World → Prop) :
    World → Step α → (Key → ℤ) → World → Except Failure α → Prop
  | done {w v a} : Course A w (.done v a) (w.begunTo v) v (.ok a)
  | fail {w v f} : Course A w (.fail v f) (w.begunTo v) v (.error f)
  | call {w u v x c next reply d r} : A v u → Course A u (next reply u) d x r →
      Course A w (.call v c next) (w.begunTo v + d) x r
  | tools {w u v x tasks next values d r} : A v u → Course A u (next values u) d x r →
      Course A w (.tools v tasks next) (w.begunTo v + d) x r

namespace Step

variable {α β : Type} {A : World → World → Prop} {s : Step α} {d : Key → ℤ} {w u v : World}
  {r : Except Failure α}

/-- As long as others let it go on a computation comes to an end. -/
theorem exists_course (hA : ∀ v, ∃ u, A v u) : ∀ (s : Step α) (w : World), ∃ d v r, Course A w s d v r
  | .done _ _, _ => ⟨_, _, _, .done⟩
  | .fail _ _, _ => ⟨_, _, _, .fail⟩
  | .call v _ next, _ => by
      obtain ⟨u, hu⟩ := hA v
      obtain ⟨d, x, r, h⟩ := exists_course hA (next default u) u
      exact ⟨_, x, r, .call hu h⟩
  | .tools v _ next, _ => by
      obtain ⟨u, hu⟩ := hA v
      obtain ⟨d, x, r, h⟩ := exists_course hA (next default u) u
      exact ⟨_, x, r, .tools hu h⟩

namespace Course

/-- A course may be told from an earlier world on. -/
theorem after (u : World) (h : Course A w s d v r) : Course A u s (u.begunTo w + d) v r := by
  cases h with
  | done => rw [World.begunTo_add]; exact .done
  | fail => rw [World.begunTo_add]; exact .fail
  | call hu hnext => rw [← add_assoc, World.begunTo_add]; exact .call hu hnext
  | tools hu hnext => rw [← add_assoc, World.begunTo_add]; exact .tools hu hnext

/-- Of two computations in a row the first one fails, or the second goes on from
where the first one ends. -/
theorem bind_cases {next : α → Work β} {r : Except Failure β} (h : Course A w (s.bind next) d v r) :
    (∃ f, r = .error f ∧ Course A w s d v (.error f)) ∨
      ∃ d₁ u a d₂, Course A w s d₁ u (.ok a) ∧ Course A u (next a u) d₂ v r ∧ d = d₁ + d₂ := by
  induction s generalizing w d with
  | done u a => exact .inr ⟨_, u, a, _, .done, h.after u, by rw [← add_assoc, World.begunTo_add,
      World.begunTo_self, zero_add]⟩
  | fail u f =>
      cases h
      exact .inl ⟨f, rfl, .fail⟩
  | call u c rest ih =>
      cases h with
      | call hu hrest =>
          obtain ⟨f, rfl, hf⟩ | ⟨d₁, x, a, d₂, h₁, h₂, rfl⟩ := ih _ _ hrest
          · exact .inl ⟨f, rfl, .call hu hf⟩
          · exact .inr ⟨_, x, a, d₂, .call hu h₁, h₂, (add_assoc _ _ _).symm⟩
  | tools u tasks rest ih =>
      cases h with
      | tools hu hrest =>
          obtain ⟨f, rfl, hf⟩ | ⟨d₁, x, a, d₂, h₁, h₂, rfl⟩ := ih _ _ hrest
          · exact .inl ⟨f, rfl, .tools hu hf⟩
          · exact .inr ⟨_, x, a, d₂, .tools hu h₁, h₂, (add_assoc _ _ _).symm⟩

/-- The end of a computation may depend on whether it fails. -/
theorem attempt_cases {r : Except Failure (Except Failure α)} (h : Course A w s.attempt d v r) :
    ∃ r', r = .ok r' ∧ Course A w s d v r' := by
  induction s generalizing w d with
  | done u a =>
      cases h
      exact ⟨.ok a, rfl, .done⟩
  | fail u f =>
      cases h
      exact ⟨.error f, rfl, .fail⟩
  | call u c rest ih =>
      cases h with
      | call hu hrest =>
          obtain ⟨r', rfl, h'⟩ := ih _ _ hrest
          exact ⟨r', rfl, .call hu h'⟩
  | tools u tasks rest ih =>
      cases h with
      | tools hu hrest =>
          obtain ⟨r', rfl, h'⟩ := ih _ _ hrest
          exact ⟨r', rfl, .tools hu h'⟩

variable {R : World → World → Prop} {Q : World → α → Prop} {F : World → Failure → Prop}

/-- A computation begins no execution if none of its stretches does. -/
theorem begun_eq_zero (hs : s.Keeps R Q F w) (hR : ∀ w v, R w v → w.begunTo v = 0) (h : Course A w s d v r) :
    d = 0 := by
  induction h with
  | done => exact hR _ _ hs.1
  | fail => exact hR _ _ hs.1
  | call hu _ ih => rw [hR _ _ hs.1, ih (hs.2 _ _), add_zero]
  | tools hu _ ih => rw [hR _ _ hs.1, ih (hs.2.2 _ _), add_zero]

/-- Where others keep to what the computation keeps to, so does the course. -/
theorem keeps (hs : s.Keeps R Q F w) (htrans : ∀ u v w, R u v → R v w → R u w) (hA : ∀ w v, A w v → R w v)
    (h : Course A w s d v r) : R w v := by
  induction h with
  | done => exact hs.1
  | fail => exact hs.1
  | call hu _ ih => exact htrans _ _ _ hs.1 (htrans _ _ _ (hA _ _ hu) (ih (hs.2 _ _)))
  | tools hu _ ih => exact htrans _ _ _ hs.1 (htrans _ _ _ (hA _ _ hu) (ih (hs.2.2 _ _)))

/-- A course that fails does so in one of the ways of the computation. -/
theorem failure (hs : s.Keeps R Q F w) {f : Failure} (h : Course A w s d v (.error f)) : F v f := by
  generalize hr : Except.error f = r at h
  induction h with
  | done => cases hr
  | fail =>
      obtain rfl := Except.error.inj hr
      exact hs.2
  | call _ _ ih => exact ih (hs.2 _ _) hr
  | tools _ _ ih => exact ih (hs.2.2 _ _) hr

/-! ## Small computations -/

theorem of_done {a : α} (h : Course A w (.done u a) d v r) : d = w.begunTo u ∧ v = u ∧ r = .ok a := by
  cases h
  exact ⟨rfl, rfl, rfl⟩

theorem of_fail {f : Failure} (h : Course A w (.fail u f) d v r) : d = w.begunTo u ∧ v = u ∧ r = .error f := by
  cases h
  exact ⟨rfl, rfl, rfl⟩

end Course
end Step
end Workflow.Run
