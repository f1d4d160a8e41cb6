import Workflow.Proofs.Growth

/-!
# Workflow.Proofs.Telling

What a computation logs itself.

While a computation waits, others add to the log as well.  `Step.Tells` is one way
through a computation, with the entries that it has logged itself, in order, and
with nothing of what others have logged meanwhile.

A computation that only adds to the world comes to an end in some way
(`exists_tells`), and what computations in a row log is what each of them logs
(`Tells.bind_cases`).
-/

namespace Workflow.Run

/-! ## Own entries -/

/-- One way in which a computation may go.  Begun in the world `w` it comes to the
result `r` in the world `v`, having logged the entries `es` itself.  While it waits
others may take the world from where it is to anywhere that `A` allows. -/
inductive Step.Tells {α : Type} (A : World → World → Prop) :
    World → Step α → List LogEntry → World → Except Failure α → Prop
  | done {w v a es} (hlog : v.log = w.log ++ es) : Tells A w (.done v a) es v (.ok a)
  | fail {w v f es} (hlog : v.log = w.log ++ es) : Tells A w (.fail v f) es v (.error f)
  | call {w u v x c next reply es fs r} (hlog : v.log = w.log ++ es) (hothers : A v u)
      (hrest : Tells A u (next reply u) fs x r) : Tells A w (.call v c next) (es ++ fs) x r
  | tools {w u v x tasks next values es fs r} (hlog : v.log = w.log ++ es) (hothers : A v u)
      (hrest : Tells A u (next values u) fs x r) : Tells A w (.tools v tasks next) (es ++ fs) x r

/-- Begun in the given world the computation only adds to it. -/
def Step.Adds {α : Type} (s : Step α) (w : World) : Prop := s.Keeps World.Grows (fun _ _ => True) (fun _ _ => True) w

namespace Step

variable {α β : Type} {A : World → World → Prop} {s : Step α} {es : List LogEntry} {w u v : World}
  {r : Except Failure α}

/-- As long as others let it go on a computation comes to an end. -/
theorem exists_tells (hA : ∀ v, ∃ u, A v u) : ∀ (s : Step α) (w : World), s.Adds w → ∃ es v r, Tells A w s es v r
  | .done v _, _, h => by
      obtain ⟨es, hlog, -⟩ := h.1.log
      exact ⟨es, v, _, .done hlog⟩
  | .fail v _, _, h => by
      obtain ⟨es, hlog, -⟩ := h.1.log
      exact ⟨es, v, _, .fail hlog⟩
  | .call v _ next, _, h => by
      obtain ⟨es, hlog, -⟩ := h.1.log
      obtain ⟨u, hu⟩ := hA v
      obtain ⟨fs, x, r, hrest⟩ := exists_tells hA (next default u) u (h.2 default u)
      exact ⟨_, x, r, .call hlog hu hrest⟩
  | .tools v _ next, _, h => by
      obtain ⟨es, hlog, -⟩ := h.1.log
      obtain ⟨u, hu⟩ := hA v
      obtain ⟨fs, x, r, hrest⟩ := exists_tells hA (next default u) u (h.2.2 default u)
      exact ⟨_, x, r, .tools hlog hu hrest⟩

namespace Tells

/-- What is told from an earlier world on begins with what was logged until the later one. -/
theorem since {ds : List LogEntry} (hlog : u.log = w.log ++ ds) (hs : s.Adds u) (h : Tells A w s es v r) :
    ∃ fs, es = ds ++ fs ∧ Tells A u s fs v r := by
  have hsplit : ∀ {x : World} {es : List LogEntry}, u.Grows x → x.log = w.log ++ es →
      ∃ fs, es = ds ++ fs ∧ x.log = u.log ++ fs := by
    intro x es hgrows hx
    obtain ⟨fs, hfs, -⟩ := hgrows.log
    refine ⟨fs, ?_, hfs⟩
    rw [hx, hlog, List.append_assoc] at hfs
    exact List.append_cancel_left hfs
  cases h with
  | done hx =>
      obtain ⟨fs, rfl, hfs⟩ := hsplit hs.1 hx
      exact ⟨fs, rfl, .done hfs⟩
  | fail hx =>
      obtain ⟨fs, rfl, hfs⟩ := hsplit hs.1 hx
      exact ⟨fs, rfl, .fail hfs⟩
  | call hx hothers hrest =>
      obtain ⟨fs, rfl, hfs⟩ := hsplit hs.1 hx
      exact ⟨_, List.append_assoc _ _ _, .call hfs hothers hrest⟩
  | tools hx hothers hrest =>
      obtain ⟨fs, rfl, hfs⟩ := hsplit hs.1 hx
      exact ⟨_, List.append_assoc _ _ _, .tools hfs hothers hrest⟩

/-- Of two computations in a row the first one fails, or the second goes on from
where the first one ends. -/
theorem bind_cases {next : α → Work β} {r : Except Failure β} (hs : s.Adds w) (hnext : ∀ a, (next a).Grows)
    (h : Tells A w (s.bind next) es v r) :
    (∃ f, r = .error f ∧ Tells A w s es v (.error f)) ∨
      ∃ es₁ u a es₂, Tells A w s es₁ u (.ok a) ∧ Tells A u (next a u) es₂ v r ∧ es = es₁ ++ es₂ := by
  induction s generalizing w es with
  | done u a =>
      obtain ⟨es₁, hlog, -⟩ := hs.1.log
      obtain ⟨es₂, rfl, hrest⟩ := h.since hlog (hnext a u)
      exact .inr ⟨es₁, u, a, es₂, .done hlog, hrest, rfl⟩
  | fail u f =>
      cases h with
      | fail hlog => exact .inl ⟨f, rfl, .fail hlog⟩
  | call u c rest ih =>
      cases h with
      | call hlog hothers hrest =>
          obtain ⟨f, rfl, hf⟩ | ⟨es₁, x, a, es₂, h₁, h₂, rfl⟩ := ih _ _ (hs.2 _ _) hrest
          · exact .inl ⟨f, rfl, .call hlog hothers hf⟩
          · exact .inr ⟨_, x, a, es₂, .call hlog hothers h₁, h₂, (List.append_assoc _ _ _).symm⟩
  | tools u tasks rest ih =>
      cases h with
      | tools hlog hothers hrest =>
          obtain ⟨f, rfl, hf⟩ | ⟨es₁, x, a, es₂, h₁, h₂, rfl⟩ := ih _ _ (hs.2.2 _ _) hrest
          · exact .inl ⟨f, rfl, .tools hlog hothers hf⟩
          · exact .inr ⟨_, x, a, es₂, .tools hlog hothers h₁, h₂, (List.append_assoc _ _ _).symm⟩

/-- The end of a computation may depend on whether it fails. -/
theorem attempt_cases {r : Except Failure (Except Failure α)} (h : Tells A w s.attempt es v r) :
    ∃ r', r = .ok r' ∧ Tells A w s es v r' := by
  induction s generalizing w es with
  | done u a =>
      cases h with
      | done hlog => exact ⟨.ok a, rfl, .done hlog⟩
  | fail u f =>
      cases h with
      | done hlog => exact ⟨.error f, rfl, .fail hlog⟩
  | call u c rest ih =>
      cases h with
      | call hlog hothers hrest =>
          obtain ⟨r', rfl, h'⟩ := ih _ _ hrest
          exact ⟨r', rfl, .call hlog hothers h'⟩
  | tools u tasks rest ih =>
      cases h with
      | tools hlog hothers hrest =>
          obtain ⟨r', rfl, h'⟩ := ih _ _ hrest
          exact ⟨r', rfl, .tools hlog hothers h'⟩

theorem of_done {a : α} (h : Tells A w (.done u a) es v r) : u.log = w.log ++ es ∧ v = u ∧ r = .ok a := by
  cases h with
  | done hlog => exact ⟨hlog, rfl, rfl⟩

theorem of_fail {f : Failure} (h : Tells A w (.fail u f) es v r) : u.log = w.log ++ es ∧ v = u ∧ r = .error f := by
  cases h with
  | fail hlog => exact ⟨hlog, rfl, rfl⟩

variable {R : World → World → Prop} {Q : World → α → Prop} {F : World → Failure → Prop}

/-- A computation that fails does so in one of its ways. -/
theorem failure (hs : s.Keeps R Q F w) {f : Failure} (h : Tells A w s es v (.error f)) : F v f := by
  generalize hr : Except.error f = r at h
  induction h with
  | done => cases hr
  | fail =>
      obtain rfl := Except.error.inj hr
      exact hs.2
  | call _ _ _ ih => exact ih (hs.2 _ _) hr
  | tools _ _ _ ih => exact ih (hs.2.2 _ _) hr

/-- What holds of the entries of every stretch holds of all own entries. -/
theorem forall_mem {P : LogEntry → Prop} (hR : ∀ w v es, R w v → v.log = w.log ++ es → ∀ e ∈ es, P e)
    (hs : s.Keeps R Q F w) (h : Tells A w s es v r) : ∀ e ∈ es, P e := by
  induction h with
  | done hlog => exact hR _ _ _ hs.1 hlog
  | fail hlog => exact hR _ _ _ hs.1 hlog
  | call hlog _ _ ih =>
      have hrest := ih (hs.2 _ _)
      exact fun e he => (List.mem_append.mp he).elim (hR _ _ _ hs.1 hlog e) (hrest e)
  | tools hlog _ _ ih =>
      have hrest := ih (hs.2.2 _ _)
      exact fun e he => (List.mem_append.mp he).elim (hR _ _ _ hs.1 hlog e) (hrest e)

end Tells
end Step
end Workflow.Run
