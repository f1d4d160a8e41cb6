/-!
# Workflow.Proofs.Results

Computations that give a result or fail.

A computation with two parts gives a result if both do, and fails with the first
of them that fails; folding and sifting a list fail at an item.
-/

namespace Workflow

variable {α β ε ε' : Type} {x : Except ε α} {f : α → Except ε β}

/-! ## Results -/

theorem isOk_iff : x.isOk = true ↔ ∃ a, x = .ok a := by
  cases x with
  | ok a => exact ⟨fun _ => ⟨a, rfl⟩, fun _ => rfl⟩
  | error e => exact ⟨nofun, nofun⟩

theorem isOk_map (g : α → β) (x : Except ε α) : (x.map g).isOk = x.isOk := by
  cases x <;> rfl

theorem isOk_pure (a : α) : (pure a : Except ε α).isOk = true := rfl

theorem isOk_bind : (x >>= f).isOk = true ↔ ∃ a, x = .ok a ∧ (f a).isOk = true := by
  cases x with
  | ok a => exact ⟨fun h => ⟨a, rfl, h⟩, fun ⟨_, ha, h⟩ => Except.ok.inj ha ▸ h⟩
  | error e => exact ⟨nofun, nofun⟩

/-- A computation with two parts has a result if both have. -/
theorem bind_ok {b : β} (h : x >>= f = .ok b) : ∃ a, x = .ok a ∧ f a = .ok b := by
  cases x with
  | error e => cases h
  | ok a => exact ⟨a, rfl, h⟩

theorem mapError_ok {g : ε → ε'} {a : α} (h : x.mapError g = .ok a) : x = .ok a := by
  cases x with
  | error e => cases h
  | ok b =>
      cases h
      rfl

/-! ## Failures -/

theorem bind_error_iff {e : ε} : (x >>= f) = .error e ↔ x = .error e ∨ ∃ a, x = .ok a ∧ f a = .error e := by
  cases x with
  | error e' => simp [bind, Except.bind]
  | ok a => simp [bind, Except.bind]

theorem map_error_iff {g : α → β} {e : ε} : x.map g = .error e ↔ x = .error e := by
  cases x <;> simp [Except.map]

theorem mapError_error {g : ε → ε'} {e : ε'} (h : x.mapError g = .error e) : ∃ e', e = g e' := by
  cases x with
  | error e' => exact ⟨e', (Except.error.inj h).symm⟩
  | ok b => cases h

/-! ## Lists -/

/-- A fold fails at the first item that fails. -/
theorem foldlM_error_iff {e : ε} {step : β → α → Except ε β} {b : β} {xs : List α} :
    xs.foldlM step b = .error e ↔ ∃ before x after b',
      xs = before ++ x :: after ∧ before.foldlM step b = .ok b' ∧ step b' x = .error e := by
  induction xs generalizing b with
  | nil => simp [List.foldlM, pure, Except.pure]
  | cons x xs ih =>
    rw [List.foldlM_cons, bind_error_iff]
    constructor
    · rintro (hx | ⟨b', hx, hxs⟩)
      · exact ⟨[], x, xs, b, rfl, rfl, hx⟩
      · obtain ⟨before, y, after, b'', rfl, hbefore, hy⟩ := ih.mp hxs
        exact ⟨x :: before, y, after, b'', rfl, by rw [List.foldlM_cons, hx]; exact hbefore, hy⟩
    · rintro ⟨before, y, after, b'', hsplit, hbefore, hy⟩
      cases before with
      | nil =>
        obtain ⟨rfl, rfl⟩ := List.cons.inj hsplit
        cases hbefore
        exact .inl hy
      | cons z before =>
        obtain ⟨rfl, rfl⟩ := List.cons.inj hsplit
        rw [List.foldlM_cons] at hbefore
        cases hx : step b x with
        | error e' => rw [hx] at hbefore; cases hbefore
        | ok b' =>
          rw [hx] at hbefore
          exact .inr ⟨b', rfl, ih.mpr ⟨before, y, after, b'', rfl, hbefore, hy⟩⟩

section

variable {test : α → Except ε Bool} {as : List α}

/-- Sifting with a test that always has an answer is filtering by the answers. -/
theorem filterM_ok {p : α → Bool} (h : ∀ a ∈ as, test a = .ok (p a)) : as.filterM test = .ok (as.filter p) := by
  have haux : ∀ acc, List.filterAuxM test as acc = .ok ((as.filter p).reverse ++ acc) := by
    induction as with
    | nil => exact fun acc => rfl
    | cons a as ih =>
        obtain ⟨ha, has⟩ := List.forall_mem_cons.mp h
        intro acc
        rw [List.filterAuxM, ha]
        cases hp : p a with
        | true => simpa [hp, bind, Except.bind] using ih has (a :: acc)
        | false => simpa [hp, bind, Except.bind] using ih has acc
  rw [List.filterM, haux []]
  simp [bind, Except.bind, pure, Except.pure]

/-- Sifting stops at the first test that has no answer. -/
theorem filterM_error {e : ε} {a : α} (h : test a = .error e) (as : List α) : (a :: as).filterM test = .error e := by
  rw [List.filterM, List.filterAuxM, h]
  rfl

/-- Where sifting fails, the test of one of the items does. -/
theorem exists_error_of_filterM {e : ε} (h : as.filterM test = .error e) : ∃ a ∈ as, test a = .error e := by
  have haux : ∀ acc, List.filterAuxM test as acc = .error e → ∃ a ∈ as, test a = .error e := by
    clear h
    induction as with
    | nil => exact fun acc h => by cases h
    | cons a as ih =>
        intro acc h
        rw [List.filterAuxM, bind_error_iff] at h
        rcases h with ha | ⟨b, -, h⟩
        · exact ⟨a, List.mem_cons_self, ha⟩
        · obtain ⟨a', ha', herror⟩ := ih _ h
          exact ⟨a', List.mem_cons_of_mem _ ha', herror⟩
  rw [List.filterM, bind_error_iff] at h
  rcases h with h | ⟨bs, -, h⟩
  · exact haux [] h
  · cases h

end

end Workflow
