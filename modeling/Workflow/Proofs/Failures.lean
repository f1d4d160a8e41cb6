import Workflow.Proofs.Runs

/-!
# Workflow.Proofs.Failures

Runs in which every dispatch succeeds.

A failure is under way where an event passes it on, or where it has ended the
run (`Machine.failures`).  In the middle of a step it may be in hand.  A failure
that a visit ends with is told on by the same step, so if none is under way
after the step, none was in hand meanwhile (`unfailing_induct`).

A visit fails with its dispatch, or because nobody can tell how many branches
its node waits for.  Where payloads are mappings the latter does not happen, and
then a run whose dispatches succeed has no failures at all (`unfailing`).
-/

namespace Workflow.Run

open Machine

variable {σ : Type}

/-! ## Failures under way -/

/-- The failure that an event passes on. -/
def Event.failure? : Event → Option Failure
  | .ended _ failure => failure
  | _ => none

/-- The failure in hand. -/
def Hand.failure? : Hand → Option Failure
  | .holds e => e.failure?
  | .works _ (.fail _ f) => some f
  | .ends _ failure => failure
  | _ => none

/-- The failure in hand, unless it has just come up in the work of a visit. -/
def Hand.passes? : Hand → Option Failure
  | .holds e => e.failure?
  | .ends _ failure => failure
  | _ => none

/-- The failures that visits have ended with and nobody has dealt with yet, and
the one that has ended the run. -/
def Machine.failures (m : Machine σ) : List Failure :=
  m.ready.filterMap Event.failure? ++ match m.outcome with
    | some (.error f) => [f]
    | _ => []

/-- A failure is in hand or under way. -/
def Failed (h : Hand) (m : Machine σ) : Prop := h.failure?.isSome ∨ m.failures ≠ []

section

variable {s : Setup σ} {start : Node} {h h' : Hand} {m m' : Machine σ}

theorem failures_of_running (houtcome : m.outcome = none) : m.failures = m.ready.filterMap Event.failure? := by
  unfold Machine.failures
  rw [houtcome]
  exact List.append_nil _

theorem checkStalled_ready (plan : Plan) (hkeys : (m.joins.map (·.id.key)).Nodup) :
    ∃ ts : List Nat, (m.checkStalled plan).ready = m.ready ++ ts.map .pass := by
  obtain ⟨records, heq⟩ := checkStalled_eq plan hkeys
  rw [heq]
  split
  · exact ⟨[], (List.append_nil _).symm⟩
  · refine ⟨(closed m.joins).flatMap (·.parked), ?_⟩
    rw [List.map_flatMap]
    rfl

theorem turnAway_ready (plan : Plan) (hkeys : (m.joins.map (·.id.key)).Nodup) (j : Join) :
    ∃ ts : List Nat, (m.turnAway plan j).ready = m.ready ++ ts.map .pass := by
  have hset : (m.setJoin j).ready = m.ready := by rw [setJoin_eq]
  have hkeys' : (((m.setJoin j).addActive (-1)).joins.map (·.id.key)).Nodup := by
    have hput := keys_putJoin_nodup hkeys j
    rw [setJoin_eq]
    exact hput
  obtain ⟨ts, hts⟩ := checkStalled_ready plan hkeys'
  exact ⟨ts, hts.trans (congrArg (· ++ _) hset)⟩

theorem wake_ready (m : Machine σ) (j : Join) : ∃ ts : List Nat, (m.wake j).ready = m.ready ++ ts.map .pass := by
  rw [wake_eq]
  unfold freed
  split
  · exact ⟨j.parked, rfl⟩
  · exact ⟨[], rfl⟩

/-- Does the event report an answer, or the end of a visit? -/
def Event.reports : Event → Bool
  | .answer _ _ | .ended _ _ => true
  | _ => false

/-- Moves only add to the queue, but no answers, and that a visit has ended is told
only as it ends. -/
theorem Move.ready (hmove : Move s h m h' m') (htokens : Tokens h m) :
    ∃ es, m'.ready = m.ready ++ es ∧ (∀ t outcome, .answer t outcome ∉ es) ∧ ∀ p failure, .ended p failure ∈ es →
      ∃ t id stage, h = .ends t failure ∧ m.Visits t id (some p) stage := by
  have hkeys := htokens.keys
  have hquiet : ∀ {es : List Event}, (∀ e ∈ es, e.reports = false) → (∀ t outcome, .answer t outcome ∉ es) ∧
      ∀ p failure, .ended p failure ∈ es → ∃ t id stage, h = .ends t failure ∧ m.Visits t id (some p) stage :=
    fun hes => ⟨fun t outcome hmem => (Bool.noConfusion (hes _ hmem)), fun p failure hmem => (Bool.noConfusion (hes _ hmem))⟩
  have hsame : m'.ready = m.ready → ∃ es, m'.ready = m.ready ++ es ∧ (∀ t outcome, .answer t outcome ∉ es) ∧
      ∀ p failure, .ended p failure ∈ es → ∃ t id stage, h = .ends t failure ∧ m.Visits t id (some p) stage :=
    fun heq => ⟨[], by rw [heq, List.append_nil], hquiet (List.forall_mem_nil _)⟩
  have hpasses : ∀ ts : List Nat, ∀ e ∈ ts.map Event.pass, e.reports = false := fun ts =>
    List.forall_mem_map.mpr fun _ _ => rfl
  have hstarts : ∀ (ts : List Nat) (f : Nat → Nat), ∀ e ∈ ts.map fun i => Event.start (f i), e.reports = false :=
    fun ts f => List.forall_mem_map.mpr fun _ _ => rfl
  cases hmove with
  | @release _ t id _ _ required gate =>
      obtain ⟨ts, hts⟩ := wake_ready m { m.join id required with gate }
      exact ⟨_, hts, hquiet (hpasses ts)⟩
  | @park _ t id _ _ required gate =>
      obtain ⟨ts, hts⟩ := turnAway_ready s.plan hkeys { m.join id required with gate }
      exact ⟨_, hts, hquiet (hpasses ts)⟩
  | @turn _ t id _ _ required gate =>
      obtain ⟨ts, hts⟩ := turnAway_ready s.plan hkeys { m.join id required with gate }
      exact ⟨_, hts, hquiet (hpasses ts)⟩
  | @tell _ t id parent stage failure hvisits =>
      obtain ⟨ts, hts⟩ := checkStalled_ready s.plan (m := m.addActive (-1)) hkeys
      refine ⟨ts.map .pass ++ [.ended parent failure], ?_, fun t outcome hmem => ?_, fun p failure' hmem => ?_⟩
      · rw [← List.append_assoc]
        exact congrArg (· ++ [Event.ended parent failure]) hts
      · rcases List.mem_append.mp hmem with hmem | hmem
        · exact Bool.noConfusion (hpasses ts _ hmem)
        · cases List.mem_singleton.mp hmem
      · rcases List.mem_append.mp hmem with hmem | hmem
        · exact Bool.noConfusion (hpasses ts _ hmem)
        · cases List.mem_singleton.mp hmem
          exact ⟨t, id, stage, rfl, hvisits⟩
  | @conclude _ t id stage failure =>
      obtain ⟨ts, hts⟩ := checkStalled_ready s.plan (m := m.addActive (-1)) hkeys
      have hconclude : (((m.addActive (-1)).checkStalled s.plan).conclude failure).ready =
          ((m.addActive (-1)).checkStalled s.plan).ready := by
        cases failure <;> rfl
      exact ⟨_, hconclude.trans hts, hquiet (hpasses ts)⟩
  | @spread _ t _ _ _ n w v =>
      generalize s.plan.graph.targets n (w.look (selectedHandle v)) = ids
      exact ⟨_, rfl, hquiet (hstarts _ _)⟩
  | tools => exact ⟨_, rfl, hquiet (hstarts _ _)⟩
  | toolError | toolReply | toolAnswer => exact ⟨_, rfl, hquiet (List.forall_mem_singleton.mpr rfl)⟩
  | _ => exact hsame rfl

/-! ## Failures do not get lost -/

/-- A failure in hand, once its event has been taken up, is not lost by a move. -/
theorem Failed.move (hmove : Move s h m h' m') (hsound : Sound s start h m) (hempty : h.event? = none)
    (hfailed : Failed h m) : Failed h' m' := by
  have hrunning : m.outcome = none := hsound.gated.outcome (by rintro rfl; cases hmove)
  obtain ⟨es, hready, _⟩ := hmove.ready hsound.tokens
  have hkept : m.failures ≠ [] → Failed h' m' := by
    intro hsome
    refine .inr fun hnone => hsome ?_
    unfold Machine.failures at hnone
    rw [failures_of_running hrunning]
    rw [hready, List.filterMap_append, List.append_assoc] at hnone
    exact (List.append_eq_nil_iff.mp hnone).1
  rcases hfailed with hhand | hsome
  · cases hmove with
    | fail => exact .inl rfl
    | @tell _ t id parent stage failure =>
        obtain ⟨f, rfl⟩ := Option.isSome_iff_exists.mp hhand
        refine .inr fun hnone => ?_
        have hmem : f ∈ (((m.addActive (-1)).checkStalled s.plan).push [.ended parent (some f)]).failures :=
          List.mem_append.mpr (.inl (List.mem_filterMap.mpr
            ⟨.ended parent (some f), List.mem_append.mpr (.inr List.mem_cons_self), rfl⟩))
        rw [hnone] at hmem
        cases hmem
    | @conclude _ t id stage failure =>
        obtain ⟨f, rfl⟩ := Option.isSome_iff_exists.mp hhand
        refine .inr fun hnone => ?_
        have hlast := (List.append_eq_nil_iff.mp hnone).2
        cases hlast
    | spread | stop | reply | call | noTools | tools => cases hhand
    | _ => cases hempty
  · exact hkept hsome

/-- What every move preserves as long as no failure is in hand or under way,
every step preserves that leaves none under way.  A move may look at the moves
that follow it. -/
theorem unfailing_induct {I : Hand → Machine σ → Prop} (hdispatch : KeptDispatch s) (hsound : Sound s start .idle m)
    (hbefore : m.failures = []) (hafter : m'.failures = [])
    (htake : ∀ {e m₁}, Takes m e m₁ → Sound s start (.holds e) m₁ → ¬Failed (.holds e) m₁ → I (.holds e) m₁)
    (hmove : ∀ {h₁ m₁ h₂ m₂}, Move s h₁ m₁ h₂ m₂ → Moves s h₂ m₂ m' → Sound s start h₁ m₁ → ¬Failed h₁ m₁ →
      ¬Failed h₂ m₂ → I h₁ m₁ → I h₂ m₂)
    (hstep : step s m = some m') : I .idle m' := by
  obtain ⟨e, m₁, htakes, hmoves⟩ := takes_of_step hsound.shape.plain hstep
  have hrun : ∀ {h m}, Moves s h m m' → Sound s start h m →
      (h.event? = none → ¬Failed h m) ∧ (¬Failed h m → I h m → I .idle m') := by
    intro h m hmoves
    generalize hlast : m' = last at hmoves
    induction hmoves with
    | idle =>
        subst hlast
        refine fun _ => ⟨fun _ hfailed => ?_, fun _ h => h⟩
        rcases hfailed with hfalse | hsome
        · cases hfalse
        · exact hsome hafter
    | move hfirst hmoves ih =>
        subst hlast
        intro hsound
        obtain ⟨hlast, hrest⟩ := ih rfl (hsound.move hfirst hdispatch)
        have hnot := hlast hfirst.empty
        exact ⟨fun hempty hfailed => hnot (hfailed.move hfirst hsound hempty),
          fun hok hI => hrest hnot (hmove hfirst hmoves hsound hok hnot hI)⟩
  have htaken : ¬Failed (.holds e) m₁ := by
    rintro (hhand | hsome)
    · cases htakes with
      | @next _ _ _ hready =>
          obtain ⟨f, hf⟩ := Option.isSome_iff_exists.mp hhand
          have hmem : f ∈ m.failures :=
            List.mem_append.mpr (.inl (List.mem_filterMap.mpr ⟨e, hready ▸ List.mem_cons_self, hf⟩))
          rw [hbefore] at hmem
          cases hmem
      | tick => cases hhand
    · refine hsome ?_
      rw [failures_of_running htakes.outcome.1] at hbefore
      rw [failures_of_running htakes.outcome.2]
      cases htakes with
      | next _ hready =>
          rw [hready] at hbefore
          exact List.filterMap_eq_nil_iff.mpr fun e' he' =>
            List.filterMap_eq_nil_iff.mp hbefore e' (List.mem_cons_of_mem _ he')
      | tick => exact hbefore
  have hsound₁ := hsound.takes htakes
  exact (hrun hmoves hsound₁).2 htaken (htake htakes hsound₁ htaken)

end

/-! ## Where failures come from -/

section

variable {s : Setup σ} {start : Node} {h h' : Hand} {m m' : Machine σ} {e : Event} {f : Failure}

theorem mem_failures :
    f ∈ m.failures ↔ (∃ p, .ended p (some f) ∈ m.ready) ∨ m.outcome = some (.error f) := by
  unfold Machine.failures
  rw [List.mem_append, List.mem_filterMap]
  refine or_congr ⟨?_, ?_⟩ ?_
  · rintro ⟨e, he, hf⟩
    cases e with
    | ended p failure =>
        cases hf
        exact ⟨p, he⟩
    | _ => cases hf
  · rintro ⟨p, he⟩
    exact ⟨_, he, rfl⟩
  · rcases m.outcome with _ | _ | _
    · simp
    · simp [eq_comm]
    · simp

/-- A failure in hand is on its way, or it has just come up in the work of a visit. -/
theorem Hand.failure?_cases (hf : h.failure? = some f) : h.passes? = some f ∨ ∃ t w, h = .works t (.fail w f) := by
  cases h with
  | works t work =>
      cases work with
      | fail w f' =>
          cases hf
          exact .inr ⟨t, w, rfl⟩
      | _ => cases hf
  | _ => exact .inl hf

/-- A failure that is taken in hand was in the queue. -/
theorem Takes.failures (htakes : Takes m e m') (hf : (Hand.holds e).passes? = some f ∨ f ∈ m'.failures) :
    f ∈ m.failures := by
  have hqueue : ∀ p, .ended p (some f) ∈ m'.ready → f ∈ m.failures := by
    intro p hmem
    cases htakes with
    | next _ hready => exact mem_failures.mpr (.inl ⟨p, hready ▸ List.mem_cons_of_mem _ hmem⟩)
    | tick => exact mem_failures.mpr (.inl ⟨p, hmem⟩)
  rcases hf with hhand | hmem
  · cases e with
    | ended p failure =>
        cases hhand
        cases htakes with
        | next _ hready => exact mem_failures.mpr (.inl ⟨p, hready ▸ List.mem_cons_self⟩)
    | _ => cases hhand
  · rcases mem_failures.mp hmem with ⟨p, hmem⟩ | houtcome
    · exact hqueue p hmem
    · rw [htakes.outcome.2] at houtcome
      cases houtcome

/-- A failure that is told of or ends the run was in hand or under way before. -/
theorem Move.failures (hmove : Move s h m h' m') (hsound : Sound s start h m) (hf : f ∈ m'.failures) :
    h.failure? = some f ∨ f ∈ m.failures := by
  have hrunning : m.outcome = none := hsound.gated.outcome (by rintro rfl; cases hmove)
  rcases mem_failures.mp hf with ⟨p, hmem⟩ | houtcome
  · obtain ⟨es, hready, _, hended⟩ := hmove.ready hsound.tokens
    rw [hready] at hmem
    rcases List.mem_append.mp hmem with hmem | hmem
    · exact .inr (mem_failures.mpr (.inl ⟨p, hmem⟩))
    · obtain ⟨t, id, stage, rfl, _⟩ := hended p (some f) hmem
      exact .inl rfl
  · rcases Gated.outcome_move hmove hsound.tokens with hsame | ⟨t, id, stage, failure, rfl, _, _, rfl⟩
    · rw [hsame, hrunning] at houtcome
      cases houtcome
    · cases failure with
      | none => cases houtcome
      | some f' =>
          cases houtcome
          exact .inl rfl

/-- A visit that ends with a failure passes on the one in hand, or nobody can
tell how many branches its node waits for. -/
theorem Move.passes (hmove : Move s h m h' m') (hf : h'.passes? = some f) :
    h.failure? = some f ∨
      ∃ t k fault, h' = .ends t (some f) ∧ s.plan.graph.required k = .error fault ∧ f = .own (.fault fault) := by
  cases h' with
  | holds e => cases hmove.empty
  | ends t failure =>
      cases hf
      cases hmove with
      | refuse _ _ hfault => exact .inr ⟨t, _, _, rfl, hfault, rfl⟩
      | resume | fail => exact .inl rfl
  | _ => cases hf

end

/-! ## Runs without failures -/

/-- All failures in hand or under way are those of dispatches. -/
def Dispatched (h : Hand) (m : Machine σ) : Prop :=
  (∀ f, h.failure? = some f → Execute.DispatchFailure f) ∧ ∀ f ∈ m.failures, Execute.DispatchFailure f

section

variable {s : Setup σ} {start : Node} {h h' : Hand} {m m' : Machine σ} {e : Event}

theorem Dispatched.takes (htakes : Takes m e m') (hdispatched : Dispatched .idle m) : Dispatched (.holds e) m' :=
  ⟨fun f hf => hdispatched.2 f (htakes.failures (.inl hf)), fun f hf => hdispatched.2 f (htakes.failures (.inr hf))⟩

/-- Where every join knows how many branches it waits for, only dispatches fail. -/
theorem Dispatched.move (hmove : Move s h m h' m') (hdispatch : KeptDispatch s) (hsound : Sound s start h m)
    (hrequired : ∀ k, ∃ r, s.plan.graph.required k = .ok r) (hdispatched : Dispatched h m) : Dispatched h' m' := by
  have hsound' := hsound.move hmove hdispatch
  refine ⟨fun f hf => ?_, fun f hf => (hmove.failures hsound hf).elim (hdispatched.1 f) (hdispatched.2 f)⟩
  rcases Hand.failure?_cases hf with hpasses | ⟨t, w, rfl⟩
  · rcases hmove.passes hpasses with hhand | ⟨_, k, fault, _, hfault, _⟩
    · exact hdispatched.1 f hhand
    · obtain ⟨r, hr⟩ := hrequired k
      cases hfault.symm.trans hr
  · obtain ⟨id, parent, hvisits⟩ := hsound'.shape.hand t rfl
    exact (hsound'.keeping.works rfl hvisits).2

end

namespace Launch

/-- Every dispatch succeeds: no visit ever ends with the failure of one. -/
def Succeeds (l : Launch σ) : Prop := ∀ k, ∀ f ∈ (l.state k).failures, ¬Execute.DispatchFailure f

/-- Where payloads are mappings and every dispatch succeeds, there are no
failures at all. -/
theorem unfailing (l : Launch σ) (hrequired : ∀ k, ∃ r, l.graph.required k = .ok r) (hsucceeds : l.Succeeds) (k : Nat) :
    (l.state k).failures = [] := by
  have hdispatched : ∀ k, Dispatched .idle (l.state k) := by
    intro k
    induction k with
    | zero => exact ⟨(fun f hf => by cases hf), fun f hf => absurd hf List.not_mem_nil⟩
    | succ k ih =>
        rw [l.state_succ]
        cases hstep : step l.setup (l.state k) with
        | none => exact ih
        | some m' =>
            have hboth := step_induct (I := fun h m => Sound l.setup l.start h m ∧ Dispatched h m)
              (fun h => h.1.shape.plain) (fun htakes h => ⟨h.1.takes htakes, h.2.takes htakes⟩)
              (fun hmove h => ⟨h.1.move hmove l.keptDispatch, h.2.move hmove l.keptDispatch h.1 hrequired⟩)
              hstep ⟨l.sound k, ih⟩
            exact hboth.2
  exact List.eq_nil_iff_forall_not_mem.mpr fun f hf => hsucceeds k f hf ((hdispatched k).2 f hf)

/-- What holds at first, and is preserved by every move of a run without
failures, holds in every state of it. -/
theorem unfailing_induct (l : Launch σ) (hnone : ∀ k, (l.state k).failures = []) {I : Hand → Machine σ → Prop}
    (hfirst : I .idle l.first)
    (htake : ∀ {m e m₁}, Takes m e m₁ → Sound l.setup l.start .idle m → I .idle m → I (.holds e) m₁)
    (hmove : ∀ {h₁ m₁ h₂ m₂}, Move l.setup h₁ m₁ h₂ m₂ → Sound l.setup l.start h₁ m₁ → ¬Failed h₁ m₁ →
      ¬Failed h₂ m₂ → I h₁ m₁ → I h₂ m₂) (k : Nat) : I .idle (l.state k) := by
  induction k with
  | zero => exact hfirst
  | succ k ih =>
      have hafter := hnone (k + 1)
      rw [l.state_succ] at hafter ⊢
      cases hstep : step l.setup (l.state k) with
      | none => exact ih
      | some m' =>
          rw [hstep] at hafter
          exact Run.unfailing_induct l.keptDispatch (l.sound k) (hnone k) hafter
            (fun htakes _ _ => htake htakes (l.sound k) ih) (fun h _ => hmove h) hstep

end Launch
end Workflow.Run
