import Workflow.Proofs.Debts

/-!
# Workflow.Proofs.Doom

A failure that is under way ends the run.

A failure is passed from visit to visit, and each of them must still be there to
take it.  Those above a visit that has failed are all waiting (`Climbs`), and none
of them goes on before it has heard of the visit below it, so either this failure
or an earlier one reaches the first visit (`Doom.move`).  Meanwhile an event is in
the queue all the time, so the clock stands still.
-/

namespace Workflow.Run

open Machine

variable {σ : Type}

/-- The visit waits for others, and so do all above it. -/
inductive Climbs (m : Machine σ) : Nat → Prop
  | root {p id n} : m.Visits p id none (.waiting n) → Climbs m p
  | up {p id q n} : m.Visits p id (some q) (.waiting n) → Climbs m q → Climbs m p

/-- All visits above the given one wait. -/
def Borne (m : Machine σ) (t : Nat) : Prop := ∀ id p stage, m.Visits t id (some p) stage → Climbs m p

/-- A failure has ended the run, or is on its way up. -/
inductive Doom (h : Hand) (m : Machine σ) : Prop
  | concluded {f} : m.outcome = some (.error f) → Doom h m
  | told {p f} : m.outcome = none → .ended p (some f) ∈ pending h m → Climbs m p → Doom h m
  | ends {t f} : m.outcome = none → h = .ends t (some f) → Borne m t → Doom h m

section

variable {s : Setup σ} {start : Node} {h h' : Hand} {m m' : Machine σ} {p t : Nat} {id : NodeId} {parent : Option Nat}
  {stage : Stage} {n : Nat}

/-! ## Visits that wait -/

theorem Climbs.waits (h : Climbs m p) : ∃ id parent n, m.Visits p id parent (.waiting n) := by
  cases h with
  | root hp => exact ⟨_, _, _, hp⟩
  | up hp _ => exact ⟨_, _, _, hp⟩

theorem Climbs.of_tasks (h : Climbs m p) (htasks : m'.tasks = m.tasks) : Climbs m' p := by
  induction h with
  | root hp => exact .root (hp.of_tasks htasks)
  | up hp _ ih => exact .up (hp.of_tasks htasks) ih

/-- A visit that waits goes on waiting until it is told that one it began has ended. -/
theorem Move.waiting (hmove : Move s h m h' m') (hshape : Shape s.plan.graph start h m) (htokens : Tokens h m)
    (hvisits : m.Visits p id parent (.waiting n)) :
    (∃ n', m'.Visits p id parent (.waiting n')) ∨
    ∃ failure, h = .holds (.ended p failure) ∧ h' = .ends p failure ∧ (failure.isSome ∨ n ≤ 1) := by
  obtain ⟨_, hu, hre⟩ := hmove.restage hshape htokens hvisits
  cases hre with
  | other | late | count => exact .inl ⟨_, hu⟩
  | resume hlast => exact .inr ⟨_, rfl, rfl, hlast⟩

/-- A line of waiting visits stays as it is, or one of them goes on, while those
above it stay; it has heard of an end, and if it is not the lowest one, the one
below it is still waiting. -/
theorem Climbs.move (hclimbs : Climbs m p) (hmove : Move s h m h' m') (hshape : Shape s.plan.graph start h m)
    (htokens : Tokens h m) :
    Climbs m' p ∨ ∃ q id parent n failure, m.Visits q id parent (.waiting n) ∧ h = .holds (.ended q failure) ∧
      h' = .ends q failure ∧ (failure.isSome ∨ n ≤ 1) ∧ (∀ r, parent = some r → Climbs m' r) ∧
      (q = p ∨ ∃ c id n, m.Visits c id (some q) (.waiting n)) := by
  induction hclimbs with
  | @root p id n hp =>
      rcases hmove.waiting hshape htokens hp with ⟨_, hp'⟩ | ⟨failure, hh, hh', hlast⟩
      · exact .inl (.root hp')
      · exact .inr ⟨p, id, none, n, failure, hp, hh, hh', hlast, nofun, .inl rfl⟩
  | @up p id q n hp _ ih =>
      rcases ih with hq | ⟨r, rid, parent, k, failure, hr, hh, hh', hlast, habove, hbelow⟩
      · rcases hmove.waiting hshape htokens hp with ⟨_, hp'⟩ | ⟨failure, hh, hh', hlast⟩
        · exact .inl (.up hp' hq)
        · refine .inr ⟨p, id, some q, n, failure, hp, hh, hh', hlast, fun r hr => ?_, .inl rfl⟩
          cases hr
          exact hq
      · refine .inr ⟨r, rid, parent, k, failure, hr, hh, hh', hlast, habove, .inr ?_⟩
        rcases hbelow with rfl | hbelow
        · exact ⟨p, id, n, hp⟩
        · exact hbelow

/-- The first visit is not in hand while it waits. -/
theorem Climbs.not_root (hclimbs : Climbs m p) (hshape : Shape s.plan.graph start h m) (hh : h.visit? = some 0) : False := by
  induction hclimbs with
  | root hp =>
      obtain rfl := hshape.tree.parentless hp.job
      obtain ⟨_, _, hover⟩ := hshape.hand 0 hh
      cases hp.symm.trans hover
  | up _ _ ih => exact ih

/-- All visits above one that is in hand wait, as long as nothing has failed. -/
theorem Debts.borne (hdebts : Debts h m) (hshape : Shape s.plan.graph start h m) (hh : h.visit? = some t) : Borne m t := by
  have hwaits : ∀ {p}, 0 < Run.owed h m p → ∃ id parent n, m.Visits p id parent (.waiting n) := fun hp =>
    waiting_of_left (hdebts.owed _ ▸ hp)
  have hclimbs : ∀ p, 0 < Run.owed h m p → Climbs m p := by
    intro p
    induction p using Nat.strong_induction_on with
    | _ p ih =>
        intro howed
        obtain ⟨id, parent, n, hp⟩ := hwaits howed
        cases parent with
        | none => exact .root hp
        | some q =>
            refine .up hp (ih q (hshape.tree.child hp.job).1 ?_)
            have hunfinished : 0 < unfinished m q :=
              List.countP_pos_iff.mpr ⟨_, List.mem_of_getElem? hp, by simp [Task.isOwedTo, Job.isBranchOf, Stage.isOver]⟩
            unfold Run.owed
            omega
  intro id p stage ht
  refine hclimbs p ?_
  have hheld : held h m p = 1 := by
    rw [held_visit hh ht]
    simp [Job.isBranchOf]
  unfold Run.owed
  omega

/-! ## What doom leads to -/

namespace Doom

theorem takes {e : Event} (htakes : Takes m e m') (hdoom : Doom .idle m) : Doom (.holds e) m' := by
  cases hdoom with
  | concluded houtcome =>
      rw [htakes.outcome.1] at houtcome
      cases houtcome
  | @told p f _ hmem hclimbs =>
      have hmem : Event.ended p (some f) ∈ m.ready := hmem
      refine told (f := f) htakes.outcome.2 ?_ (hclimbs.of_tasks htakes.tasks)
      cases htakes with
      | next _ hready =>
          rw [hready] at hmem
          exact hmem
      | tick _ hready =>
          rw [hready] at hmem
          cases hmem
  | ends _ hh => cases hh

/-- Nobody goes on, as if nothing had happened, above a visit that has failed. -/
theorem not_resumed (hdues : Dues h m) {q : Nat} {f : Failure} (hq : m.Visits q id parent (.waiting n)) (hfew : n ≤ 1)
    (hh : h = .holds (.ended q none)) (hmem : .ended p (some f) ∈ m.ready)
    (hbelow : q = p ∨ ∃ c id n, m.Visits c id (some q) (.waiting n)) : False := by
  have howed := hdues.owed q fun ⟨_, id', parent', hover⟩ => by cases hq.symm.trans hover
  rw [left_eq hq] at howed
  unfold Run.owed at howed
  rw [hh, untold_holds] at howed
  simp only [Stage.left, Event.endsFor, beq_self_eq_true, Bool.toNat_true] at howed
  rcases hbelow with rfl | ⟨c, cid, k, hc⟩
  · have huntold : 0 < untold .idle m q := List.countP_pos_iff.mpr ⟨_, hmem, by simp [Event.endsFor]⟩
    omega
  · have hunfinished : 0 < unfinished m q :=
      List.countP_pos_iff.mpr ⟨_, List.mem_of_getElem? hc, by simp [Task.isOwedTo, Job.isBranchOf, Stage.isOver]⟩
    omega

/-- That a visit has failed is not forgotten while those above it wait. -/
theorem still_told (hmove : Move s h m h' m') (htokens : Tokens h m) {f : Failure}
    (hmem : .ended p (some f) ∈ pending h m) (hclimbs : Climbs m p) (hclimbs' : Climbs m' p) :
    .ended p (some f) ∈ m'.ready := by
  obtain ⟨es, hready, _⟩ := hmove.ready htokens
  obtain ⟨_, _, _, hp⟩ := hclimbs.waits
  obtain ⟨_, _, _, hp'⟩ := hclimbs'.waits
  rcases List.mem_append.mp hmem with hhand | hqueue
  · cases h with
    | holds e =>
        obtain rfl := List.mem_singleton.mp hhand
        cases hmove with
        | drop hstale => exact absurd hp (hstale _ _ _)
        | resume =>
            rcases visits_setStage.mp hp' with ⟨_, hover, _⟩ | ⟨hne, _⟩
            · cases hover
            · exact absurd rfl hne
    | _ => cases hhand
  · rw [hready]
    exact List.mem_append_left _ hqueue

/-- A run that is doomed stays so. -/
theorem move (hmove : Move s h m h' m') (hsound : Sound s start h m) (hdues : Dues h m) (hdoom : Doom h m) :
    Doom h' m' := by
  have hshape := hsound.shape
  have htokens := hsound.tokens
  have hrunning : m.outcome = none := hsound.gated.outcome (by rintro rfl; cases hmove)
  cases hdoom with
  | concluded houtcome =>
      rw [hrunning] at houtcome
      cases houtcome
  | @told p f _ hmem hclimbs =>
      have hnone : m'.outcome = none := by
        rcases Gated.outcome_move hmove htokens with hsame | ⟨t, id, stage, failure, rfl, _, hroot, rfl⟩
        · exact hsame.trans hrunning
        · obtain rfl := hshape.tree.parentless hroot.job
          exact (hclimbs.not_root hshape rfl).elim
      rcases hclimbs.move hmove hshape htokens with hclimbs' |
        ⟨q, id, parent, n, failure, hq, rfl, rfl, hlast, habove, hbelow⟩
      · exact told (f := f) hnone (List.mem_append_right _ (still_told hmove htokens hmem hclimbs hclimbs')) hclimbs'
      · -- One of those that wait goes on, since it has heard of a failure.
        have hborne : Borne m' q := by
          intro id' r stage hq'
          rcases hmove.jobs with hjobs | ⟨_, _, _, _, _, _, _, hfalse, _⟩ | ⟨_, _, _, _, hfalse, _⟩
          · have hjob := hq'.job
            rw [hjobs, hq.job] at hjob
            cases hjob
            exact habove r rfl
          · cases hfalse
          · cases hfalse
        cases failure with
        | some f' => exact ends (f := f') hnone rfl hborne
        | none =>
            refine (not_resumed (f := f) hdues hq (hlast.resolve_left nofun) rfl ?_ hbelow).elim
            rcases List.mem_append.mp hmem with hhand | hqueue
            · cases List.mem_singleton.mp hhand
            · exact hqueue
  | @ends t f _ hh hborne =>
      subst hh
      cases hmove with
      | tell hvisits =>
          refine told (f := f) ?_ (List.mem_append_right _ ?_) ((hborne _ _ _ hvisits).of_tasks (checkStalled_tasks ..))
          · exact (Gated.checkStalled_outcome s.plan (m := m.addActive (-1)) htokens.keys).trans hrunning
          · exact List.mem_append_right _ List.mem_cons_self
      | conclude => exact concluded (f := f) rfl

end Doom
end
end Workflow.Run
