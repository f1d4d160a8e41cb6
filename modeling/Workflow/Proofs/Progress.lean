import Workflow.Proofs.Awaited

/-!
# Workflow.Proofs.Progress

A run without failures is never stranded.

Suppose every unfinished visit were parked or waiting for others, with nothing
under way that lets it go on.  Then no visit runs, so all gates are open and
nobody is parked at them.  So everybody waits for a visit that was begun later,
which cannot go on for ever (`Alive.not_stranded`).

When the first visit ends all others have ended (`Alive.all_over`), since each
waits for those it began.
-/

namespace Workflow.Run

open Machine

variable {σ : Type}

/-! ## What keeps a run alive -/

/-- What holds of runs without failures. -/
structure Alive (h : Hand) (m : Machine σ) : Prop where
  debts : Debts h m
  awaited : Awaited h m
  root : m.outcome = none →
    (∃ id stage, m.Visits 0 id none stage ∧ stage.isOver = false) ∨ h.visit? = some 0
  vacant : ∀ j ∈ m.joins, j.gate.released = true → j.parked = []
  finished : m.outcome ≠ none → ∀ {t id parent stage}, m.Visits t id parent stage → stage = .over

namespace Machine

/-- Nothing is under way that lets a visit at this stage go on. -/
def Stuck (m : Machine σ) (t : Nat) (stage : Stage) : Prop :=
  (stage = .parked ∧ .pass t ∉ m.ready) ∨ (∃ n, stage = .waiting n) ∧ ∀ failure, .ended t failure ∉ m.ready

/-- The run is not over, but all its unfinished visits are parked or wait for
others, and nothing is under way that lets one of them go on. -/
def Stranded (m : Machine σ) : Prop :=
  m.outcome = none ∧ ∀ t id parent stage, m.Visits t id parent stage → stage = .over ∨ m.Stuck t stage

end Machine

section

variable {s : Setup σ} {start : Node} {h h' : Hand} {m m' : Machine σ} {t : Nat} {id : NodeId} {parent : Option Nat}
  {stage : Stage}

theorem eq_over (hover : stage.isOver = true) : stage = .over := by
  cases stage <;> first | rfl | cases hover

namespace Alive

/-- An unfinished visit that has been begun by a visit is owed to it. -/
theorem unfinished_pos {p : Nat} (hvisits : m.Visits t id (some p) stage) (hover : stage.isOver = false) :
    0 < unfinished m p := by
  refine List.countP_pos_iff.mpr ⟨_, List.mem_of_getElem? hvisits, ?_⟩
  simp [Task.isOwedTo, Job.isBranchOf, hover]

/-- When the first visit is in hand to end, all visits are over. -/
theorem all_over (hshape : Shape s.plan.graph start (.ends t none) m) (hdebts : Debts (.ends t none) m)
    (hroot : m.Visits t id none stage) {u : Nat} {id' : NodeId} {parent' : Option Nat} {stage' : Stage}
    (hu : m.Visits u id' parent' stage') : stage' = .over := by
  obtain rfl := hshape.tree.parentless hroot.job
  obtain ⟨_, _, hover⟩ := hshape.hand 0 rfl
  induction u using Nat.strong_induction_on generalizing id' parent' stage' with
  | _ u ih =>
      cases parent' with
      | none =>
          obtain rfl := hshape.tree.parentless hu.job
          exact (hu.unique hover).2.2
      | some p =>
          obtain ⟨hlt, pid, pparent, _, hjob, _⟩ := hshape.tree.child hu.job
          obtain ⟨pstage, hp⟩ := jobs_getElem?.mp hjob
          obtain rfl := ih p hlt hp
          cases hstage' : stage'.isOver with
          | true => exact eq_over hstage'
          | false =>
              have howed := hdebts.owed p
              have hpositive := unfinished_pos hu hstage'
              unfold owed at howed
              rw [left_eq hp] at howed
              simp only [Stage.left] at howed
              omega

theorem root_move (hmove : Move s h m h' m') (hsound : Sound s start h m) (halive : Alive h m)
    (houtcome : m'.outcome = none) :
    (∃ id stage, m'.Visits 0 id none stage ∧ stage.isOver = false) ∨ h'.visit? = some 0 := by
  have hrunning : m.outcome = none := hsound.gated.outcome (by rintro rfl; cases hmove)
  obtain ⟨id, stage, hvisits, hstage⟩ :
      ∃ id stage, m.Visits 0 id none stage ∧ (stage.isOver = false ∨ h.visit? = some 0) := by
    rcases halive.root hrunning with ⟨id, stage, hvisits, hopen⟩ | hh
    · exact ⟨id, stage, hvisits, .inl hopen⟩
    · obtain ⟨stage, hvisits⟩ := jobs_getElem?.mp hsound.shape.tree.root
      exact ⟨_, stage, hvisits, .inr hh⟩
  obtain ⟨_, hu, hre⟩ := hmove.restage hsound.shape hsound.tokens hvisits
  cases hre with
  | other habout => exact .inl ⟨id, _, hu, hstage.resolve_right fun hh => habout (Hand.about_of_visit hh)⟩
  | late => exact .inl ⟨id, _, hu, hstage.resolve_right nofun⟩
  | park | count | fill | call | tools | spread => exact .inl ⟨id, _, hu, rfl⟩
  | enter | turn | pass | answer | resume | gather | reply | noTools | stop | fail => exact .inr rfl
  | @leave failure =>
      cases hmove with
      | tell hvisits' => cases (hvisits.unique hvisits').2.1
      | conclude => cases failure <;> cases houtcome

theorem vacant_givenUp {js : List Join} (hvacant : ∀ j ∈ js, j.gate.released = true → j.parked = []) :
    ∀ j ∈ js.map givenUp, j.gate.released = true → j.parked = [] := by
  intro j hj _
  obtain ⟨i, hi, rfl⟩ := List.mem_map.mp hj
  unfold givenUp
  split
  next hreleased => exact hvacant i hi hreleased
  · rfl

theorem vacant_move (hmove : Move s h m h' m') (hsound : Sound s start h m) (hunfailed : ¬Failed h m)
    (hvacant : ∀ j ∈ m.joins, j.gate.released = true → j.parked = []) :
    ∀ j ∈ m'.joins, j.gate.released = true → j.parked = [] := by
  have htokens := hsound.tokens
  have hkeys := htokens.keys
  have hstalled : ∀ j ∈ ((m.addActive (-1)).checkStalled s.plan).joins, j.gate.released = true → j.parked = [] := by
    rw [Gated.checkStalled_joins s.plan (m := m.addActive (-1)) hkeys]
    split
    · exact hvacant
    · exact vacant_givenUp hvacant
  -- A visit that arrives in vain has made nobody free, since the gate is closed.
  have harrived : ∀ {id : NodeId} {required : Nat} {gate : Gate}, gate.released = false →
      ∀ j ∈ (m.arrived { m.join id required with gate }).joins, j.gate.released = true → j.parked = [] := fun hclosed =>
    forall_putJoin (fun hreleased => absurd (hclosed.symm.trans hreleased) nofun) hvacant
  cases hmove with
  | @release _ t id _ _ required gate records n =>
      rw [Gated.release_joins]
      refine forall_putJoin (fun hreleased => ?_) hvacant
      unfold opened at hreleased ⊢
      split at hreleased
      next hopen => rw [if_pos hopen]
      next hclosed => exact absurd hreleased hclosed
  | @park _ t id _ _ required gate _ _ _ _ hgate hclosed =>
      obtain ⟨_, hunreleased, _, heq⟩ := Gated.closed_arrival hkeys hgate hclosed
      rw [heq]
      intro j hj hreleased
      obtain ⟨i, hi, rfl⟩ := List.mem_map.mp hj
      by_cases hkey : i.id.key = id.key
      · rcases mem_putJoin hi with rfl | ⟨_, hne⟩
        · rw [if_pos (by simpa using hkey)] at hreleased
          exact absurd (hunreleased.symm.trans hreleased) nofun
        · exact absurd (hkey.trans (join_key m id required).symm) hne
      · rw [if_neg (by simpa using hkey)] at hreleased ⊢
        exact harrived hunreleased i hi hreleased
  | @turn _ t id _ _ required gate records hvisits hnew hrequired hmany hgate hopen =>
      obtain ⟨_, hgate', records', heq⟩ := hsound.gated.turned htokens hvisits hnew hrequired hmany hgate hopen
      have hclosed : gate.released = false := by
        rcases Gate.arrive_false hgate with ⟨_, hsame⟩ | ⟨hclosed, rfl, _⟩
        · have harrived := congrArg Gate.arrived (hsame.symm.trans hgate')
          exact absurd harrived (Nat.succ_ne_self _).symm
        · exact hclosed
      rw [heq]
      exact vacant_givenUp (harrived hclosed)
  | tell => exact hstalled
  | @conclude _ t id stage failure =>
      cases failure with
      | none => exact hstalled
      | some f => exact absurd (.inl rfl) hunfailed
  | _ => exact hvacant

theorem finished_move (hmove : Move s h m h' m') (hsound : Sound s start h m) (hunfailed : ¬Failed h m)
    (halive : Alive h m) (hsettled : m'.outcome ≠ none) (hvisits : m'.Visits t id parent stage) : stage = .over := by
  have hrunning : m.outcome = none := hsound.gated.outcome (by rintro rfl; cases hmove)
  rcases Gated.outcome_move hmove hsound.tokens with hsame | ⟨u, uid, ustage, failure, rfl, _, hroot, rfl⟩
  · exact absurd (hsame.trans hrunning) hsettled
  · cases failure with
    | some f => exact absurd (.inl rfl) hunfailed
    | none =>
        have htasks := (conclude_tasks ((m.addActive (-1)).checkStalled s.plan) none).trans
          (checkStalled_tasks s.plan (m.addActive (-1)))
        exact all_over hsound.shape halive.debts hroot (hvisits.of_tasks htasks.symm)

/-- Every move without failures keeps a run alive. -/
theorem move (hmove : Move s h m h' m') (hsound : Sound s start h m) (hunfailed : ¬Failed h m)
    (halive : Alive h m) : Alive h' m' where
  debts := halive.debts.move hmove hsound hunfailed
  awaited := halive.awaited.move hmove hsound.shape hsound.tokens
  root := halive.root_move hmove hsound
  vacant := vacant_move hmove hsound hunfailed halive.vacant
  finished hsettled _ _ _ _ hvisits := halive.finished_move hmove hsound hunfailed hsettled hvisits

theorem takes {e : Event} (htakes : Takes m e m') (halive : Alive .idle m) : Alive (.holds e) m' := by
  have htasks := htakes.tasks
  refine ⟨halive.debts.takes htakes, halive.awaited.takes htakes, fun _ => ?_, ?_, fun hsettled => ?_⟩
  · rcases halive.root htakes.outcome.1 with ⟨id, stage, hvisits, hover⟩ | hfalse
    · exact .inl ⟨id, stage, hvisits.of_tasks htasks, hover⟩
    · cases hfalse
  · rw [htakes.joins]
    exact halive.vacant
  · exact absurd htakes.outcome.2 hsettled

/-- A run is alive as it begins. -/
theorem single (w : World) (services : σ) (id : NodeId) (active : Int) :
    Alive .idle (Machine.single w services (.visit id none) active) :=
  ⟨.single w services id active, .single w services id active, fun _ => .inl ⟨id, .queued, rfl, rfl⟩,
    fun _ hj => absurd hj List.not_mem_nil, fun hsettled => absurd rfl hsettled⟩

/-! ## Nobody is stranded -/

/-- A parked visit that no event lets go is named by a join. -/
theorem parked_at (hsound : Sound s start .idle m) (hvisits : m.Visits t id parent .parked) (hstuck : .pass t ∉ m.ready) :
    ∃ j ∈ m.joins, t ∈ j.parked := by
  have hpass := hsound.tokens.pass hvisits
  have hnone : m.ready.countP (Event.passes t) = 0 := by
    refine List.countP_eq_zero.mpr fun e he => ?_
    cases e with
    | pass u =>
        intro heq
        simp only [Event.passes, beq_iff_eq] at heq
        exact hstuck (heq ▸ he)
    | _ => exact Bool.false_ne_true
  rw [passes_idle, hnone, Nat.zero_add] at hpass
  by_contra hno
  have hzero : parkings m.joins t = 0 := by
    unfold parkings
    refine List.sum_eq_zero_iff_forall_eq_nat.mpr fun n hn => ?_
    obtain ⟨j, hj, rfl⟩ := List.mem_map.mp hn
    exact List.count_eq_zero.mpr fun hmem => hno ⟨j, hj, hmem⟩
  rw [hzero] at hpass
  cases hpass

/-- Where all unfinished visits are stuck, none of them runs. -/
theorem running_stranded (hstranded : m.Stranded) : running m = 0 := by
  refine List.countP_eq_zero.mpr fun task htask => ?_
  obtain ⟨t, ht⟩ := List.mem_iff_getElem?.mp htask
  obtain ⟨job, stage⟩ := task
  cases job with
  | visit id parent =>
      rcases hstranded.2 t id parent stage ht with rfl | ⟨rfl, _⟩ | ⟨⟨n, rfl⟩, _⟩ <;> exact Bool.false_ne_true
  | _ => exact Bool.false_ne_true

/-- While nobody runs all gates are open, so every parked visit is let go. -/
theorem let_go (hsound : Sound s start .idle m) (halive : Alive .idle m) (hnobody : running m = 0)
    (hvisits : m.Visits t id parent .parked) : .pass t ∈ m.ready := by
  have hidle : m.active ≤ 0 := by
    have hactive := hsound.gated.active
    simp only [Hand.weight] at hactive
    omega
  by_contra hpass
  obtain ⟨j, hj, hmem⟩ := parked_at hsound hvisits hpass
  rw [halive.vacant j hj (hsound.gated.idle hidle j hj)] at hmem
  cases hmem

/-- A visit that waits, while no end is about to be told to it, has begun a visit
that has not ended. -/
theorem waits_for (halive : Alive .idle m) {n : Nat} (hvisits : m.Visits t id parent (.waiting n))
    (hended : ∀ failure, .ended t failure ∉ m.ready) :
    ∃ u id' stage', m.Visits u id' (some t) stage' ∧ stage'.isOver = false := by
  have huntold : untold .idle m t = 0 := by
    refine List.countP_eq_zero.mpr fun e he => ?_
    cases e with
    | ended u failure =>
        intro heq
        simp only [Event.endsFor, beq_iff_eq] at heq
        exact hended failure (heq ▸ he)
    | _ => exact Bool.false_ne_true
  have hsome : 0 < unfinished m t := by
    have howed := halive.debts.owed t
    have hpositive := halive.debts.positive _ _ _ _ hvisits
    rw [left_eq hvisits] at howed
    unfold owed at howed
    rw [held_none rfl, huntold] at howed
    simp only [Stage.left] at howed
    omega
  obtain ⟨⟨job, stage⟩, htask, howes⟩ := List.countP_pos_iff.mp hsome
  obtain ⟨u, hu⟩ := List.mem_iff_getElem?.mp htask
  simp only [Task.isOwedTo, Bool.and_eq_true, Bool.not_eq_true'] at howes
  cases job with
  | visit id' parent' =>
      cases parent' with
      | some p =>
          obtain rfl : p = t := by simpa [Job.isBranchOf] using howes.1
          exact ⟨u, id', stage, hu, howes.2⟩
      | none => cases howes.1
  | _ => cases howes.1

/-- A run that is alive is not stranded: every unfinished visit would wait for one
that was begun after it. -/
theorem not_stranded (hsound : Sound s start .idle m) (halive : Alive .idle m) : ¬m.Stranded := by
  intro hstranded
  have hnext : ∀ {t id parent stage}, m.Visits t id parent stage → stage.isOver = false →
      ∃ u id' parent' stage', t < u ∧ m.Visits u id' parent' stage' ∧ stage'.isOver = false := by
    intro t id parent stage hvisits hover
    rcases hstranded.2 t id parent stage hvisits with rfl | ⟨rfl, hpass⟩ | ⟨⟨n, rfl⟩, hended⟩
    · cases hover
    · exact absurd (halive.let_go hsound (running_stranded hstranded) hvisits) hpass
    · obtain ⟨u, id', stage', hu, hover'⟩ := halive.waits_for hvisits hended
      exact ⟨u, id', some t, stage', (hsound.shape.tree.child hu.job).1, hu, hover'⟩
  have hnone : ∀ d t id parent stage, m.tasks.length - t = d → m.Visits t id parent stage → stage.isOver = false →
      False := by
    intro d
    induction d using Nat.strong_induction_on with
    | _ d ih =>
        intro t id parent stage hd hvisits hover
        obtain ⟨u, id', parent', stage', hlt, hu, hover'⟩ := hnext hvisits hover
        have hu' := hu.lt
        exact ih (m.tasks.length - u) (by omega) u id' parent' stage' rfl hu hover'
  rcases halive.root hstranded.1 with ⟨id, stage, hvisits, hover⟩ | hfalse
  · exact hnone _ 0 id none stage rfl hvisits hover
  · cases hfalse

/-- Where nothing can happen, the run is over. -/
theorem settled (hsound : Sound s start .idle m) (halive : Alive .idle m) (hhalt : step s m = none) :
    m.outcome ≠ none := by
  intro hrunning
  have hquiet : m.ready = [] ∧ m.sleepers = [] := by
    unfold step at hhalt
    rw [hrunning] at hhalt
    simp only [Option.isSome_none, Bool.false_eq_true, if_false] at hhalt
    split at hhalt
    · cases hhalt
    next hready =>
      split at hhalt
      · cases hhalt
      next hearliest => exact ⟨hready, earliest_none hearliest⟩
  obtain ⟨hready, hsleepers⟩ := hquiet
  have hnothing : ∀ e, e ∉ pending .idle m := fun e he => by
    have hmem : e ∈ m.ready := he
    rw [hready] at hmem
    cases hmem
  have hnoAnswer : ∀ t, ¬Answering .idle m t := by
    rintro t (⟨x, hx, _⟩ | ⟨outcome, hmem⟩)
    · rw [hsleepers] at hx
      cases hx
    · exact hnothing _ hmem
  have hnoTool : ∀ {u p index task}, ¬m.Tools u p index task .queued := fun hu =>
    (halive.awaited.tools hu).elim (hnothing _) (hnoAnswer _)
  refine halive.not_stranded hsound ⟨hrunning, fun t id parent stage hvisits => ?_⟩
  cases stage with
  | parked => exact .inr (.inl ⟨rfl, hnothing _⟩)
  | waiting n => exact .inr (.inr ⟨⟨n, rfl⟩, fun _ => hnothing _⟩)
  | queued =>
      have hstart := hsound.tokens.start hvisits
      rw [starts_idle, hready] at hstart
      cases hstart
  | calling next => exact absurd (halive.awaited.calling hvisits) (hnoAnswer t)
  | gathering slots next =>
      obtain ⟨i, hi⟩ := filled?_some (halive.awaited.lacking hvisits)
      rcases halive.awaited.gathering hvisits hi with ⟨u, task, htool⟩ | ⟨outcome, hmem⟩
      · exact absurd htool hnoTool
      · exact absurd hmem (hnothing _)
  | _ => exact .inl rfl

end Alive
end

namespace Launch

/-- A run without failures is alive in every state. -/
theorem alive (l : Launch σ) (hnone : ∀ k, (l.state k).failures = []) (k : Nat) : Alive .idle (l.state k) :=
  l.unfailing_induct hnone (.single ..) (fun htakes _ h => h.takes htakes)
    (fun hmove hsound hunfailed _ h => h.move hmove hsound hunfailed) k

end Launch
end Workflow.Run
