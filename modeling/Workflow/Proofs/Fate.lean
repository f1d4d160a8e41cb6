import Workflow.Proofs.Doom
import Workflow.Proofs.Halting
import Workflow.Proofs.Ledger

/-!
# Workflow.Proofs.Fate

How a run ends.

Until something fails the world of a run has a history of deeds (`Calm`).  The
first failure logs an error, and from then on the run is doomed while the clock
stands still; whatever failure ends it, there is an entry that says why
(`Doomed`).  There is nothing else (`Launch.fate`), so what a run returns or
raises can be read off its log.
-/

namespace Workflow.Run

open Machine

variable {σ : Type}

/-- The first error in the log. -/
def World.firstError? (w : World) : Option LogEntry := w.log.find? fun e => e.phase = .error

/-- Whatever fails is a node, since joins know how many branches they wait for. -/
structure NodesFail (s : Setup σ) (F : Failure → Prop) : Prop where
  nodes : ∀ f, F f → Failure.OfNode f
  required : ∀ k, ∃ r, s.plan.graph.required k = .ok r

/-- Nothing has failed, unless it is the work in hand. -/
structure Calm (plan : Plan) (w₀ : World) (piles : Nat → List Node) (h : Hand) (m : Machine σ) : Prop where
  alive : Alive h m
  history : History plan w₀ piles m.world
  hand : ∀ f, h.passes? ≠ some f
  quiet : ∀ f, f ∉ m.failures

/-- No time has passed since the first error was logged, and all failures that
are passed on have been logged. -/
structure Told (h : Hand) (m : Machine σ) : Prop where
  first : ∃ e, m.world.firstError? = some e ∧ e.time = m.world.clock
  blamed : ∀ f, h.passes? = some f ∨ f ∈ m.failures → ∃ err, f = .node err ∧ ∃ e ∈ m.world.log, e.Blames err

/-- Something has failed, and it will end the run. -/
structure Doomed (s : Setup σ) (F : Failure → Prop) (h : Hand) (m : Machine σ) : Prop where
  dues : Dues h m
  doom : Doom h m
  told : NodesFail s F → Told h m

/-- What is known of a run in the middle of it. -/
structure Fate (s : Setup σ) (F : Failure → Prop) (w₀ : World) (piles : Nat → List Node) (h : Hand) (m : Machine σ) :
    Prop where
  acting : Acting s.plan F piles h m
  mirrors : Mirrors m.world
  course : Calm s.plan w₀ piles h m ∨ Doomed s F h m

section

variable {s : Setup σ} {F : Failure → Prop} {start : Node} {h h' : Hand} {m m' : Machine σ}
  {piles piles' : Nat → List Node} {w₀ : World} {e : Event}

/-! ## Calm -/

namespace Calm

theorem unfailed {plan : Plan} (hcalm : Calm plan w₀ piles h m) (hhand : h.failure? = none) : ¬Failed h m := by
  rintro (hsome | hsome)
  · rw [hhand] at hsome
    cases hsome
  · exact hsome (List.eq_nil_iff_forall_not_mem.mpr hcalm.quiet)

theorem takes {plan : Plan} (htakes : Takes m e m') (hcalm : Calm plan w₀ piles .idle m) :
    Calm plan w₀ piles (.holds e) m' where
  alive := hcalm.alive.takes htakes
  history := by
    cases htakes with
    | next => exact hcalm.history
    | tick => exact hcalm.history.tick
  hand f hf := hcalm.quiet f (htakes.failures (.inl hf))
  quiet f hf := hcalm.quiet f (htakes.failures (.inr hf))

/-- As long as nothing fails, a move leaves it so. -/
theorem move (hmove : Move s h m h' m') (hsound : Sound s start h m) (hadds : Adds s.plan F piles h m.world piles' h' m'.world)
    (hcalm : Calm s.plan w₀ piles h m) (hhand : h.failure? = none) (hhand' : ∀ f, h'.passes? ≠ some f) :
    Calm s.plan w₀ piles' h' m' where
  alive := hcalm.alive.move hmove hsound (hcalm.unfailed hhand)
  history := by
    cases hadds with
    | whisper _ hwhisper => exact hcalm.history.whisper hwhisper
    | deeds _ _ hdeeds => exact hcalm.history.deeds hdeeds
    | lapse hh =>
        subst hh
        cases hhand
  hand := hhand'
  quiet f hf := by
    rcases hmove.failures hsound hf with hsome | hmem
    · rw [hhand] at hsome
      cases hsome
    · exact hcalm.quiet f hmem

end Calm

/-! ## Doom -/

/-- As the work in hand fails, the failure is logged. -/
theorem Adds.lapsed {plan : Plan} {w v u : World} {t : Nat} {f : Failure} (hF : ∀ f, F f → Failure.OfNode f)
    (hadds : Adds plan F piles (.works t (.fail u f)) w piles' h' v) :
    ∃ err, f = .node err ∧ ∃ ds es, v.log = w.log ++ ds ++ es ∧ (∀ e ∈ ds, e.phase ≠ .error) ∧
      (∀ e ∈ es, e.time = v.clock) ∧ ∃ e ∈ es, e.Blames err := by
  cases hadds with
  | whisper hnone => cases hnone
  | deeds _ hnone => cases hnone
  | lapse hh hf hdeeds hlapse =>
      cases hh
      obtain ⟨err, rfl⟩ := hF _ hf
      obtain ⟨_, ds, hds, hnone⟩ := hdeeds.log
      obtain ⟨es, hes, htimes, hblames⟩ := hlapse.log
      refine ⟨err, rfl, ds, es, by rw [hes, hds], hnone, fun e he => ?_, hblames⟩
      rw [(htimes e he).2, hlapse.clock]

/-- The first failure is that of the work in hand, and it is told. -/
theorem Calm.told (hmove : Move s h m h' m') (hsound : Sound s start h m)
    (hadds : Adds s.plan F piles h m.world piles' h' m'.world) (hfirst : ∀ e ∈ w₀.log, e.phase ≠ .error)
    (hcalm : Calm s.plan w₀ piles h m) (hnodes : NodesFail s F) {t : Nat} {u : World} {f : Failure}
    (hh : h = .works t (.fail u f)) : Told h' m' := by
  subst hh
  obtain ⟨err, rfl, ds, es, hlog, hds, htimes, e, he, hblames⟩ := hadds.lapsed hnodes.nodes
  have hhand : ∀ f, (Hand.works t (.fail u (.node err))).failure? = some f →
      ∃ err, f = .node err ∧ ∃ e ∈ m'.world.log, e.Blames err := by
    intro f hf
    cases hf
    exact ⟨err, rfl, e, hlog ▸ List.mem_append_right _ he, hblames⟩
  refine ⟨?_, fun f hf => ?_⟩
  · have hbefore : ∀ e ∈ m.world.log ++ ds, e.phase ≠ .error := fun e he =>
      (List.mem_append.mp he).elim (hcalm.history.unblamed hfirst e) (hds e)
    have hnone : (m.world.log ++ ds).find? (fun e => e.phase = .error) = none :=
      List.find?_eq_none.mpr fun e he => by simpa using hbefore e he
    have hsome : (es.find? fun e => e.phase = .error).isSome :=
      List.find?_isSome.mpr ⟨e, he, by simpa using hblames.phase⟩
    obtain ⟨e', he'⟩ := Option.isSome_iff_exists.mp hsome
    refine ⟨e', ?_, htimes e' (List.mem_of_find?_eq_some he')⟩
    unfold World.firstError?
    rw [hlog, List.find?_append, hnone, Option.none_or, he']
  · rcases hf with hf | hf
    · rcases hmove.passes hf with hsome | ⟨_, k, fault, _, hfault, _⟩
      · exact hhand f hsome
      · obtain ⟨r, hr⟩ := hnodes.required k
        cases hfault.symm.trans hr
    · exact (hmove.failures hsound hf).elim (hhand f) fun hmem => absurd hmem (hcalm.quiet f)

theorem Told.move (hmove : Move s h m h' m') (hsound : Sound s start h m)
    (hadds : Adds s.plan F piles h m.world piles' h' m'.world) (hnodes : NodesFail s F) (htold : Told h m) :
    Told h' m' := by
  obtain ⟨hclock, es, hlog⟩ := hadds.log
  have hkept : ∀ f, h.passes? = some f ∨ f ∈ m.failures → ∃ err, f = .node err ∧ ∃ e ∈ m'.world.log, e.Blames err := by
    intro f hf
    obtain ⟨err, rfl, e, he, hblames⟩ := htold.blamed f hf
    exact ⟨err, rfl, e, hlog ▸ List.mem_append_left es he, hblames⟩
  have hhand : ∀ f, h.failure? = some f → ∃ err, f = .node err ∧ ∃ e ∈ m'.world.log, e.Blames err := by
    intro f hf
    rcases Hand.failure?_cases hf with hpasses | ⟨t, u, rfl⟩
    · exact hkept f (.inl hpasses)
    · obtain ⟨err, rfl, ds, fs, hfs, _, _, e, he, hblames⟩ := hadds.lapsed hnodes.nodes
      exact ⟨err, rfl, e, hfs ▸ List.mem_append_right _ he, hblames⟩
  refine ⟨?_, fun f hf => ?_⟩
  · obtain ⟨e, he, htime⟩ := htold.first
    refine ⟨e, ?_, htime.trans hclock.symm⟩
    unfold World.firstError? at he ⊢
    rw [hlog, List.find?_append, he, Option.some_or]
  · rcases hf with hf | hf
    · rcases hmove.passes hf with hsome | ⟨_, k, fault, _, hfault, _⟩
      · exact hhand f hsome
      · obtain ⟨r, hr⟩ := hnodes.required k
        cases hfault.symm.trans hr
    · exact (hmove.failures hsound hf).elim (hhand f) fun hmem => hkept f (.inr hmem)

/-- The first failure dooms the run: it is that of the work in hand, or a visit
ends since nobody can tell how many branches its node waits for. -/
theorem Calm.doomed (hmove : Move s h m h' m') (hsound : Sound s start h m)
    (hadds : Adds s.plan F piles h m.world piles' h' m'.world) (hdispatch : KeptDispatch s)
    (hfirst : ∀ e ∈ w₀.log, e.phase ≠ .error) (hcalm : Calm s.plan w₀ piles h m)
    (hfails : (∃ f, h.failure? = some f) ∨ ∃ f, h'.passes? = some f) : Doomed s F h' m' := by
  have hrunning : m.outcome = none := hsound.gated.outcome (by rintro rfl; cases hmove)
  have hdues := hcalm.alive.debts.dues.move hmove hsound
  cases hhand : h.failure? with
  | some f =>
      obtain ⟨t, u, hh⟩ := (Hand.failure?_cases hhand).resolve_left (hcalm.hand f)
      refine ⟨hdues, ?_, fun hnodes => hcalm.told hmove hsound hadds hfirst hnodes hh⟩
      subst hh
      have hborne := hcalm.alive.debts.borne hsound.shape (t := t) rfl
      cases hmove with
      | fail => exact .ends (f := f) hrunning rfl fun id p stage hu => (hborne id p stage hu).of_tasks rfl
  | none =>
      obtain ⟨f, hf⟩ := hfails.resolve_left fun ⟨f, hf⟩ => by cases hhand.symm.trans hf
      rcases hmove.passes hf with hsome | ⟨t, k, fault, hh', hfault, _⟩
      · cases hhand.symm.trans hsome
      refine ⟨hdues, ?_, fun hnodes => ?_⟩
      · have hdebts := hcalm.alive.debts.move hmove hsound (hcalm.unfailed hhand)
        have hsound' := hsound.move hmove hdispatch
        exact .ends (f := f) (hsound'.gated.outcome (by rw [hh']; exact nofun)) hh'
          (hdebts.borne hsound'.shape (by rw [hh']; rfl))
      · obtain ⟨r, hr⟩ := hnodes.required k
        cases hfault.symm.trans hr

theorem Doomed.takes (htakes : Takes m e m') (hdoomed : Doomed s F .idle m) : Doomed s F (.holds e) m' := by
  have hworld : m'.world = m.world := by
    cases htakes with
    | next => rfl
    | tick houtcome hready =>
        cases hdoomed.doom with
        | concluded herror =>
            rw [houtcome] at herror
            cases herror
        | told _ hmem =>
            have hmem : _ ∈ m.ready := hmem
            rw [hready] at hmem
            cases hmem
        | ends _ hh => cases hh
  refine ⟨hdoomed.dues.takes htakes, hdoomed.doom.takes htakes, fun hnodes => ?_⟩
  have htold := hdoomed.told hnodes
  refine ⟨?_, fun f hf => ?_⟩
  · rw [hworld]
    exact htold.first
  · rw [hworld]
    exact htold.blamed f (.inr (htakes.failures hf))

theorem Doomed.move (hmove : Move s h m h' m') (hsound : Sound s start h m)
    (hadds : Adds s.plan F piles h m.world piles' h' m'.world) (hdoomed : Doomed s F h m) : Doomed s F h' m' :=
  ⟨hdoomed.dues.move hmove hsound, hdoomed.doom.move hmove hsound hdoomed.dues,
    fun hnodes => (hdoomed.told hnodes).move hmove hsound hadds hnodes⟩

/-! ## The fate of a run -/

theorem Fate.takes (htakes : Takes m e m') (hfate : Fate s F w₀ piles .idle m) : Fate s F w₀ piles (.holds e) m' where
  acting := hfate.acting.takes htakes
  mirrors := hfate.mirrors.other htakes.outputs (htakes.log.trans (List.append_nil _).symm) nofun
  course := hfate.course.imp (Calm.takes htakes) (Doomed.takes htakes)

/-- Every move leaves a run calm, or dooms it. -/
theorem Fate.move (hmove : Move s h m h' m') (hacts : ActingDispatch s F) (hdispatch : KeptDispatch s)
    (hsound : Sound s start h m) (hfirst : ∀ e ∈ w₀.log, e.phase ≠ .error) (hfate : Fate s F w₀ piles h m) :
    ∃ piles', Fate s F w₀ piles' h' m' := by
  obtain ⟨piles', hadds, hacting⟩ := hfate.acting.move hmove hacts hsound
  refine ⟨piles', hacting, hadds.mirrors hfate.mirrors, ?_⟩
  rcases hfate.course with hcalm | hdoomed
  · by_cases hfails : (∃ f, h.failure? = some f) ∨ ∃ f, h'.passes? = some f
    · exact .inr (hcalm.doomed hmove hsound hadds hdispatch hfirst hfails)
    · obtain ⟨hhand, hhand'⟩ := not_or.mp hfails
      exact .inl (hcalm.move hmove hsound hadds (Option.eq_none_iff_forall_ne_some.mpr fun f hf => hhand ⟨f, hf⟩)
        fun f hf => hhand' ⟨f, hf⟩)
  · exact .inr (hdoomed.move hmove hsound hadds)

end

namespace Launch

variable (l : Launch σ) {F : Failure → Prop}

/-- Every run is calm or doomed. -/
theorem fate (hacts : ActingDispatch l.setup F) (k : Nat) :
    ∃ piles, Fate l.setup F l.first.world piles .idle (l.state k) := by
  have hlog : l.first.world.log = [] := rfl
  induction k with
  | zero =>
      refine ⟨fun _ => [], .single .., ⟨fun k => rfl⟩, .inl ⟨.single .., .start, fun f hf => ?_, fun f hf => ?_⟩⟩
      · cases hf
      · cases hf
  | succ k ih =>
      rw [l.state_succ]
      cases hstep : step l.setup (l.state k) with
      | none => exact ih
      | some m' =>
          refine (step_induct
            (I := fun h m => Sound l.setup l.start h m ∧ ∃ piles, Fate l.setup F l.first.world piles h m)
            (fun h => h.1.shape.plain) (fun htakes ⟨hsound, piles, hfate⟩ => ?_) (fun hmove ⟨hsound, piles, hfate⟩ => ?_)
            hstep ⟨l.sound k, ih⟩).2
          · exact ⟨hsound.takes htakes, piles, hfate.takes htakes⟩
          · refine ⟨hsound.move hmove l.keptDispatch, ?_⟩
            exact hfate.move hmove hacts l.keptDispatch hsound (by simp [hlog])

variable {l} {N : Nat} {piles : Nat → List Node}

/-- A run that is doomed stays so. -/
theorem doomed_of_le {j k : Nat} (hle : j ≤ k) (hdues : Dues .idle (l.state j)) (hdoom : Doom .idle (l.state j)) :
    Dues .idle (l.state k) ∧ Doom .idle (l.state k) := by
  induction k, hle using Nat.le_induction with
  | base => exact ⟨hdues, hdoom⟩
  | succ k _ ih =>
      rw [l.state_succ]
      cases hstep : step l.setup (l.state k) with
      | none => exact ih
      | some m' =>
          refine (step_induct (I := fun h m => Sound l.setup l.start h m ∧ Dues h m ∧ Doom h m)
            (fun h => h.1.shape.plain) (fun htakes ⟨hsound, hdues, hdoom⟩ => ?_) (fun hmove ⟨hsound, hdues, hdoom⟩ => ?_)
            hstep ⟨l.sound k, ih⟩).2
          · exact ⟨hsound.takes htakes, hdues.takes htakes, hdoom.takes htakes⟩
          · exact ⟨hsound.move hmove l.keptDispatch, hdues.move hmove hsound, hdoom.move hmove hsound hdues⟩

namespace Halted

/-- A doomed run comes to a halt with a failure. -/
theorem fails (hhalt : l.Halted N) (hdoom : Doom .idle (l.state N)) : ∃ f, (l.state N).outcome = some (.error f) := by
  cases hdoom with
  | concluded houtcome => exact ⟨_, houtcome⟩
  | told hrunning hmem =>
      have hmem : _ ∈ (l.state N).ready := hmem
      unfold Halted step at hhalt
      rw [hrunning] at hhalt
      cases hready : (l.state N).ready with
      | nil =>
          rw [hready] at hmem
          cases hmem
      | cons e rest =>
          rw [hready] at hhalt
          cases hhalt
  | ends _ hh => cases hh

/-- A run that has come to a halt has returned a result if it is calm, and has
failed otherwise. -/
theorem ended (hhalt : l.Halted N) (hfate : Fate l.setup F l.first.world piles .idle (l.state N)) :
    (∃ v, (l.state N).outcome = some (.ok v) ∧ Calm l.given l.first.world piles .idle (l.state N)) ∨
    ∃ f, (l.state N).outcome = some (.error f) ∧ Doomed l.setup F .idle (l.state N) := by
  rcases hfate.course with hcalm | hdoomed
  · have hover := hcalm.alive.settled (l.sound N) hhalt
    cases houtcome : (l.state N).outcome with
    | none => exact absurd houtcome hover
    | some outcome =>
        cases outcome with
        | ok v => exact .inl ⟨v, rfl, hcalm⟩
        | error f => exact absurd (mem_failures.mpr (.inr houtcome)) (hcalm.quiet f)
  · obtain ⟨f, houtcome⟩ := hhalt.fails hdoomed.doom
    exact .inr ⟨f, houtcome, hdoomed⟩

/-- A run that has returned has had no failures. -/
theorem unfailing (hhalt : l.Halted N) {v : Value} (houtcome : (l.state N).outcome = some (.ok v)) (k : Nat) :
    (l.state k).failures = [] := by
  obtain ⟨piles, hfate⟩ := l.fate l.actingDispatch k
  rcases hfate.course with hcalm | hdoomed
  · exact List.eq_nil_iff_forall_not_mem.mpr hcalm.quiet
  · have hlater := (doomed_of_le (Nat.le_max_left k N) hdoomed.dues hdoomed.doom).2
    rw [show l.state (max k N) = l.state N from run_of_halt hhalt (Nat.le_max_right k N)] at hlater
    obtain ⟨f, herror⟩ := hhalt.fails hlater
    rw [houtcome] at herror
    cases herror

/-- Nothing is open when a calm run has come to a halt. -/
theorem history (hhalt : l.Halted N) (hacting : Acting l.given F piles .idle (l.state N))
    (hcalm : Calm l.given l.first.world piles .idle (l.state N)) :
    History l.given l.first.world (fun _ => []) (l.state N).world := by
  have hover : ∀ {t id parent stage}, (l.state N).Visits t id parent stage → stage = .over :=
    hcalm.alive.finished (hcalm.alive.settled (l.sound N) hhalt)
  have hempty : piles = fun _ => [] := funext fun t => hacting.idle t fun id ⟨parent, stage, hvisits, hexec⟩ => by
    obtain rfl := hover hvisits
    rcases hexec with hexec | hexec
    · cases hexec
    · cases hexec
  rw [← hempty]
  exact hcalm.history

end Halted
end Launch
end Workflow.Run
